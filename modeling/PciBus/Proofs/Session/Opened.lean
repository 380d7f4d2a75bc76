import PciBus.Proofs.Session.Opening
import PciBus.Proofs.Session.Resolution

/-!
# What opening a device comes to

A session that has a context refuses to open a device and nothing happens. Any
other one installs the context, and opens a device exactly if one function alone
qualifies and has a flag in its directory (`Session.openDevice_accounted`). All
that has changed on the machine by then is the flag, and nothing has if opening
fails.
-/

namespace PciBus

variable {τ : Type}

/-- Of the whole machine, the first byte of one file has changed at most, and
is a set flag now. -/
structure FlagRaised (id : Nat) (before after : Machine) : Prop where
  flag : (after.files.bytes id).byteAt 0 = Handle.flagOn
  bytes : ∀ other i, (other, i) ≠ (id, 0) →
    (after.files.bytes other).byteAt i = (before.files.bytes other).byteAt i
  sizes : ∀ other, (after.files.bytes other).size = (before.files.bytes other).size
  entries : after.files.entries = before.files.entries
  beyond : after.files.beyond = before.files.beyond
  rest : { after with files := before.files } = before

theorem flagRaised_overwrite {m : Machine} {id : Nat} (hflagged : Flagged (m.files.bytes id)) :
    FlagRaised id m { m with files := m.files.overwrite id 0 [Handle.flagOn] } := by
  have hsize := hflagged.size_pos
  constructor
  · show ((m.files.overwrite id 0 [Handle.flagOn]).bytes id).byteAt 0 = Handle.flagOn
    rw [Files.bytes_overwrite, if_pos rfl, Bytes.byteAt_overwrite_first hsize, if_pos rfl]
  · intro other i hother
    show ((m.files.overwrite id 0 [Handle.flagOn]).bytes other).byteAt i = _
    rw [Files.bytes_overwrite]
    split
    · rename_i hsame
      subst hsame
      have hi : i ≠ 0 := fun hi => hother (by rw [hi])
      rw [Bytes.byteAt_overwrite_first hsize, if_neg hi]
    · rfl
  · intro other
    show ((m.files.overwrite id 0 [Handle.flagOn]).bytes other).size = _
    rw [Files.bytes_overwrite]
    split
    · rw [Bytes.size_overwrite]
    · rfl
  · rfl
  · rfl
  · rfl

namespace Session

variable {context : Context} {whitelist : Whitelist τ} {wanted : Wanted} {b : Bench}

/-- Opening a device asks for no BAR. -/
theorem choices_fst (context : Context) (whitelist : Whitelist τ) (wanted : Wanted) (b : Bench) :
    (choices context whitelist wanted b).map Prod.fst =
      survivors context b.machine whitelist { filter := wanted.filter } := by
  unfold choices survivors
  rw [Whitelist.candidates_fst]
  apply List.filter_congr
  intro record _
  rw [Bool.eq_iff_iff, decide_eq_true_iff, ← qualifies_iff]
  simp [Wanted.addressed]

theorem choices_eq_singleton_iff {record : Record} :
    survivors context b.machine whitelist { filter := wanted.filter } = [record] ↔
      ∃ entry, choices context whitelist wanted b = [(record, entry)] := by
  rw [← choices_fst]
  constructor
  · intro h
    obtain ⟨found, hchoice, rfl⟩ := List.map_eq_singleton_iff.mp h
    exact ⟨found.2, hchoice⟩
  · rintro ⟨entry, hchoice⟩
    rw [hchoice]
    rfl

theorem firstFor_of_choice {record : Record} {entry : Supported τ}
    (hchoice : choices context whitelist wanted b = [(record, entry)]) :
    whitelist.FirstFor record entry := by
  apply Whitelist.firstFor_of_mem_candidates
  rw [show whitelist.candidates _ _ = [(record, entry)] from hchoice]
  exact List.mem_singleton_self _

/-- One function alone qualifies, and file `id` in its directory is a flag. -/
structure Openable (context : Context) (whitelist : Whitelist τ) (wanted : Wanted) (b : Bench)
    (record : Record) (id : Nat) : Prop where
  only : survivors context b.machine whitelist { filter := wanted.filter } = [record]
  file : b.machine.files.fileAt
    (Files.join (Files.join b.session.root record.location.name) "enable") = .ok id
  flagged : Flagged (b.machine.files.bytes id)

/-- What opening a device comes to. -/
structure Opened (context : Context) (whitelist : Whitelist τ) (wanted : Wanted)
    (b : Bench) : Prop where
  taken : b.session.context.isSome →
    (openDevice context whitelist wanted b).1.result = .error .contextInstalled ∧
      (openDevice context whitelist wanted b).2 = b
  installed : b.session.context = none →
    (openDevice context whitelist wanted b).2.session =
      { context := some context
        registry := ⟨.release :: b.session.registry.due⟩
        root := b.session.root }
  succeeds : b.session.context = none →
    ((∃ handle, (openDevice context whitelist wanted b).1.result = .ok handle) ↔
      ∃ record id, Openable context whitelist wanted b record id)
  /-- The handle is on and unmapped, and remembers whether the flag was clear. -/
  handle : ∀ handle, (openDevice context whitelist wanted b).1.result = .ok handle →
    ∃ record entry id, Openable context whitelist wanted b record id ∧
      whitelist.FirstFor record entry ∧
      handle =
        { name := (context.name? b.machine record.vendor record.device).getD "unknown"
          record := record
          path := Files.join b.session.root record.location.name
          tag := entry.tag
          mapping := none
          enabled := true
          wasDisabled := (b.machine.files.bytes id).byteAt 0 = Handle.flagOff } ∧
      FlagRaised id b.machine (openDevice context whitelist wanted b).2.machine
  failed : ∀ e, (openDevice context whitelist wanted b).1.result = .error e →
    (openDevice context whitelist wanted b).2.machine = b.machine

theorem openDevice_opened (hfree : b.session.context = none) {record : Record} {id : Nat}
    (hopenable : Openable context whitelist wanted b record id) :
    ∃ entry, whitelist.FirstFor record entry ∧
      (openDevice context whitelist wanted b).1.result =
        .ok ((newHandle context b (record, entry)).switchedOn
          ((b.machine.files.bytes id).byteAt 0 = Handle.flagOff)) ∧
      (openDevice context whitelist wanted b).2 = (Session.installed context b).withFiles
        (b.machine.files.overwrite id 0 [Handle.flagOn]) := by
  obtain ⟨entry, hchoice⟩ := choices_eq_singleton_iff.mp hopenable.only
  have hflag : (newHandle context b (record, entry)).HasFlag b.machine.files id :=
    ⟨hopenable.file, hopenable.flagged⟩
  exact ⟨entry, firstFor_of_choice hchoice, openDevice_found hfree hchoice hflag⟩

theorem openDevice_unopened (hfree : b.session.context = none)
    (hnone : ∀ record id, ¬ Openable context whitelist wanted b record id) :
    (∃ e, (openDevice context whitelist wanted b).1.result = .error e) ∧
      (openDevice context whitelist wanted b).2 = Session.installed context b := by
  apply openDevice_failed hfree
  rintro ⟨record, entry⟩ id hchoice hflag
  exact hnone record id ⟨choices_eq_singleton_iff.mpr ⟨entry, hchoice⟩, hflag.1, hflag.2⟩

/-- **Opening a device**, in every session, on every machine and for every
whitelist and filter. -/
theorem openDevice_accounted (context : Context) (whitelist : Whitelist τ) (wanted : Wanted)
    (b : Bench) : Opened context whitelist wanted b := by
  cases hcontext : b.session.context with
  | some old =>
      obtain ⟨hresult, hstate⟩ : _ ∧ (openDevice context whitelist wanted b).2 = b :=
        openDevice_taken whitelist wanted hcontext
      exact {
        taken := fun _ => ⟨hresult, hstate⟩
        installed := fun hfree => by rw [hcontext] at hfree; cases hfree
        succeeds := fun hfree => by rw [hcontext] at hfree; cases hfree
        handle := fun handle h => by rw [hresult] at h; cases h
        failed := fun e _ => by rw [hstate] }
  | none =>
      have htaken : ¬ b.session.context.isSome := by simp [hcontext]
      by_cases hopen : ∃ record id, Openable context whitelist wanted b record id
      · obtain ⟨record, id, hopenable⟩ := hopen
        obtain ⟨entry, hentry, hresult, hstate⟩ := openDevice_opened hcontext hopenable
        exact {
          taken := fun h => absurd h htaken
          installed := fun _ => by rw [hstate]; rfl
          succeeds := fun _ => iff_of_true ⟨_, hresult⟩ ⟨record, id, hopenable⟩
          handle := by
            intro handle h
            obtain rfl := Except.ok.inj (hresult.symm.trans h)
            rw [hstate]
            exact ⟨record, entry, id, hopenable, hentry, rfl,
              flagRaised_overwrite hopenable.flagged⟩
          failed := fun e h => by rw [hresult] at h; cases h }
      · obtain ⟨⟨e, hresult⟩, hstate⟩ := openDevice_unopened hcontext
          fun record id h => hopen ⟨record, id, h⟩
        exact {
          taken := fun h => absurd h htaken
          installed := fun _ => by rw [hstate]; rfl
          succeeds := fun _ => by
            refine iff_of_false ?_ hopen
            rintro ⟨handle, h⟩
            rw [hresult] at h
            cases h
          handle := fun handle h => by rw [hresult] at h; cases h
          failed := fun e _ => by rw [hstate]; rfl }

end Session

end PciBus

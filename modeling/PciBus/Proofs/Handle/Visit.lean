import PciBus.Proofs.Handle.Sharing

/-!
# Switching on and back

A new handle that switches its device on needs no more than a flag to find:
afterwards the flag is set, whatever it was (`Handle.enable_flagged`), and
without a flag nothing is done (`Handle.enable_unflagged`). Closing the handle
then cannot fail, and leaves the very files that were there before
(`Handle.close_switchedOn`).
-/

namespace PciBus

variable {τ : Type}

/-! ## Files with the flag set -/

namespace Files

variable {files : Files} {id : Nat}

/-- Two trees with the same names and the same bytes are the same. -/
theorem eq_of_bytes {a b : Files} (hentries : a.entries = b.entries)
    (hbeyond : a.beyond = b.beyond) (hsize : a.contents.size = b.contents.size)
    (hbytes : ∀ id, a.bytes id = b.bytes id) : a = b := by
  have hcontents : a.contents = b.contents := by
    refine Array.ext hsize fun i hi hi' => ?_
    simpa [bytes, Array.getD, hi, hi'] using hbytes i
  obtain ⟨entries, contents, beyond⟩ := a
  obtain rfl : entries = b.entries := hentries
  obtain rfl : contents = b.contents := hcontents
  obtain rfl : beyond = b.beyond := hbeyond
  rfl

/-- Where the flag stands already, setting it changes nothing. -/
theorem overwrite_first_self {flag : UInt8} (hsize : 0 < (files.bytes id).size)
    (hflag : (files.bytes id).byteAt 0 = flag) : files.overwrite id 0 [flag] = files := by
  refine eq_of_bytes rfl rfl (by simp [overwrite]) fun other => ?_
  rw [bytes_overwrite]
  split
  · rename_i hsame
    subst hsame
    exact Bytes.overwrite_first_self hsize hflag
  · rfl

/-- Putting the first byte back undoes what was laid over it. -/
theorem overwrite_first_back {before : UInt8} (hsize : 0 < (files.bytes id).size)
    (hbefore : (files.bytes id).byteAt 0 = before) (flag : UInt8) :
    (files.overwrite id 0 [flag]).overwrite id 0 [before] = files := by
  refine eq_of_bytes rfl rfl (by simp [overwrite]) fun other => ?_
  rw [bytes_overwrite, bytes_overwrite]
  split
  · rename_i hsame
    subst hsame
    refine Bytes.eq_of_byteAt (by simp) fun i _ => ?_
    rw [Bytes.byteAt_overwrite_first (by simpa using hsize), Bytes.byteAt_overwrite_first hsize]
    split
    · rename_i hi
      rw [hi, hbefore]
    · rfl
  · rfl

theorem grows_overwrite (files : Files) (id offset : Nat) (values : List UInt8) :
    Grows files (files.overwrite id offset values) := by
  refine ⟨rfl, fun other => ?_⟩
  rw [bytes_overwrite]
  split <;> simp

end Files

/-! ## A new handle -/

theorem ok_of_toOption {ε α : Type} {x : Except ε α} {a : α} (h : x.toOption = some a) :
    x = .ok a := by
  cases x with
  | error e => cases h
  | ok b => rw [Option.some.inj h]

namespace Handle

variable {h : Handle τ} {files : Files} {id : Nat}

/-- The handle when it has switched its device on; `found` says that the
device was off. -/
def switchedOn (h : Handle τ) (found : Bool) : Handle τ :=
  { h with enabled := true, wasDisabled := found }

/-- The enable file of the device has number `id` and starts with a flag. -/
def HasFlag (h : Handle τ) (files : Files) (id : Nat) : Prop :=
  h.Governs files id ∧ Flagged (files.bytes id)

/-- A new handle that finds a flag switches its device on. -/
theorem enable_flagged (hnew : h.IsNew) (hflag : h.HasFlag files id) :
    (h.enable files).1.result =
        .ok (h.switchedOn ((files.bytes id).byteAt 0 = flagOff)) ∧
      (h.enable files).2 = files.overwrite id 0 [flagOn] := by
  obtain ⟨hgoverns, hflagged⟩ := hflag
  have hsize := hflagged.size_pos
  have hoff : ¬ h.enabled = true := by simp [hnew.enabled]
  have happly := enable_apply h files
  rw [if_neg hoff, switch, hgoverns.flag?_eq hflagged] at happly
  rcases hflagged with hclear | hset
  · -- the flag is clear, and the handle sets it
    simp only [hclear, if_pos] at happly
    obtain ⟨hresult, hfiles⟩ := Prod.mk.inj happly
    have hwrite : files.write id 0 [flagOn] = files.overwrite id 0 [flagOn] :=
      Files.write_eq_overwrite (by simpa using Nat.succ_le_of_lt hsize)
    refine ⟨?_, hfiles.trans hwrite⟩
    rw [ok_of_toOption hresult, switchedOn, decide_eq_true hclear]
  · -- the flag is set already: nothing is written, and setting it would not show
    have hne : flagOn ≠ flagOff := by decide
    simp only [hset, if_neg hne, if_pos] at happly
    obtain ⟨hresult, hfiles⟩ := Prod.mk.inj happly
    refine ⟨?_, hfiles.trans (Files.overwrite_first_self hsize hset).symm⟩
    rw [ok_of_toOption hresult, switchedOn, hset, decide_eq_false hne, hnew.wasDisabled]

theorem enable_unflagged (hnew : h.IsNew) (hnone : ∀ id, ¬ h.HasFlag files id) :
    ∃ e, (h.enable files).1.result = .error e := by
  have hoff : ¬ h.enabled = true := by simp [hnew.enabled]
  have happly := enable_apply h files
  rw [if_neg hoff] at happly
  cases hresult : (h.enable files).1.result with
  | error e => exact ⟨e, rfl⟩
  | ok answer =>
      exfalso
      rw [hresult] at happly
      obtain ⟨id, hflag, -⟩ | ⟨id, hflag, -⟩ | ⟨-, hswitch⟩ :=
        h.switch_cases { h with enabled := true, wasDisabled := true } { h with enabled := true }
          files flagOff flagOn
      · obtain ⟨hfile, -, hclear⟩ := flag?_eq_some_iff.mp hflag
        exact hnone id ⟨hfile, .inl hclear⟩
      · obtain ⟨hfile, -, hset⟩ := flag?_eq_some_iff.mp hflag
        exact hnone id ⟨hfile, .inr hset⟩
      · rw [hswitch] at happly
        cases (Prod.mk.inj happly).1

/-- What was switched on is switched back: switching off does not fail, and
leaves the files that the handle has found. -/
theorem disable_switchedOn (hflag : h.HasFlag files id) :
    let on := h.switchedOn ((files.bytes id).byteAt 0 = flagOff)
    (∃ off, (on.disable (files.overwrite id 0 [flagOn])).1.result = .ok off) ∧
      (on.disable (files.overwrite id 0 [flagOn])).2 = files := by
  intro on
  obtain ⟨hgoverns, hflagged⟩ := hflag
  have hsize := hflagged.size_pos
  have happly := disable_apply on (files.overwrite id 0 [flagOn])
  rcases hflagged with hclear | hset
  · -- the flag was clear: it is found set now, and is cleared again
    have hmine : ¬ ((!on.enabled || !on.wasDisabled) = true) := by simp [on, switchedOn, hclear]
    have hfound : on.flag? (files.overwrite id 0 [flagOn]) = some (id, flagOn) := by
      refine flag?_eq_some_iff.mpr ⟨?_, ?_, ?_⟩
      · exact ((files.grows_overwrite id 0 [flagOn]).fileAt _).trans hgoverns
      · rw [Files.bytes_overwrite, if_pos rfl, Bytes.size_overwrite]
        exact hsize
      · rw [Files.bytes_overwrite, if_pos rfl, Bytes.byteAt_overwrite_first hsize, if_pos rfl]
    have hback : (files.overwrite id 0 [flagOn]).write id 0 [flagOff] = files := by
      rw [Files.write_eq_overwrite, Files.overwrite_first_back hsize hclear]
      simpa [Files.bytes_overwrite] using Nat.succ_le_of_lt hsize
    rw [if_neg hmine, switch, hfound] at happly
    simp only [if_pos] at happly
    obtain ⟨hresult, hfiles⟩ := Prod.mk.inj happly
    exact ⟨⟨_, ok_of_toOption hresult⟩, hfiles.trans hback⟩
  · -- the flag was set, and is none of the handle's business
    have hne : flagOn ≠ flagOff := by decide
    have hidle : (!on.enabled || !on.wasDisabled) = true := by simp [on, switchedOn, hset, hne]
    rw [if_pos hidle] at happly
    obtain ⟨hresult, hfiles⟩ := Prod.mk.inj happly
    exact ⟨⟨_, ok_of_toOption hresult⟩, hfiles.trans (Files.overwrite_first_self hsize hset)⟩

/-- Closing the handle, too, does not fail and leaves those files. -/
theorem close_switchedOn (hflag : h.HasFlag files id) :
    let on := h.switchedOn ((files.bytes id).byteAt 0 = flagOff)
    (on.close (files.overwrite id 0 [flagOn])).1.result = .ok () ∧
      (on.close (files.overwrite id 0 [flagOn])).2 = files := by
  intro on
  have hunmapped : ({ h with mapping := none } : Handle τ).HasFlag files id := hflag
  obtain ⟨off, hresult⟩ := (disable_switchedOn hunmapped).1
  have hunmap : ((liftM on.unmap : Action Files (Handle τ))
      (files.overwrite id 0 [flagOn])).1.result = .ok { on with mapping := none } :=
    on.result_unmap
  constructor
  · rw [close, Action.bind_apply_ok _ hunmap]
    have hdisable : ({ on with mapping := none }.disable
        (files.overwrite id 0 [flagOn])).1.result = .ok off := hresult
    simp only [Action.lift_apply, Action.result_bind, hdisable, Except.bind, Action.pure_apply,
      Logged.result_pure]
  · rw [close_files]
    exact (disable_switchedOn hflag).2

theorem drop_result (h : Handle τ) (files : Files) : (h.drop files).1.result = .ok () := by
  simp only [drop, Action.result_bind, Action.attempt_apply, Logged.result_attempt, Except.bind]
  cases (h.close files).1.result <;> rfl

end Handle

end PciBus

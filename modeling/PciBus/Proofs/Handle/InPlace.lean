import PciBus.Proofs.Handle.Mapped
import PciBus.Proofs.Handle.Sharing

/-!
# Calls that fail

A call on a handle answers the handle that there is afterwards, so one that
fails cannot have changed it. Here the calls are made in place: the handle
stands on the desk beside the files, each field is set where the call sets it,
and a failure keeps what was set before (`Desk.enable`, `Desk.disable`,
`Desk.map`). It comes to the same (`Use.run_eq`), because in every call what
can fail comes before the first change (`Use.run_atomic`). So a call that fails
leaves the handle and every file as they were.

A mapping is only ever made by a call that finds nothing mapped
(`mapping_made`). It is never empty, has the size that a BAR declares, and was
within the resource file then (`failed_calls_change_nothing`).
-/

namespace PciBus

variable {τ : Type}

/-! ## What fails before it changes anything -/

namespace Action

variable {σ α β : Type}

/-- The action leaves the state alone. -/
def ReadsOnly (x : Action σ α) : Prop := ∀ s, (x s).2 = s

/-- The action does not fail. -/
def Sure (x : Action σ α) : Prop := ∀ s e, (x s).1.result ≠ .error e

/-- If the action fails, it leaves the state alone. -/
def Atomic (x : Action σ α) : Prop := ∀ s e, (x s).1.result = .error e → (x s).2 = s

variable {x : Action σ α} {f : α → Action σ β}

theorem readsOnly_pure (a : α) : ReadsOnly (pure a : Action σ α) := fun _ => rfl

theorem readsOnly_get : ReadsOnly (get : Action σ σ) := fun _ => rfl

theorem readsOnly_lift (y : Logged α) : ReadsOnly (liftM y : Action σ α) := fun _ => rfl

theorem readsOnly_note (level : Level) (message : String) (fields : List (String × String)) :
    ReadsOnly (note level message fields : Action σ Unit) := fun _ => rfl

theorem readsOnly_fail (e : Fault) : ReadsOnly (fail e : Action σ α) := fun _ => rfl

theorem sure_pure (a : α) : Sure (pure a : Action σ α) := fun _ _ => nofun

theorem sure_get : Sure (get : Action σ σ) := fun _ _ => nofun

theorem sure_modify (change : σ → σ) : Sure (modify change) := fun _ _ => nofun

theorem sure_note (level : Level) (message : String) (fields : List (String × String)) :
    Sure (note level message fields : Action σ Unit) := fun _ _ => nofun

theorem Sure.bind (hx : Sure x) (hf : ∀ a, Sure (f a)) : Sure (x >>= f) := by
  intro s e he
  rw [result_bind] at he
  cases hresult : (x s).1.result with
  | error e' => exact hx s e' hresult
  | ok a =>
      rw [hresult] at he
      exact hf a _ e he

theorem Sure.atomic (hx : Sure x) : Atomic x := fun s e he => absurd he (hx s e)

theorem ReadsOnly.atomic (hx : ReadsOnly x) : Atomic x := fun s _ _ => hx s

/-- Looking first does no harm. -/
theorem Atomic.after_reading (hx : ReadsOnly x) (hf : ∀ a, Atomic (f a)) : Atomic (x >>= f) := by
  intro s e he
  rw [result_bind] at he
  rw [state_bind]
  cases hresult : (x s).1.result with
  | error e' => exact hx s
  | ok a =>
      rw [hresult, hx s] at he
      simp only
      rw [hx s]
      exact hf a s e he

/-- What follows does no harm if it cannot fail. -/
theorem Atomic.then_sure (hx : Atomic x) (hf : ∀ a, Sure (f a)) : Atomic (x >>= f) := by
  intro s e he
  rw [result_bind] at he
  rw [state_bind]
  cases hresult : (x s).1.result with
  | error e' => exact hx s e' hresult
  | ok a =>
      rw [hresult] at he
      exact absurd he (hf a _ e)

end Action

/-! ## The calls in place -/

namespace Use

/-- A use made in place: what it answers, a number if it is a read, and the
handle and files that it leaves. -/
def run : Use → Action (Desk τ) (Option UInt32)
  | .enable => do Desk.enable; return none
  | .disable => do Desk.disable; return none
  | .map bar => do Desk.map bar; return none
  | .unmap => do Desk.unmap; return none
  | .read cell address => do
      let d ← Action.get
      return some (← d.handle.read d.files cell address)
  | .write cell address value => do
      Desk.onFiles ((← Action.get).handle.write cell address value)
      return none
  | .mask cell address value bits => do
      Desk.onFiles ((← Action.get).handle.writeMasked cell address value bits)
      return none
  | .outside change => do
      Desk.onFiles (Action.modify change)
      return none

end Use

/-! ## Failing comes first -/

namespace Desk

theorem sure_assign (change : Handle τ → Handle τ) : (assign change).Sure :=
  Action.sure_modify _

theorem sure_onFiles {x : Action Files α} (hx : x.Sure) : (onFiles x : Action (Desk τ) α).Sure :=
  fun d e => hx d.files e

theorem atomic_onFiles {x : Action Files α} (hx : x.Atomic) :
    (onFiles x : Action (Desk τ) α).Atomic := by
  intro d e he
  show (⟨d.handle, (x d.files).2⟩ : Desk τ) = d
  rw [hx d.files e he]

/-- A flag that is neither set nor clear is refused before anything is done. -/
theorem settleFlag_atomic (path : String) (id : Nat) (flag before after : UInt8)
    {written : Action (Desk τ) Unit} (hwritten : written.Sure) :
    (settleFlag path id flag before after written).Atomic := by
  unfold settleFlag
  split
  · exact ((sure_onFiles (Action.sure_modify _)).bind fun _ => hwritten).atomic
  split
  · exact (Action.readsOnly_pure ()).atomic
  · exact (Action.readsOnly_lift _).atomic

theorem enable_atomic : (enable : Action (Desk τ) Unit).Atomic := by
  refine .after_reading Action.readsOnly_get fun d => ?_
  split
  · exact (Action.readsOnly_pure ()).atomic
  refine .after_reading (Action.readsOnly_lift _) fun id => ?_
  refine .after_reading (Action.readsOnly_lift _) fun flag => ?_
  refine .then_sure (settleFlag_atomic _ _ _ _ _ (sure_assign _)) fun _ => ?_
  exact Action.sure_get.bind fun _ => (Action.sure_note _ _ _).bind fun _ => sure_assign _

theorem disable_atomic : (disable : Action (Desk τ) Unit).Atomic := by
  refine .after_reading Action.readsOnly_get fun d => ?_
  split
  · exact (Action.readsOnly_pure ()).atomic
  refine .after_reading (Action.readsOnly_lift _) fun id => ?_
  refine .after_reading (Action.readsOnly_lift _) fun flag => ?_
  refine .then_sure (settleFlag_atomic _ _ _ _ _ (Action.sure_pure ())) fun _ => ?_
  exact (Action.sure_note _ _ _).bind fun _ => sure_assign _

theorem map_atomic (bar : UInt64) : (map bar : Action (Desk τ) Unit).Atomic := by
  refine .after_reading Action.readsOnly_get fun d => ?_
  have hrefuses : ∀ message fields e,
      (Action.note .error message fields >>= fun _ => Action.fail e :
        Action (Desk τ) Unit).Atomic :=
    fun message fields e => .after_reading (Action.readsOnly_note _ _ _) fun _ =>
      (Action.readsOnly_fail e).atomic
  split
  · dsimp only
    split
    · split
      · exact (Action.readsOnly_pure ()).atomic
      · exact hrefuses _ _ _
    · refine .after_reading (Action.readsOnly_lift _) fun id => ?_
      refine .after_reading (Action.readsOnly_lift _) fun mapped => ?_
      cases mapped with
      | ok mapping => exact (sure_assign _).atomic
      | error e => exact hrefuses _ _ _
  · exact hrefuses _ _ _

theorem unmap_atomic : (unmap : Action (Desk τ) Unit).Atomic := by
  refine .after_reading Action.readsOnly_get fun d => ?_
  refine .after_reading (Action.readsOnly_lift _) fun _ => ?_
  exact (sure_assign _).atomic

end Desk

namespace Mapping

theorem write_atomic (m : Mapping) (cell : Cell) (address : UInt64) (value : UInt32) :
    (m.write cell address value).Atomic :=
  .after_reading (Action.readsOnly_lift _) fun _ =>
    ((Action.sure_note _ _ _).bind fun _ => Action.sure_modify _).atomic

theorem writeMasked_atomic (m : Mapping) (cell : Cell) (address : UInt64) (value bits : UInt32) :
    (m.writeMasked cell address value bits).Atomic :=
  .after_reading (Action.readsOnly_lift _) fun _ =>
    (Action.sure_get.bind fun _ => (Action.sure_note _ _ _).bind fun _ =>
      Action.sure_modify _).atomic

end Mapping

/-- A use that fails leaves everything as it was. -/
theorem Use.run_atomic (use : Use) : (use.run : Action (Desk τ) (Option UInt32)).Atomic := by
  cases use with
  | enable => exact Desk.enable_atomic.then_sure fun _ => Action.sure_pure none
  | disable => exact Desk.disable_atomic.then_sure fun _ => Action.sure_pure none
  | map bar => exact (Desk.map_atomic bar).then_sure fun _ => Action.sure_pure none
  | unmap => exact Desk.unmap_atomic.then_sure fun _ => Action.sure_pure none
  | read cell address =>
      refine .after_reading Action.readsOnly_get fun d => ?_
      exact .after_reading (Action.readsOnly_lift _) fun value =>
        (Action.readsOnly_pure (some value)).atomic
  | write cell address value =>
      refine .after_reading Action.readsOnly_get fun d => ?_
      refine .then_sure (Desk.atomic_onFiles ?_) fun _ => Action.sure_pure none
      exact .after_reading (Action.readsOnly_lift _) fun m => m.write_atomic cell address value
  | mask cell address value bits =>
      refine .after_reading Action.readsOnly_get fun d => ?_
      refine .then_sure (Desk.atomic_onFiles ?_) fun _ => Action.sure_pure none
      exact .after_reading (Action.readsOnly_lift _) fun m =>
        m.writeMasked_atomic cell address value bits
  | outside change =>
      exact ((Desk.sure_onFiles (Action.sure_modify change)).bind fun _ =>
        Action.sure_pure none).atomic

/-! ## The same as on values -/

theorem Action.bind_apply {σ α β : Type} (x : Action σ α) (f : α → Action σ β) (s : σ) :
    (x >>= f) s =
      match (x s).1.result with
      | .error e => (⟨.error e, (x s).1.log⟩, (x s).2)
      | .ok a => (⟨(f a (x s).2).1.result, (x s).1.log ++ (f a (x s).2).1.log⟩,
          (f a (x s).2).2) := rfl

/-- Another answer, with the same log. -/
def Logged.answering {α β : Type} (f : α → β) (x : Logged α) : Logged β :=
  ⟨x.result.map f, x.log⟩

namespace Use

/-- What a use of a handle answers. -/
def answer : Use → Desk τ → Logged (Option UInt32)
  | .enable, d => (d.handle.enable d.files).1.answering fun _ => none
  | .disable, d => (d.handle.disable d.files).1.answering fun _ => none
  | .map bar, d => (d.handle.map d.files bar).answering fun _ => none
  | .unmap, d => d.handle.unmap.answering fun _ => none
  | .read cell address, d => (d.handle.read d.files cell address).answering some
  | .write cell address value, d =>
      (d.handle.write cell address value d.files).1.answering fun _ => none
  | .mask cell address value bits, d =>
      (d.handle.writeMasked cell address value bits d.files).1.answering fun _ => none
  | .outside _, _ => pure none

end Use

theorem Handle.refuseFlag_eq {α : Type} (path : String) (flag : UInt8) :
    (refuseFlag path flag : Logged α) =
      ⟨.error (.badFlag path (Char.ofNat flag.toNat)), [⟨.error,
        s!"invalid value read from {path}: {Text.quoteChar (Char.ofNat flag.toNat)}", []⟩]⟩ := rfl

namespace Use

variable (d : Desk τ)

attribute [local simp] Action.bind_apply answered Logged.answering Except.map Except.toOption

open Desk Handle in
theorem run_enable : run .enable d = (answer .enable d, perform .enable d) := by
  rw [run, answer, perform, Desk.enable, Handle.enable]
  by_cases hon : d.handle.enabled = true
  · simp [hon]
  cases hopen : (openFile d.files d.handle.flagPath).result with
  | error e => simp [hon, hopen]
  | ok id =>
      cases hread : (readFlag d.files d.handle.flagPath id).result with
      | error e => simp [hon, hopen, hread]
      | ok flag =>
          by_cases hoff : flag = flagOff
          · simp [hon, hopen, hread, hoff, settleFlag, onFiles, assign]
          by_cases hset : flag = flagOn
          · have hne : flagOn ≠ flagOff := by decide
            simp [hon, hopen, hread, hset, hne, settleFlag, assign]
          · simp [hon, hopen, hread, hset, hoff, settleFlag, refuseFlag_eq]

open Desk Handle in
theorem run_disable : run .disable d = (answer .disable d, perform .disable d) := by
  rw [run, answer, perform, Desk.disable, Handle.disable]
  by_cases hidle : (!d.handle.enabled || !d.handle.wasDisabled) = true
  · simp only [Action.bind_apply, Action.get_apply, Logged.result_pure, if_pos hidle]
    rfl
  simp only [Action.bind_apply, Action.get_apply, Logged.result_pure, if_neg hidle]
  cases (openFile d.files d.handle.flagPath).result with
  | error e => simp
  | ok id =>
      cases hread : (readFlag d.files d.handle.flagPath id).result with
      | error e => simp [hread]
      | ok flag =>
          by_cases hset : flag = flagOn
          · simp [hread, hset, settleFlag, onFiles, assign]
          by_cases hoff : flag = flagOff
          · have hne : flagOff ≠ flagOn := by decide
            simp [hread, hoff, hne, settleFlag, assign]
          · simp [hread, hset, hoff, settleFlag, refuseFlag_eq]

open Desk in
theorem run_map (bar : UInt64) :
    run (.map bar) d = (answer (.map bar) d, perform (.map bar) d) := by
  rw [run, answer, perform, Desk.map, Handle.map]
  by_cases hbar : bar.toNat < 6
  · cases hmapping : d.handle.mapping with
    | some live =>
        by_cases hsize : live.size = d.handle.record.sizes[bar.toNat]
        · simp [hbar, hmapping, hsize]
        · simp [bind, hbar, hmapping, hsize]
    | none =>
        cases hopen : (Handle.openFile d.files (d.handle.resourcePath bar)).result with
        | error e => simp [bind, hbar, hmapping, hopen]
        | ok id =>
            cases hmap : (Mapping.ofFile d.files id (d.handle.resourcePath bar)
                d.handle.record.sizes[bar.toNat]).result with
            | error e => simp [bind, hbar, hmapping, hopen, hmap]
            | ok mapping => simp [bind, hbar, hmapping, hopen, hmap, assign]
  · simp [bind, hbar]

theorem run_unmap : run .unmap d = (answer .unmap d, perform .unmap d) := by
  rw [run, answer, perform, Desk.unmap, Handle.unmap]
  cases hmapping : d.handle.mapping with
  | none => simp [bind, hmapping, Desk.assign]
  | some m => simp [bind, hmapping, Desk.assign, Mapping.release]

/-- **In place or not.** A use that is made in place answers and logs what the
operation on the handle as a value does, and leaves the same handle and the
same files. -/
theorem run_eq (use : Use) (d : Desk τ) : use.run d = (use.answer d, use.perform d) := by
  cases use with
  | enable => exact run_enable d
  | disable => exact run_disable d
  | map bar => exact run_map d bar
  | unmap => exact run_unmap d
  | read cell address =>
      cases hread : (d.handle.read d.files cell address).result <;>
        simp [run, answer, perform, hread]
  | write cell address value =>
      cases hwrite : (d.handle.write cell address value d.files).1.result <;>
        simp [run, answer, perform, Desk.onFiles, hwrite]
  | mask cell address value bits =>
      cases hmask : (d.handle.writeMasked cell address value bits d.files).1.result <;>
        simp [run, answer, perform, Desk.onFiles, hmask]
  | outside change => rfl

end Use

/-! ## Closing -/

/-- Closing fails only when switching off does, and then no file is changed. -/
theorem Handle.close_failed {h : Handle τ} {files : Files} {e : Fault}
    (hresult : (h.close files).1.result = .error e) : (h.close files).2 = files := by
  let unmapped : Desk τ := ⟨{ h with mapping := none }, files⟩
  have hunmap : ((liftM h.unmap : Action Files (Handle τ)) files).1.result =
      .ok unmapped.handle := h.result_unmap
  rw [close, Action.bind_apply_ok _ hunmap] at hresult ⊢
  cases hdisable : (unmapped.handle.disable files).1.result with
  | ok off =>
      have hclosed : ((do let _ ← unmapped.handle.disable : Action Files Unit) files).1.result =
          .ok () := by
        rw [Action.result_bind, hdisable]
        rfl
      rw [Action.lift_apply, hclosed] at hresult
      cases hresult
  | error e' =>
      have hanswer : (Use.answer .disable unmapped).result = .error e' := by
        rw [Use.answer, Logged.answering, hdisable]
        rfl
      have hleft : Use.perform .disable unmapped = unmapped := by
        have hatomic := Use.run_atomic .disable unmapped e'
        rw [Use.run_eq] at hatomic
        exact hatomic hanswer
      have hfiles : (unmapped.handle.disable files).2 = files := congrArg Desk.files hleft
      rw [Action.lift_apply, Action.bind_apply_error _ hdisable]
      exact hfiles

/-! ## What is mapped -/

/-- What a call that maps a BAR makes of the files that it finds. -/
structure Maps (d : Desk τ) (bar : UInt64) (m : Mapping) : Prop where
  bar_lt : bar.toNat < 6
  unmapped : d.handle.mapping = none
  size : m.size = d.handle.declared bar
  size_ne : m.size ≠ 0
  file : d.files.fileAt (Files.join d.handle.path s!"resource{bar.toNat}") = .ok m.file
  fits : m.size.toNat ≤ (d.files.bytes m.file).size

/-- Where nothing is mapped, only mapping a BAR changes that. -/
theorem Maps.of_perform {d : Desk τ} {use : Use} {m : Mapping} (hnone : d.handle.mapping = none)
    (hm : (use.perform d).handle.mapping = some m) : ∃ bar, use = .map bar ∧ Maps d bar m := by
  have hsome : (use.perform d).handle.mapping.isSome := by
    rw [hm]
    rfl
  obtain ⟨bar, -, rfl, -⟩ := Live.of_perform hnone hsome
  refine ⟨bar, rfl, ?_⟩
  rcases Use.answered_eq d (d.handle.map d.files bar) with hsame | hok
  · rw [Use.perform, hsame, hnone] at hm
    cases hm
  · obtain ⟨hbar, hmap⟩ := Handle.map_eq_ok_iff.mp hok
    rw [hnone] at hmap
    obtain ⟨id, hfile, hzero, hfits, heq⟩ := hmap
    rw [Use.perform, heq] at hm
    obtain rfl := Option.some.inj hm
    exact ⟨hbar, hnone, rfl, hzero, hfile, hfits⟩

/-- Whatever others do to the files, what is mapped after a run was made by a
call of the run that found nothing mapped. -/
theorem mapping_made {start : Desk τ} (hstart : start.handle.mapping = none) (uses : List Use)
    {m : Mapping} (hm : (used uses start).handle.mapping = some m) :
    ∃ before bar since, uses = before ++ .map bar :: since ∧ .unmap ∉ since ∧
      Maps (used before start) bar m := by
  induction uses using List.reverseRecOn with
  | nil =>
      rw [used_nil, hstart] at hm
      cases hm
  | append_singleton uses use ih =>
      rw [used_append, used_cons, used_nil] at hm
      cases hlive : (used uses start).handle.mapping with
      | none =>
          obtain ⟨bar, rfl, hmaps⟩ := Maps.of_perform hlive hm
          exact ⟨uses, bar, [], rfl, List.not_mem_nil, hmaps⟩
      | some live =>
          have hkept : use ≠ .unmap := by
            rintro rfl
            rw [Use.perform, Use.answered_of_ok (Handle.result_unmap _)] at hm
            cases hm
          -- what was mapped before the last use is mapped still
          rw [Use.mapping_perform hlive hkept] at hm
          obtain rfl := Option.some.inj hm
          obtain ⟨before, bar, since, rfl, hsince, hmaps⟩ := ih hlive
          refine ⟨before, bar, since ++ [use], by simp, ?_, hmaps⟩
          simp [hsince, Ne.symm hkept]

/-- **Calls that fail.** Take a handle that starts with nothing mapped, and any
run of uses. Every use of it then comes to the same in place as on values; if
it fails, the handle and all files are as they were, and a failing `close`
changes no file either. A live mapping is not empty, has the declared size of
a BAR, and was made by a call that found the resource file of that BAR at
least as long. So the mapped length is zero exactly when nothing is mapped. -/
theorem failed_calls_change_nothing {start : Desk τ} (hstart : start.handle.mapping = none)
    (uses : List Use) :
    let d := used uses start
    (∀ use : Use, use.run d = (use.answer d, use.perform d) ∧
      ∀ e, (use.answer d).result = .error e → (use.run d).2 = d) ∧
    (∀ e, (d.handle.close d.files).1.result = .error e →
      (d.handle.close d.files).2 = d.files) ∧
    (∀ m, d.handle.mapping = some m → 0 < m.size ∧
      ∃ before bar since, uses = before ++ .map bar :: since ∧ .unmap ∉ since ∧
        m.size = d.handle.declared bar ∧ Maps (used before start) bar m) ∧
    (d.handle.mappedSize = 0 ↔ d.handle.mapping = none) := by
  intro d
  have hmapped : ∀ m, d.handle.mapping = some m → 0 < m.size ∧
      ∃ before bar since, uses = before ++ .map bar :: since ∧ .unmap ∉ since ∧
        m.size = d.handle.declared bar ∧ Maps (used before start) bar m := by
    intro m hm
    obtain ⟨before, bar, since, huses, hsince, hmaps⟩ := mapping_made hstart uses hm
    refine ⟨UInt64.pos_iff_ne_zero.mpr hmaps.size_ne, before, bar, since, huses, hsince, ?_, hmaps⟩
    rw [hmaps.size, declared_used, declared_used]
  refine ⟨fun use => ⟨use.run_eq d, fun e he => ?_⟩, fun e he => Handle.close_failed he, hmapped,
    ?_⟩
  · apply use.run_atomic d e
    rw [use.run_eq]
    exact he
  · cases hm : d.handle.mapping with
    | none => simp [Handle.mappedSize, hm]
    | some m =>
        have hpos := UInt64.pos_iff_ne_zero.mp (hmapped m hm).1
        simp [Handle.mappedSize, hm, hpos]

/-- A device with a malformed enable flag, and with a second BAR whose resource
file is shorter than the BAR. -/
def faultyDevice : Desk Unit where
  handle :=
    { name := "faulty"
      record := .ofConfig ⟨0, 0, 1, 0⟩ (.zeros 64) Register.rom #v[4, 8, 0, 0, 0, 0] 0
      path := "d"
      tag := () }
  files :=
    { entries := [(["d"], .directory), (["d", "enable"], .file 0), (["d", "resource0"], .file 1),
        (["d", "resource1"], .file 2)]
      contents := #[#[0x78], #[0xaa, 0, 0, 0], #[0xbb, 0, 0, 0]] }

/-- Uses that fail while its first BAR is mapped: for the flag, for the size,
for there being no such BAR, for the alignment and for the range. -/
def faultyUses : List Use :=
  [.enable, .map 1, .map 6, .read .dword 2, .write .dword 0xfffffffffffffffc 1, .mask .byte 4 1 1]

theorem faultyDevice_unchanged :
    let d := used [.map 0] faultyDevice
    (∀ use ∈ faultyUses, (Use.run use d).2 = d) ∧ d.handle.mappedSize ≠ 0 := by
  intro d
  have hnone : faultyDevice.handle.mapping = none := rfl
  obtain ⟨hfailed, -, -, hsize⟩ := failed_calls_change_nothing hnone [.map 0]
  have hfails : ∀ use ∈ faultyUses, (Use.answer use d).result.toOption = none := by decide +kernel
  have hmapped : d.handle.mapping = some ⟨1, 4⟩ := by decide +kernel
  constructor
  · intro use huse
    cases hresult : (Use.answer use d).result with
    | error e => exact (hfailed use).2 e hresult
    | ok answer =>
        have hnone := hfails use huse
        rw [hresult] at hnone
        cases hnone
  · intro hzero
    rw [hsize.mp hzero] at hmapped
    cases hmapped

end PciBus

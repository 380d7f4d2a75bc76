import PciBus.Proofs.Handle.Use

/-!
# The enable flag and a handle

A handle switches its device on by writing the flag, and remembers that it
did. Here stand the ways in which the two switching calls can end
(`Use.perform_enable_cases`, `Use.perform_disable_cases`), and what a handle's
memory of having switched its device on is worth.

That memory is for good (`Use.wasDisabled_perform`). So a handle clears the
flag exactly when some call of its past has set it
(`clears_iff_everSwitched`); it need not be the latest one, and the flag may
be one that others have set (`clears_flag_of_others`).
-/

namespace PciBus

variable {τ : Type}

/-! ## Writing the flag -/

/-- Of all files, writing the flag changes the one, and of that the first
byte. -/
theorem Files.bytes_write_flag {files : Files} {id : Nat} (hsize : 0 < (files.bytes id).size)
    (flag : UInt8) (other : Nat) :
    (files.write id 0 [flag]).bytes other =
      if id = other then (files.bytes other).overwrite 0 [flag] else files.bytes other := by
  rw [write_eq_overwrite (by simpa using Nat.succ_le_of_lt hsize), bytes_overwrite]

theorem Bytes.byteAt_overwrite_first {bytes : Bytes} (hsize : 0 < bytes.size) (flag : UInt8)
    (i : Nat) : (bytes.overwrite 0 [flag]).byteAt i = if i = 0 then flag else bytes.byteAt i := by
  rw [byteAt_overwrite]
  by_cases hi : i = 0
  · subst hi
    simp [hsize]
  · have hpast : ¬ i < 1 := by omega
    simp [hi, hpast]

/-- Writing the flag that stands there already changes nothing. -/
theorem Bytes.overwrite_first_self {bytes : Bytes} {flag : UInt8} (hsize : 0 < bytes.size)
    (hflag : bytes.byteAt 0 = flag) : bytes.overwrite 0 [flag] = bytes := by
  refine eq_of_byteAt (size_overwrite _ _ _) fun i _ => ?_
  rw [byteAt_overwrite_first hsize]
  split
  · rename_i hi
    rw [hi, hflag]
  · rfl

/-! ## Switching -/

namespace Handle

variable {h : Handle τ} {files : Files}

theorem flag?_eq_some_iff {id : Nat} {flag : UInt8} :
    h.flag? files = some (id, flag) ↔
      files.fileAt h.flagPath = .ok id ∧ 0 < (files.bytes id).size ∧
        (files.bytes id).byteAt 0 = flag := by
  cases hfile : files.fileAt h.flagPath with
  | error e => simp [flag?, openFile, hfile, Except.toOption, Except.bind]
  | ok found =>
      have hopen : h.flag? files = (readFlag files h.flagPath found).result.toOption.map
          fun flag => (found, flag) := by
        rw [flag?, openFile, hfile]
        rfl
      by_cases hsize : (files.bytes found).size = 0
      · rw [hopen, readFlag, if_pos hsize]
        simp only [Except.ok.injEq]
        constructor
        · rintro ⟨⟩
        · rintro ⟨rfl, hpos, -⟩
          omega
      · rw [hopen, readFlag, if_neg hsize]
        simp only [Except.ok.injEq]
        constructor
        · rintro ⟨⟩
          exact ⟨rfl, Nat.pos_of_ne_zero hsize, rfl⟩
        · rintro ⟨rfl, -, rfl⟩
          rfl

/-- Switching writes the flag, finds it as it is to be, or is refused. -/
theorem switch_cases (h changed same : Handle τ) (files : Files) (before after : UInt8) :
    (∃ id, h.flag? files = some (id, before) ∧
      h.switch changed same files before after = (some changed, files.write id 0 [after])) ∨
    (∃ id, h.flag? files = some (id, after) ∧
      h.switch changed same files before after = (some same, files)) ∨
    ((∀ id flag, h.flag? files = some (id, flag) → flag ≠ before ∧ flag ≠ after) ∧
      h.switch changed same files before after = (none, files)) := by
  cases hflag : h.flag? files with
  | none => exact .inr (.inr ⟨by simp, by rw [switch, hflag]⟩)
  | some found =>
      obtain ⟨id, flag⟩ := found
      by_cases hbefore : flag = before
      · subst hbefore
        exact .inl ⟨id, rfl, by simp [switch, hflag]⟩
      by_cases hafter : flag = after
      · subst hafter
        exact .inr (.inl ⟨id, rfl, by simp [switch, hflag, hbefore]⟩)
      · refine .inr (.inr ⟨fun id' flag' h => ?_, by simp [switch, hflag, hbefore, hafter]⟩)
        obtain ⟨rfl, rfl⟩ := Prod.mk.inj (Option.some.inj h)
        exact ⟨hbefore, hafter⟩

/-- Closing a handle does to the files what switching its device off does. -/
theorem close_files (h : Handle τ) (files : Files) :
    (h.close files).2 = (h.disable files).2 := by
  have hsame : ({ h with mapping := none }.disable files).2 = (h.disable files).2 := by
    have hunmapped := congrArg Prod.snd (disable_apply { h with mapping := none } files)
    have hmapped := congrArg Prod.snd (disable_apply h files)
    refine hunmapped.trans (Eq.trans ?_ hmapped.symm)
    simp only
    split
    · rfl
    · unfold switch
      have hflag : { h with mapping := none }.flag? files = h.flag? files := rfl
      rw [hflag]
      split
      · rfl
      split
      · rfl
      split <;> rfl
  have hunmap : ((liftM h.unmap : Action Files (Handle τ)) files).1.result =
      .ok { h with mapping := none } := h.result_unmap
  rw [close, Action.bind_apply_ok _ hunmap, ← hsame]
  exact (Action.state_bind _ _ _).trans (by split <;> rfl)

theorem drop_files (h : Handle τ) (files : Files) : (h.drop files).2 = (h.disable files).2 := by
  rw [← close_files]
  simp only [drop, Action.state_bind, Action.attempt_apply, Logged.result_attempt]
  cases (h.close files).1.result <;> rfl

end Handle

namespace Use

/-- What a call to `enable` comes to. -/
theorem perform_enable_cases (d : Desk τ) :
    (d.handle.enabled = true ∧ perform .enable d = d) ∨
    (d.handle.enabled = false ∧
      ((∃ id, d.handle.flag? d.files = some (id, Handle.flagOff) ∧
        perform .enable d = ⟨{ d.handle with enabled := true, wasDisabled := true },
          d.files.write id 0 [Handle.flagOn]⟩) ∨
      (∃ id, d.handle.flag? d.files = some (id, Handle.flagOn) ∧
        perform .enable d = ⟨{ d.handle with enabled := true }, d.files⟩) ∨
      ((∀ id flag, d.handle.flag? d.files = some (id, flag) →
          flag ≠ Handle.flagOff ∧ flag ≠ Handle.flagOn) ∧
        perform .enable d = d))) := by
  have hperform : perform .enable d =
      (fun x : Option (Handle τ) × Files => ⟨x.1.getD d.handle, x.2⟩)
        ((d.handle.enable d.files).1.result.toOption, (d.handle.enable d.files).2) := rfl
  rw [hperform, Handle.enable_apply]
  by_cases hon : d.handle.enabled = true
  · rw [if_pos hon]
    exact .inl ⟨hon, rfl⟩
  · rw [if_neg hon]
    refine .inr ⟨by simpa using hon, ?_⟩
    obtain ⟨id, hflag, hswitch⟩ | ⟨id, hflag, hswitch⟩ | ⟨hflag, hswitch⟩ :=
      d.handle.switch_cases { d.handle with enabled := true, wasDisabled := true }
        { d.handle with enabled := true } d.files Handle.flagOff Handle.flagOn
    · exact .inl ⟨id, hflag, by rw [hswitch]; rfl⟩
    · exact .inr (.inl ⟨id, hflag, by rw [hswitch]; rfl⟩)
    · exact .inr (.inr ⟨hflag, by rw [hswitch]; rfl⟩)

/-- What a call to `disable` comes to. -/
theorem perform_disable_cases (d : Desk τ) :
    (¬ (d.handle.enabled = true ∧ d.handle.wasDisabled = true) ∧ perform .disable d = d) ∨
    ((d.handle.enabled = true ∧ d.handle.wasDisabled = true) ∧
      ((∃ id, d.handle.flag? d.files = some (id, Handle.flagOn) ∧
        perform .disable d = ⟨{ d.handle with enabled := false },
          d.files.write id 0 [Handle.flagOff]⟩) ∨
      (∃ id, d.handle.flag? d.files = some (id, Handle.flagOff) ∧
        perform .disable d = ⟨{ d.handle with enabled := false }, d.files⟩) ∨
      ((∀ id flag, d.handle.flag? d.files = some (id, flag) →
          flag ≠ Handle.flagOn ∧ flag ≠ Handle.flagOff) ∧
        perform .disable d = d))) := by
  have hperform : perform .disable d =
      (fun x : Option (Handle τ) × Files => ⟨x.1.getD d.handle, x.2⟩)
        ((d.handle.disable d.files).1.result.toOption, (d.handle.disable d.files).2) := rfl
  rw [hperform, Handle.disable_apply]
  by_cases hidle : (!d.handle.enabled || !d.handle.wasDisabled) = true
  · rw [if_pos hidle]
    exact .inl ⟨fun hmine => by simp [hmine] at hidle, rfl⟩
  · rw [if_neg hidle]
    have hmine : d.handle.enabled = true ∧ d.handle.wasDisabled = true := by simpa using hidle
    refine .inr ⟨hmine, ?_⟩
    obtain ⟨id, hflag, hswitch⟩ | ⟨id, hflag, hswitch⟩ | ⟨hflag, hswitch⟩ :=
      d.handle.switch_cases { d.handle with enabled := false }
        { d.handle with enabled := false } d.files Handle.flagOn Handle.flagOff
    · exact .inl ⟨id, hflag, by rw [hswitch]; rfl⟩
    · exact .inr (.inl ⟨id, hflag, by rw [hswitch]; rfl⟩)
    · exact .inr (.inr ⟨hflag, by rw [hswitch]; rfl⟩)

/-! ## Who has switched the device on -/

/-- The call finds the device off and switches it on. -/
def switchesOn (d : Desk τ) : Use → Bool
  | .enable =>
      !d.handle.enabled && (d.handle.flag? d.files).any fun (_, flag) => flag = Handle.flagOff
  | _ => false

/-- The call takes the handle from not enabled to enabled. -/
def takesHold (d : Desk τ) (use : Use) : Bool :=
  !d.handle.enabled && (use.perform d).handle.enabled

/-- A handle remembers having switched its device on, and nothing else makes
it remember that. -/
theorem wasDisabled_perform (use : Use) (d : Desk τ) :
    (use.perform d).handle.wasDisabled = (d.handle.wasDisabled || use.switchesOn d) := by
  cases use with
  | enable =>
      obtain ⟨hon, hperform⟩ | ⟨hoff, h⟩ := perform_enable_cases d
      · simp [hperform, switchesOn, hon]
      obtain ⟨id, hflag, hperform⟩ | ⟨id, hflag, hperform⟩ | ⟨hflag, hperform⟩ := h
      · simp [hperform, switchesOn, hoff, hflag]
      · have hne : Handle.flagOn ≠ Handle.flagOff := by decide
        simp [hperform, switchesOn, hflag, hne]
      · have hnone : (d.handle.flag? d.files).any (fun (_, flag) => flag = Handle.flagOff) =
            false := by
          cases hfound : d.handle.flag? d.files with
          | none => rfl
          | some found => simpa using (hflag found.1 found.2 hfound).1
        simp [hperform, switchesOn, hnone]
  | disable =>
      obtain ⟨-, hperform⟩ | ⟨-, h⟩ := perform_disable_cases d
      · simp [hperform, switchesOn]
      obtain ⟨id, -, hperform⟩ | ⟨id, -, hperform⟩ | ⟨-, hperform⟩ := h <;>
        simp [hperform, switchesOn]
  | map bar =>
      obtain hperform | ⟨id, -, -, -, hperform⟩ := perform_map_cases bar d <;>
        simp [hperform, switchesOn]
  | unmap => simp [perform, answered_of_ok d.handle.result_unmap, switchesOn]
  | read | write | mask | outside => simp [perform, switchesOn]

end Use

/-- Some call of the run has switched the device on. -/
def everSwitched : List Use → Desk τ → Bool
  | [], _ => false
  | use :: uses, d => use.switchesOn d || everSwitched uses (use.perform d)

/-- The last call of the run that took the handle to enabled has switched the
device on. Without such a call it is `before`. -/
def lastSwitched (before : Bool) : List Use → Desk τ → Bool
  | [], _ => before
  | use :: uses, d =>
      lastSwitched (if use.takesHold d then use.switchesOn d else before) uses (use.perform d)

theorem wasDisabled_used (uses : List Use) (d : Desk τ) :
    (used uses d).handle.wasDisabled = (d.handle.wasDisabled || everSwitched uses d) := by
  induction uses generalizing d with
  | nil => simp [everSwitched]
  | cons use rest ih => rw [used_cons, ih, use.wasDisabled_perform, everSwitched, Bool.or_assoc]

/-! ## Clearing the flag -/

/-- Switching the device off now clears the flag: it is set, and zero is
written over it. -/
def Clears (d : Desk τ) : Prop :=
  ∃ id, d.handle.flag? d.files = some (id, Handle.flagOn) ∧
    (d.handle.disable d.files).2 = d.files.write id 0 [Handle.flagOff]

theorem clears_iff {d : Desk τ} :
    Clears d ↔ (d.handle.enabled = true ∧ d.handle.wasDisabled = true) ∧
      ∃ id, d.handle.flag? d.files = some (id, Handle.flagOn) := by
  have hfiles : (d.handle.disable d.files).2 = (Use.perform .disable d).files := rfl
  constructor
  · rintro ⟨id, hflag, hwrite⟩
    obtain ⟨-, hperform⟩ | ⟨hmine, -⟩ := Use.perform_disable_cases d
    · -- nothing is written, but zero over the flag would make a difference
      exfalso
      rw [hfiles, hperform] at hwrite
      obtain ⟨-, hsize, hon⟩ := Handle.flag?_eq_some_iff.mp hflag
      have hbyte := congrArg (fun files : Files => (files.bytes id).byteAt 0) hwrite
      simp only [Files.bytes_write_flag hsize, if_pos, Bytes.byteAt_overwrite_first hsize, hon]
        at hbyte
      exact absurd hbyte (by decide)
    · exact ⟨hmine, id, hflag⟩
  · rintro ⟨hmine, id, hflag⟩
    refine ⟨id, hflag, ?_⟩
    obtain ⟨hidle, -⟩ | ⟨-, h⟩ := Use.perform_disable_cases d
    · exact absurd hmine hidle
    obtain ⟨other, hother, hperform⟩ | ⟨other, hother, -⟩ | ⟨hnone, -⟩ := h
    · rw [hfiles, hperform]
      obtain ⟨rfl, -⟩ := Prod.mk.inj (Option.some.inj (hflag.symm.trans hother))
      rfl
    · exact absurd (Prod.mk.inj (Option.some.inj (hflag.symm.trans hother))).2 (by decide)
    · exact absurd rfl (hnone id Handle.flagOn hflag).1

/-- **What a handle clears.** Closing and dropping a handle treat the flag as
`disable` does. From a handle that nobody has used on, `disable` clears the
flag exactly when the handle is enabled, the flag is set, and some earlier
call to `enable` has found it clear and set it. -/
theorem clears_iff_everSwitched {start : Desk τ} (hstart : start.handle.wasDisabled = false)
    (uses : List Use) :
    let d := used uses start
    ((d.handle.close d.files).2 = (d.handle.disable d.files).2 ∧
      (d.handle.drop d.files).2 = (d.handle.disable d.files).2) ∧
    (Clears d ↔ d.handle.enabled = true ∧ everSwitched uses start = true ∧
      ∃ id, d.handle.flag? d.files = some (id, Handle.flagOn)) := by
  intro d
  refine ⟨⟨d.handle.close_files d.files, d.handle.drop_files d.files⟩, ?_⟩
  have hremembers : d.handle.wasDisabled = everSwitched uses start := by
    rw [wasDisabled_used, hstart, Bool.false_or]
  rw [clears_iff, hremembers, and_assoc]

/-- A device that is switched off, and a handle on it. -/
def idleDevice : Desk Unit where
  handle :=
    { name := "idle"
      record := .ofConfig ⟨0, 0, 1, 0⟩ (.zeros 64) Register.rom (.replicate 6 0) 0
      path := "d"
      tag := () }
  files :=
    { entries := [(["d"], .directory), (["d", "enable"], .file 0)]
      contents := #[#[0x30]] }

/-- The handle switches the device on and off, others switch it on, and the
handle is enabled once more. -/
def switchedByOthers : List Use :=
  [.enable, .disable, .outside fun files => files.write 0 0 [0x31], .enable]

theorem idleDevice_cleared : Clears (used switchedByOthers idleDevice) := by
  have hswitched : everSwitched switchedByOthers idleDevice = true := by decide +kernel
  have hflag : (used switchedByOthers idleDevice).handle.flag?
      (used switchedByOthers idleDevice).files = some (0, Handle.flagOn) := by decide +kernel
  exact (clears_iff_everSwitched rfl switchedByOthers).2.mpr
    ⟨by decide +kernel, hswitched, 0, hflag⟩

/-- A handle may clear a flag that others have set: it remembers for good that
it has switched its device on, also when a later `enable` finds it on. -/
theorem clears_flag_of_others :
    ¬ ∀ (start : Desk Unit) (uses : List Use),
      start.handle.enabled = false → start.handle.wasDisabled = false →
      Clears (used uses start) → lastSwitched false uses start = true := by
  intro h
  have hcleared : Clears (used switchedByOthers idleDevice) := by
    rw [clears_iff]
    exact ⟨by decide +kernel, 0, by decide +kernel⟩
  have hlast := h idleDevice switchedByOthers rfl rfl hcleared
  revert hlast
  decide +kernel

end PciBus

import PciBus.Handle

/-!
# What the calls on a handle do

Each call on a handle is described once: what it answers, and what becomes of
the files. Whether switching works is a matter of the flag that is found
(`Handle.enable_apply`, `Handle.disable_apply`), whether mapping works one of
the mapping that is live (`Handle.map_eq_ok_iff`), and whether an access works
one of its range (`InRange`). No call moves a name or cuts a file short.
-/

namespace PciBus

variable {τ : Type}

/-! ## Files after a call -/

namespace Files

/-- Every name leads where it led, and no file is shorter. -/
structure Grows (before after : Files) : Prop where
  entries : after.entries = before.entries
  size : ∀ id, (before.bytes id).size ≤ (after.bytes id).size

theorem Grows.refl (files : Files) : Grows files files := ⟨rfl, fun _ => Nat.le_refl _⟩

theorem grows_write (files : Files) (id offset : Nat) (values : List UInt8) :
    Grows files (files.write id offset values) := by
  refine ⟨rfl, fun other => ?_⟩
  rw [write, bytes_modify]
  split
  · rw [Bytes.size_overwrite, Bytes.size_extend]
    exact Nat.le_max_left _ _
  · exact Nat.le_refl _

theorem grows_overlay (files : Files) (id offset : Nat) (values : List UInt8) :
    Grows files (files.overlay id offset values) := by
  refine ⟨rfl, fun other => ?_⟩
  rw [bytes_overlay]
  split <;> simp

theorem Grows.fileAt {before after : Files} (h : Grows before after) (path : String) :
    after.fileAt path = before.fileAt path := by
  rw [Files.fileAt, Files.fileAt, resolve_congr h.entries]

end Files

/-! ## Switching on and off -/

namespace Handle

/-- The number of the enable file and its first byte, if they can be had. -/
def flag? (h : Handle τ) (files : Files) : Option (Nat × UInt8) :=
  (openFile files h.flagPath).result.toOption.bind fun id =>
    (readFlag files h.flagPath id).result.toOption.map fun flag => (id, flag)

/-- What switching from one flag to another comes to, by the flag that is
found: the handle that is answered, if any, and the files. `changed` is the
handle when the flag was written, and `same` when it stood there already. -/
def switch (h changed same : Handle τ) (files : Files) (before after : UInt8) :
    Option (Handle τ) × Files :=
  match h.flag? files with
  | none => (none, files)
  | some (id, flag) =>
      if flag = before then (some changed, files.write id 0 [after])
      else if flag = after then (some same, files)
      else (none, files)

theorem enable_apply (h : Handle τ) (files : Files) :
    ((h.enable files).1.result.toOption, (h.enable files).2) =
      if h.enabled then (some h, files)
      else
        h.switch { h with enabled := true, wasDisabled := true } { h with enabled := true }
          files flagOff flagOn := by
  by_cases hon : h.enabled
  · simp [enable, hon, Except.toOption]
  cases hopen : (openFile files h.flagPath).result with
  | error e => simp [enable, switch, flag?, hon, hopen, Except.bind, Except.toOption]
  | ok id =>
      cases hread : (readFlag files h.flagPath id).result with
      | error e => simp [enable, switch, flag?, hon, hopen, hread, Except.bind, Except.toOption]
      | ok flag =>
          by_cases hoff : flag = flagOff
          · simp [enable, switch, flag?, hon, hopen, hread, hoff, Except.bind, Except.toOption]
          by_cases hset : flag = flagOn
          · have hne : flagOn ≠ flagOff := by decide
            simp [enable, switch, flag?, hon, hopen, hread, hset, hne, Except.bind,
              Except.toOption]
          · simp [enable, switch, flag?, hon, hopen, hread, hoff, hset, refuseFlag, Except.bind,
              Except.toOption]

theorem disable_apply (h : Handle τ) (files : Files) :
    ((h.disable files).1.result.toOption, (h.disable files).2) =
      if !h.enabled || !h.wasDisabled then (some h, files)
      else
        h.switch { h with enabled := false } { h with enabled := false } files flagOn
          flagOff := by
  by_cases hidle : !h.enabled || !h.wasDisabled
  · rw [if_pos hidle, disable, if_pos hidle]
    rfl
  rw [if_neg hidle, disable, if_neg hidle]
  cases hopen : (openFile files h.flagPath).result with
  | error e => simp [switch, flag?, hopen, Except.bind, Except.toOption]
  | ok id =>
      cases hread : (readFlag files h.flagPath id).result with
      | error e => simp [switch, flag?, hopen, hread, Except.bind, Except.toOption]
      | ok flag =>
          by_cases hset : flag = flagOn
          · simp [switch, flag?, hopen, hread, hset, Except.bind, Except.toOption]
          by_cases hoff : flag = flagOff
          · have hne : flagOff ≠ flagOn := by decide
            simp [switch, flag?, hopen, hread, hoff, hne, Except.bind, Except.toOption]
          · simp [switch, flag?, hopen, hread, hoff, hset, refuseFlag, Except.bind,
              Except.toOption]

/-- Two handles that differ in their two flags at most. -/
def SameButFlags (h h' : Handle τ) : Prop :=
  h' = { h with enabled := h'.enabled, wasDisabled := h'.wasDisabled }

/-- All of the handle but its two flags is left alone, no name is moved and no
file cut short. -/
structure Switched (h : Handle τ) (files : Files) (x : Option (Handle τ) × Files) : Prop where
  handle : ∀ h', x.1 = some h' → h.SameButFlags h'
  files : files.Grows x.2

theorem switch_switched {h changed same : Handle τ} (hchanged : h.SameButFlags changed)
    (hsame : h.SameButFlags same) (files : Files) (before after : UInt8) :
    h.Switched files (h.switch changed same files before after) := by
  unfold switch
  split
  · exact ⟨by simp, .refl files⟩
  · split
    · exact ⟨by simpa using hchanged, files.grows_write _ _ _⟩
    · split
      · exact ⟨by simpa using hsame, .refl files⟩
      · exact ⟨by simp, .refl files⟩

theorem enable_switched (h : Handle τ) (files : Files) :
    h.Switched files ((h.enable files).1.result.toOption, (h.enable files).2) := by
  rw [enable_apply]
  split
  · exact ⟨by simp [SameButFlags], .refl files⟩
  · exact switch_switched (by simp [SameButFlags]) (by simp [SameButFlags]) files _ _

theorem disable_switched (h : Handle τ) (files : Files) :
    h.Switched files ((h.disable files).1.result.toOption, (h.disable files).2) := by
  rw [disable_apply]
  split
  · exact ⟨by simp [SameButFlags], .refl files⟩
  · exact switch_switched (by simp [SameButFlags]) (by simp [SameButFlags]) files _ _

end Handle

/-! ## Mapping a BAR -/

namespace Handle

variable {h h' : Handle τ} {files : Files} {bar : UInt64}

/-- The declared size of a BAR; there are six. -/
def declared (h : Handle τ) (bar : UInt64) : UInt64 :=
  if hbar : bar.toNat < 6 then h.record.sizes[bar.toNat] else 0

/-- Mapping succeeds in two ways: a live mapping of the declared size is kept,
and where none is live, the resource file of the BAR is mapped. -/
theorem map_eq_ok_iff :
    (h.map files bar).result = .ok h' ↔ bar.toNat < 6 ∧
      match h.mapping with
      | some live => live.size = h.declared bar ∧ h' = h
      | none => ∃ id, files.fileAt (h.resourcePath bar) = .ok id ∧ h.declared bar ≠ 0 ∧
          (h.declared bar).toNat ≤ (files.bytes id).size ∧
          h' = { h with mapping := some ⟨id, h.declared bar⟩ } := by
  by_cases hbar : bar.toNat < 6
  · cases hmapping : h.mapping with
    | some live =>
        by_cases hsize : live.size = h.record.sizes[bar.toNat]
        · simp [map, declared, hbar, hmapping, hsize, eq_comm]
        · simp [map, declared, hbar, hmapping, hsize, Except.bind]
    | none =>
        cases hfile : files.fileAt (h.resourcePath bar) with
        | error e => simp [map, hbar, hmapping, openFile, hfile, Except.bind]
        | ok id =>
            by_cases hzero : h.record.sizes[bar.toNat] = 0
            · simp [map, declared, hbar, hmapping, openFile, hfile, Mapping.ofFile, hzero,
                Except.bind]
            · by_cases hlength : (files.bytes id).size < h.record.sizes[bar.toNat].toNat
              · have hshort := Nat.not_le_of_lt hlength
                simp [map, declared, hbar, hmapping, openFile, hfile, Mapping.ofFile, hzero,
                  hlength, hshort, Except.bind]
              · have hlong := Nat.le_of_not_lt hlength
                simp [map, declared, hbar, hmapping, openFile, hfile, Mapping.ofFile, hzero,
                  hlength, hlong, Except.bind, eq_comm]
  · simp [map, hbar, Except.bind]

theorem result_unmap (h : Handle τ) : h.unmap.result = .ok { h with mapping := none } := by
  cases hmapping : h.mapping <;> simp [unmap, hmapping, Mapping.release, Except.bind]

end Handle

/-! ## Access -/

/-- A cell at an address is aligned and ends within `size`. -/
def InRange (size : UInt64) (cell : Cell) (address : UInt64) : Prop :=
  address.toNat % cell.bytes = 0 ∧ address.toNat + cell.bytes ≤ size.toNat

instance (size : UInt64) (cell : Cell) (address : UInt64) :
    Decidable (InRange size cell address) :=
  inferInstanceAs (Decidable (_ ∧ _))

namespace Mapping

variable {m : Mapping} {files : Files} {cell : Cell} {address : UInt64} {value bits : UInt32}

theorem check_eq_ok (h : InRange m.size cell address) : m.check cell address = .ok () := by
  rw [check, if_neg (by simpa using h.1), if_neg (Nat.not_lt.mpr h.2)]

theorem check_refused (h : ¬ InRange m.size cell address) :
    ∃ e, m.check cell address = .error e := by
  rw [check]
  split
  · exact ⟨_, rfl⟩
  · split
    · exact ⟨_, rfl⟩
    · rename_i haligned hends
      exact absurd ⟨Decidable.not_not.mp haligned, Nat.le_of_not_lt hends⟩ h

theorem read_eq_ok (h : InRange m.size cell address) :
    (m.read files cell address).result = .ok (m.peek files cell address) := by
  simp [read, check_eq_ok h, Except.bind]

theorem write_eq_ok (h : InRange m.size cell address) :
    (m.write cell address value files).1.result = .ok () ∧
      (m.write cell address value files).2 = m.poke files cell address value := by
  simp [write, check_eq_ok h, Except.bind]

theorem write_refused (h : ¬ InRange m.size cell address) :
    (∃ e, (m.write cell address value files).1.result = .error e) ∧
      (m.write cell address value files).2 = files := by
  obtain ⟨e, he⟩ := check_refused h
  simp [write, he, Except.bind]

theorem writeMasked_eq_ok (h : InRange m.size cell address) :
    (m.writeMasked cell address value bits files).1.result = .ok () ∧
      (m.writeMasked cell address value bits files).2 =
        m.poke files cell address (merge (m.peek files cell address) value bits) := by
  simp [writeMasked, check_eq_ok h, Except.bind]

theorem writeMasked_refused (h : ¬ InRange m.size cell address) :
    (∃ e, (m.writeMasked cell address value bits files).1.result = .error e) ∧
      (m.writeMasked cell address value bits files).2 = files := by
  obtain ⟨e, he⟩ := check_refused h
  simp [writeMasked, he, Except.bind]

theorem write_grows (m : Mapping) (cell : Cell) (address : UInt64) (value : UInt32)
    (files : Files) : files.Grows (m.write cell address value files).2 := by
  by_cases hrange : InRange m.size cell address
  · rw [(write_eq_ok hrange).2]
    exact files.grows_overlay _ _ _
  · rw [(write_refused hrange).2]
    exact .refl files

theorem writeMasked_grows (m : Mapping) (cell : Cell) (address : UInt64) (value bits : UInt32)
    (files : Files) : files.Grows (m.writeMasked cell address value bits files).2 := by
  by_cases hrange : InRange m.size cell address
  · rw [(writeMasked_eq_ok hrange).2]
    exact files.grows_overlay _ _ _
  · rw [(writeMasked_refused hrange).2]
    exact .refl files

end Mapping

namespace Handle

variable {h : Handle τ} {m : Mapping} {cell : Cell} {address : UInt64} {value bits : UInt32}

/-! Access through a handle is access to its mapping. -/

theorem read_of_mapped (hm : h.mapping = some m) (files : Files) :
    h.read files cell address = m.read files cell address := by
  rw [read, mapped, hm]
  rfl

theorem write_of_mapped (hm : h.mapping = some m) :
    h.write cell address value = m.write cell address value := by
  rw [write, mapped, hm]
  rfl

theorem writeMasked_of_mapped (hm : h.mapping = some m) :
    h.writeMasked cell address value bits = m.writeMasked cell address value bits := by
  rw [writeMasked, mapped, hm]
  rfl

/-- An access that cuts no file short through a mapping cuts none short
through a handle. -/
theorem mapped_grows {access : Mapping → Action Files Unit}
    (haccess : ∀ m (files : Files), files.Grows (access m files).2) (h : Handle τ) (files : Files) :
    files.Grows ((liftM h.mapped >>= access : Action Files Unit) files).2 := by
  cases hm : h.mapping with
  | none =>
      rw [mapped, hm]
      exact .refl files
  | some m =>
      rw [mapped, hm]
      exact haccess m files

theorem write_grows (h : Handle τ) (cell : Cell) (address : UInt64) (value : UInt32)
    (files : Files) : files.Grows (h.write cell address value files).2 :=
  mapped_grows (fun m files => m.write_grows cell address value files) h files

theorem writeMasked_grows (h : Handle τ) (cell : Cell) (address : UInt64) (value bits : UInt32)
    (files : Files) : files.Grows (h.writeMasked cell address value bits files).2 :=
  mapped_grows (fun m files => m.writeMasked_grows cell address value bits files) h files

end Handle

end PciBus

import PciBus.Proofs.Files.Names
import PciBus.Proofs.Handle.Flag

/-!
# Handles that share a device

Several handles may be open on one device, and each of them switches it by
the same file. Nobody counts them. What holds the flag together is that while
it is set where it was found clear, some handle that remembers having set it
is still enabled (`Restorable.held`).

Each call exchanges the handle for what it is afterwards, and with it the
flag; `Exchange` has the three ways in which this can go. Every call is such
an exchange (`Use.exchange`), and opening and closing a handle are, too. An
exchange keeps the flag restorable (`Restorable.exchange`).
-/

namespace PciBus

variable {τ : Type}

/-! ## New handles -/

namespace Handle

variable {h : Handle τ} {files : Files}

/-- A handle with which nothing has been done. -/
structure IsNew (h : Handle τ) : Prop where
  mapping : h.mapping = none
  enabled : h.enabled = false
  wasDisabled : h.wasDisabled = false

/-- When switching on fails, nothing was written. -/
theorem enable_failed {e : Fault} (hresult : (h.enable files).1.result = .error e) :
    (h.enable files).2 = files := by
  have happly := enable_apply h files
  rw [hresult] at happly
  by_cases hon : h.enabled = true
  · rw [if_pos hon] at happly
    exact (Prod.mk.inj happly).2
  · rw [if_neg hon] at happly
    obtain ⟨id, -, hswitch⟩ | ⟨id, -, hswitch⟩ | ⟨-, hswitch⟩ :=
      h.switch_cases { h with enabled := true, wasDisabled := true } { h with enabled := true }
        files flagOff flagOn
    · rw [hswitch] at happly
      cases (Prod.mk.inj happly).1
    · rw [hswitch] at happly
      cases (Prod.mk.inj happly).1
    · rw [hswitch] at happly
      exact (Prod.mk.inj happly).2

theorem drop_files_of_isNew (hnew : h.IsNew) (files : Files) : (h.drop files).2 = files := by
  have hfiles : (h.disable files).2 = (Use.perform .disable ⟨h, files⟩).files := rfl
  rw [drop_files, hfiles]
  obtain ⟨-, hperform⟩ | ⟨hmine, -⟩ := Use.perform_disable_cases ⟨h, files⟩
  · rw [hperform]
  · rw [hnew.enabled] at hmine
    cases hmine.1

end Handle

/-! ## Leaving a file to the handles -/

/-- A file has the bytes it had, and the same paths lead to it. -/
structure Files.SameAt (id : Nat) (before after : Files) : Prop where
  bytes : after.bytes id = before.bytes id
  paths : ∀ path, after.fileAt path = .ok id ↔ before.fileAt path = .ok id

theorem Files.SameAt.refl (id : Nat) (files : Files) : SameAt id files files :=
  ⟨rfl, fun _ => Iff.rfl⟩

/-! ## Who holds the flag -/

namespace Handle

variable {id : Nat} {files : Files}

/-- The flag of the handle's device is file `id`. -/
def Governs (h : Handle τ) (files : Files) (id : Nat) : Prop :=
  files.fileAt h.flagPath = .ok id

/-- The handle is on the device and remembers having switched it on. -/
def Marked (h : Handle τ) (files : Files) (id : Nat) : Prop :=
  h.Governs files id ∧ h.wasDisabled = true

/-- The handle is also enabled: it will switch the device off. -/
def Holds (h : Handle τ) (files : Files) (id : Nat) : Prop :=
  h.Marked files id ∧ h.enabled = true

theorem IsNew.not_marked {h : Handle τ} (hnew : h.IsNew) : ¬ h.Marked files id := by
  rintro ⟨-, hmarked⟩
  rw [hnew.wasDisabled] at hmarked
  cases hmarked

end Handle

/-- The file starts with a flag that is set or clear. -/
def Flagged (bytes : Bytes) : Prop :=
  bytes.byteAt 0 = Handle.flagOff ∨ bytes.byteAt 0 = Handle.flagOn

theorem Flagged.size_pos {bytes : Bytes} (h : Flagged bytes) : 0 < bytes.size := by
  rcases Nat.eq_zero_or_pos bytes.size with hsize | hsize
  · rw [Flagged, Bytes.byteAt_of_size_le (Nat.le_of_eq hsize)] at h
    rcases h with h | h <;> exact absurd h (by decide)
  · exact hsize

/-- One call exchanges handles `old` for `new` and the flag with them. -/
inductive Exchange (id : Nat) (before after : Files) (old new : List (Handle τ)) : Prop
  /-- The file is left alone, and who held the flag goes on to hold it. -/
  | quiet (hbytes : after.bytes id = before.bytes id)
      (hholds : (∃ h ∈ old, h.Holds before id) → ∃ h ∈ new, h.Holds before id)
      (hmarked : (∃ h ∈ new, h.Marked before id) → ∃ h ∈ old, h.Marked before id)
  /-- The flag was clear and is set, by a handle that holds it then. -/
  | sets (hclear : (before.bytes id).byteAt 0 = Handle.flagOff)
      (hbytes : after.bytes id = (before.bytes id).overwrite 0 [Handle.flagOn])
      (hholds : ∃ h ∈ new, h.Holds before id)
  /-- The flag is clear afterwards, and it was a marked handle that saw to it. -/
  | clears (hold : ∃ h ∈ old, h.Marked before id)
      (hbytes : after.bytes id = (before.bytes id).overwrite 0 [Handle.flagOff])

theorem Exchange.contents {id : Nat} {before after : Files} {old new : List (Handle τ)}
    (hx : Exchange id before after old new) (hflagged : Flagged (before.bytes id)) :
    (after.bytes id).size = (before.bytes id).size ∧
      (∀ i, i ≠ 0 → (after.bytes id).byteAt i = (before.bytes id).byteAt i) ∧
      Flagged (after.bytes id) := by
  have hsize := hflagged.size_pos
  cases hx with
  | quiet hbytes _ _ =>
      rw [hbytes]
      exact ⟨rfl, fun _ _ => rfl, hflagged⟩
  | sets _ hbytes _ =>
      rw [hbytes, Bytes.size_overwrite]
      refine ⟨rfl, fun i hi => ?_, .inr ?_⟩
      · rw [Bytes.byteAt_overwrite_first hsize, if_neg hi]
      · rw [Bytes.byteAt_overwrite_first hsize, if_pos rfl]
  | clears _ hbytes =>
      rw [hbytes, Bytes.size_overwrite]
      refine ⟨rfl, fun i hi => ?_, .inl ?_⟩
      · rw [Bytes.byteAt_overwrite_first hsize, if_neg hi]
      · rw [Bytes.byteAt_overwrite_first hsize, if_pos rfl]

/-- A handle without a mark counts for nothing. -/
theorem Exchange.of_unmarked {id : Nat} {before after : Files} {h : Handle τ}
    {new : List (Handle τ)} (hx : Exchange id before after [h] new) (hh : ¬ h.Marked before id) :
    Exchange id before after [] new := by
  have hnone : ¬ ∃ g ∈ [h], g.Marked before id := by simpa using hh
  cases hx with
  | quiet hbytes _ hmarked => exact .quiet hbytes (by simp) fun hnew => absurd (hmarked hnew) hnone
  | sets hclear hbytes hholds => exact .sets hclear hbytes hholds
  | clears hold _ => exact absurd hold hnone

/-! ### The calls of a handle -/

section

variable {h : Handle τ} {id : Nat} {files : Files}

theorem Handle.Governs.flag?_eq (hgoverns : h.Governs files id)
    (hflagged : Flagged (files.bytes id)) :
    h.flag? files = some (id, (files.bytes id).byteAt 0) :=
  Handle.flag?_eq_some_iff.mpr ⟨hgoverns, hflagged.size_pos, rfl⟩

section

variable {files' : Files} {h' : Handle τ}

/-- The file and the mark are left alone, and the handle is not disabled. -/
theorem Exchange.unswitched (hbytes : files'.bytes id = files.bytes id) (hpath : h'.path = h.path)
    (henabled : h.enabled = true → h'.enabled = true) (hwas : h'.wasDisabled = h.wasDisabled) :
    Exchange id files files' [h] [h'] := by
  have hmarked : h'.Marked files id ↔ h.Marked files id := by
    rw [Handle.Marked, Handle.Marked, Handle.Governs, Handle.Governs, Handle.flagPath,
      Handle.flagPath, hpath, hwas]
  refine .quiet hbytes ?_ (by simp [hmarked])
  rintro ⟨_, hmem, hholds⟩
  obtain rfl := List.mem_singleton.mp hmem
  exact ⟨h', List.mem_singleton_self h', hmarked.mpr hholds.1, henabled hholds.2⟩

theorem Exchange.refl (id : Nat) (files : Files) (h : Handle τ) :
    Exchange id files files [h] [h] :=
  .unswitched rfl rfl (fun hon => hon) rfl

/-- The file is left alone, and the handle is one on another device. -/
theorem Exchange.elsewhere (hbytes : files'.bytes id = files.bytes id) (hpath : h'.path = h.path)
    (hother : ¬ h.Governs files id) : Exchange id files files' [h] [h'] := by
  have hother' : ¬ h'.Governs files id := by
    rw [Handle.Governs, Handle.flagPath, hpath]
    exact hother
  refine .quiet hbytes ?_ ?_
  · rintro ⟨_, hmem, hholds⟩
    obtain rfl := List.mem_singleton.mp hmem
    exact absurd hholds.1.1 hother
  · rintro ⟨_, hmem, hmarked⟩
    obtain rfl := List.mem_singleton.mp hmem
    exact absurd hmarked.1 hother'

end

theorem Use.enable_exchange (id : Nat) (d : Desk τ) :
    Exchange id d.files (perform .enable d).files [d.handle] [(perform .enable d).handle] := by
  obtain ⟨-, hperform⟩ | ⟨-, hcases⟩ := perform_enable_cases d
  · rw [hperform]
    exact .refl id d.files d.handle
  obtain ⟨other, hflag, hperform⟩ | ⟨other, hflag, hperform⟩ | ⟨-, hperform⟩ := hcases
  · obtain ⟨hfile, hsize, hclear⟩ := Handle.flag?_eq_some_iff.mp hflag
    rw [hperform]
    by_cases hid : other = id
    · subst hid
      refine .sets hclear ?_ ⟨_, List.mem_singleton_self _, ⟨hfile, rfl⟩, rfl⟩
      rw [Files.bytes_write_flag hsize, if_pos rfl]
    · refine .elsewhere ?_ rfl fun hgoverns => ?_
      · rw [Files.bytes_write_flag hsize, if_neg hid]
      · exact hid (Except.ok.inj (hfile.symm.trans hgoverns))
  · -- enabled without a mark; the flag was set by others
    rw [hperform]
    exact .unswitched rfl rfl (fun _ => rfl) rfl
  · rw [hperform]
    exact .refl id d.files d.handle

/-- Switching off clears the flag for a handle that holds it, and does nothing
to it for any other. -/
theorem Handle.disable_files_cases (h : Handle τ) (hflagged : Flagged (files.bytes id)) :
    (h.Holds files id ∧
      (h.disable files).2.bytes id = (files.bytes id).overwrite 0 [flagOff]) ∨
    (¬ h.Holds files id ∧ (h.disable files).2.bytes id = files.bytes id) := by
  have hfiles : (h.disable files).2 = (Use.perform .disable ⟨h, files⟩).files := rfl
  rw [hfiles]
  obtain ⟨hidle, hperform⟩ | ⟨hmine, hcases⟩ := Use.perform_disable_cases ⟨h, files⟩
  · rw [hperform]
    exact .inr ⟨fun hholds => hidle ⟨hholds.2, hholds.1.2⟩, rfl⟩
  by_cases hgoverns : h.Governs files id
  · have hholds : h.Holds files id := ⟨⟨hgoverns, hmine.2⟩, hmine.1⟩
    have hseen := hgoverns.flag?_eq hflagged
    refine .inl ⟨hholds, ?_⟩
    obtain ⟨other, hflag, hperform⟩ | ⟨other, hflag, hperform⟩ | ⟨hnone, -⟩ := hcases
    · obtain ⟨rfl, -⟩ := Prod.mk.inj (Option.some.inj (hseen.symm.trans hflag))
      rw [hperform, Files.bytes_write_flag hflagged.size_pos, if_pos rfl]
    · -- nothing is written, but the flag is clear already
      obtain ⟨-, hclear⟩ := Prod.mk.inj (Option.some.inj (hseen.symm.trans hflag))
      rw [hperform, Bytes.overwrite_first_self hflagged.size_pos hclear]
    · obtain ⟨hon, hoff⟩ := hnone id _ hseen
      exact absurd hflagged (by simp [Flagged, hon, hoff])
  · refine .inr ⟨fun hholds => hgoverns hholds.1.1, ?_⟩
    obtain ⟨other, hflag, hperform⟩ | ⟨other, -, hperform⟩ | ⟨-, hperform⟩ := hcases
    · obtain ⟨hfile, hsize, -⟩ := Handle.flag?_eq_some_iff.mp hflag
      have hid : other ≠ id := by
        rintro rfl
        exact hgoverns hfile
      rw [hperform, Files.bytes_write_flag hsize, if_neg hid]
    · rw [hperform]
    · rw [hperform]

/-- After switching off, whatever is left of the handle may be given up. -/
theorem Handle.disable_exchange (h : Handle τ) (hflagged : Flagged (files.bytes id))
    {new : List (Handle τ)} (hnew : ∀ h' ∈ new, h'.Marked files id → h.Marked files id) :
    Exchange id files (h.disable files).2 [h] new := by
  obtain ⟨hholds, hbytes⟩ | ⟨hholds, hbytes⟩ := h.disable_files_cases hflagged
  · exact .clears ⟨h, List.mem_singleton_self h, hholds.1⟩ hbytes
  · refine .quiet hbytes ?_ ?_
    · simpa using fun hh => absurd hh hholds
    · rintro ⟨h', hmem, hmarked⟩
      exact ⟨h, List.mem_singleton_self h, hnew h' hmem hmarked⟩

end

/-! ### The uses of a handle -/

/-- If others are at work in the use, they leave the file alone. -/
def Use.LeavesToHandle (id : Nat) (files : Files) : Use → Prop
  | .outside change => Files.SameAt id files (change files)
  | _ => True

namespace Mapping

variable {m : Mapping} {id : Nat} {cell : Cell} {address : UInt64} {value bits : UInt32}

theorem bytes_poke (hfile : m.file ≠ id) (files : Files) :
    (m.poke files cell address value).bytes id = files.bytes id := by
  rw [poke, Files.bytes_overlay, if_neg hfile]

theorem bytes_write (hfile : m.file ≠ id) (files : Files) :
    (m.write cell address value files).2.bytes id = files.bytes id := by
  by_cases hrange : InRange m.size cell address
  · rw [(write_eq_ok hrange).2, bytes_poke hfile]
  · rw [(write_refused hrange).2]

theorem bytes_writeMasked (hfile : m.file ≠ id) (files : Files) :
    (m.writeMasked cell address value bits files).2.bytes id = files.bytes id := by
  by_cases hrange : InRange m.size cell address
  · rw [(writeMasked_eq_ok hrange).2, bytes_poke hfile]
  · rw [(writeMasked_refused hrange).2]

end Mapping

/-- Access to a BAR changes no file but the one that is mapped. -/
theorem Handle.bytes_access {h : Handle τ} {id : Nat} {access : Mapping → Action Files Unit}
    (hunmapped : ∀ m, h.mapping = some m → m.file ≠ id)
    (haccess : ∀ m (files : Files), m.file ≠ id → (access m files).2.bytes id = files.bytes id)
    (files : Files) :
    ((liftM h.mapped >>= access : Action Files Unit) files).2.bytes id = files.bytes id := by
  cases hm : h.mapping with
  | none =>
      rw [Handle.mapped, hm]
      rfl
  | some m =>
      rw [Handle.mapped, hm]
      exact haccess m files (hunmapped m hm)

namespace Use

variable {d : Desk τ} {id : Nat}

/-- Every use of a handle is an exchange. -/
theorem exchange {use : Use} (hleaves : use.LeavesToHandle id d.files)
    (hflagged : Flagged (d.files.bytes id))
    (hunmapped : ∀ m, d.handle.mapping = some m → m.file ≠ id) :
    Exchange id d.files (use.perform d).files [d.handle] [(use.perform d).handle] := by
  cases use with
  | enable => exact enable_exchange id d
  | disable =>
      refine d.handle.disable_exchange hflagged fun h' hmem hmarked => ?_
      obtain rfl := List.mem_singleton.mp hmem
      have hwas : (perform .disable d).handle.wasDisabled = d.handle.wasDisabled := by
        simpa [switchesOn] using wasDisabled_perform .disable d
      rw [Handle.Marked, hwas, Handle.Governs, Handle.flagPath, path_perform] at hmarked
      exact hmarked
  | map bar =>
      obtain hperform | ⟨file, -, -, -, hperform⟩ := perform_map_cases bar d
      · rw [hperform]
        exact .refl id d.files d.handle
      · rw [hperform]
        exact .unswitched rfl rfl (fun hon => hon) rfl
  | unmap =>
      rw [perform, answered_of_ok d.handle.result_unmap]
      exact .unswitched rfl rfl (fun hon => hon) rfl
  | read => exact .refl id d.files d.handle
  | write cell address value =>
      exact .unswitched (d.handle.bytes_access hunmapped (fun _ _ h => Mapping.bytes_write h _) _)
        rfl (fun hon => hon) rfl
  | mask cell address value bits =>
      exact .unswitched
        (d.handle.bytes_access hunmapped (fun _ _ h => Mapping.bytes_writeMasked h _) _)
        rfl (fun hon => hon) rfl
  | outside change => exact .unswitched hleaves.bytes rfl (fun hon => hon) rfl

/-- A use moves no path to the file, or away from it. -/
theorem fileAt_perform {use : Use} (hleaves : use.LeavesToHandle id d.files) (path : String) :
    (use.perform d).files.fileAt path = .ok id ↔ d.files.fileAt path = .ok id := by
  cases use with
  | outside change => exact hleaves.paths path
  | enable =>
      have hgrows : d.files.Grows (perform .enable d).files :=
        (d.handle.enable_switched d.files).files
      rw [hgrows.fileAt]
  | disable =>
      have hgrows : d.files.Grows (perform .disable d).files :=
        (d.handle.disable_switched d.files).files
      rw [hgrows.fileAt]
  | map | unmap | read => exact Iff.rfl
  | write cell address value =>
      have hgrows := d.handle.write_grows cell address value d.files
      rw [perform, hgrows.fileAt]
  | mask cell address value bits =>
      have hgrows := d.handle.writeMasked_grows cell address value bits d.files
      rw [perform, hgrows.fileAt]

/-- Where no BAR is a way to the file, it does not get mapped. -/
theorem unmapped_perform (use : Use)
    (hapart : ∀ bar : UInt64, bar.toNat < 6 → d.files.fileAt (d.handle.resourcePath bar) ≠ .ok id)
    (hunmapped : ∀ m, d.handle.mapping = some m → m.file ≠ id) :
    ∀ m, (use.perform d).handle.mapping = some m → m.file ≠ id := by
  intro m hm
  cases use with
  | enable =>
      rw [perform, answered_switched (d.handle.enable_switched d.files)] at hm
      exact hunmapped m hm
  | disable =>
      rw [perform, answered_switched (d.handle.disable_switched d.files)] at hm
      exact hunmapped m hm
  | map bar =>
      obtain hperform | ⟨file, hbar, -, hfile, hperform⟩ := perform_map_cases bar d
      · rw [hperform] at hm
        exact hunmapped m hm
      · rw [hperform] at hm
        rintro rfl
        obtain rfl := Option.some.inj hm
        exact hapart bar hbar hfile
  | unmap =>
      rw [perform, answered_of_ok d.handle.result_unmap] at hm
      cases hm
  | read | write | mask | outside => exact hunmapped m hm

end Use

/-! ## What keeps the flag restorable -/

/-- What a flag that was `original` at first has to do with the open handles. -/
structure Restorable (id : Nat) (original : Bytes) (files : Files)
    (handles : List (Handle τ)) : Prop where
  /-- No BAR is a way to the file. -/
  apart : ∀ (root : String) (bar : UInt64), bar.toNat < 6 →
    files.fileAt (Files.join root s!"resource{bar.toNat}") ≠ .ok id
  unmapped : ∀ h ∈ handles, ∀ m, h.mapping = some m → m.file ≠ id
  size : (files.bytes id).size = original.size
  tail : ∀ i, i ≠ 0 → (files.bytes id).byteAt i = original.byteAt i
  flagged : Flagged (files.bytes id)
  unmarked : original.byteAt 0 = Handle.flagOn →
    (files.bytes id).byteAt 0 = Handle.flagOn ∧ ∀ h ∈ handles, ¬ h.Marked files id
  held : original.byteAt 0 = Handle.flagOff → (files.bytes id).byteAt 0 = Handle.flagOn →
    ∃ h ∈ handles, h.Holds files id

/-- What is somewhere in a list is in its middle, or around that. -/
theorem exists_mem_middle {α : Type} {front middle back : List α} {p : α → Prop} :
    (∃ a ∈ front ++ middle ++ back, p a) ↔
      (∃ a ∈ middle, p a) ∨ ∃ a ∈ front ++ back, p a := by
  simp only [List.mem_append, or_and_right, exists_or]
  constructor
  · rintro ((h | h) | h)
    · exact .inr (.inl h)
    · exact .inl h
    · exact .inr (.inr h)
  · rintro (h | h | h)
    · exact .inl (.inr h)
    · exact .inl (.inl h)
    · exact .inr h

namespace Restorable

variable {id : Nat} {original : Bytes} {files files' : Files} {front old new back : List (Handle τ)}

/-- A flag that was set at first stays so, for nobody will have marked a
handle to clear it. -/
theorem unmarked_exchange (h : Restorable id original files (front ++ old ++ back))
    (hx : Exchange id files files' old new) (horiginal : original.byteAt 0 = Handle.flagOn) :
    (files'.bytes id).byteAt 0 = Handle.flagOn ∧
      ∀ handle ∈ front ++ new ++ back, ¬ handle.Marked files id := by
  obtain ⟨hset, hnone⟩ := h.unmarked horiginal
  have hrest : ∀ handle ∈ front ++ back, ¬ handle.Marked files id := by
    intro handle hmem hmarked
    rcases List.mem_append.mp hmem with hfront | hback
    · exact hnone handle (by simp [hfront]) hmarked
    · exact hnone handle (by simp [hback]) hmarked
  have hold : ¬ ∃ handle ∈ old, handle.Marked files id := by
    rintro ⟨handle, hmem, hmarked⟩
    exact hnone handle (by simp [hmem]) hmarked
  cases hx with
  | quiet hbytes _ hmarks =>
      refine ⟨hbytes ▸ hset, fun handle hmem hmarked => ?_⟩
      have hsome : ∃ handle ∈ front ++ new ++ back, handle.Marked files id :=
        ⟨handle, hmem, hmarked⟩
      rw [exists_mem_middle] at hsome
      rcases hsome with hnew | ⟨other, hother, hbad⟩
      · exact hold (hmarks hnew)
      · exact hrest other hother hbad
  | sets hclear _ _ => exact absurd (hset.symm.trans hclear) (by decide)
  | clears hmine _ => exact absurd hmine hold

/-- A flag that was clear at first is set only while somebody holds it. -/
theorem held_exchange (h : Restorable id original files (front ++ old ++ back))
    (hx : Exchange id files files' old new) (horiginal : original.byteAt 0 = Handle.flagOff)
    (hset : (files'.bytes id).byteAt 0 = Handle.flagOn) :
    ∃ handle ∈ front ++ new ++ back, handle.Holds files id := by
  rw [exists_mem_middle]
  cases hx with
  | quiet hbytes hkeeps _ =>
      rw [hbytes] at hset
      have hheld := h.held horiginal hset
      rw [exists_mem_middle] at hheld
      exact hheld.imp_left hkeeps
  | sets _ _ hnew => exact .inl hnew
  | clears _ hbytes =>
      rw [hbytes, Bytes.byteAt_overwrite_first h.flagged.size_pos, if_pos rfl] at hset
      exact absurd hset (by decide)

/-- An exchange that moves no path to the file keeps the flag restorable. -/
theorem exchange (h : Restorable id original files (front ++ old ++ back))
    (hpaths : ∀ path, files'.fileAt path = .ok id ↔ files.fileAt path = .ok id)
    (hunmapped : ∀ handle ∈ new, ∀ m, handle.mapping = some m → m.file ≠ id)
    (hx : Exchange id files files' old new) :
    Restorable id original files' (front ++ new ++ back) := by
  obtain ⟨hsize, htail, hflagged⟩ := hx.contents h.flagged
  have hmarked : ∀ handle : Handle τ, handle.Marked files' id ↔ handle.Marked files id :=
    fun handle => and_congr_left' (hpaths handle.flagPath)
  exact {
    apart := fun root bar hbar hfile => h.apart root bar hbar ((hpaths _).mp hfile)
    unmapped := by
      intro handle hmem
      simp only [List.mem_append] at hmem
      rcases hmem with (hmem | hmem) | hmem
      · exact h.unmapped handle (by simp [hmem])
      · exact hunmapped handle hmem
      · exact h.unmapped handle (by simp [hmem])
    size := hsize.trans h.size
    tail := fun i hi => (htail i hi).trans (h.tail i hi)
    flagged := hflagged
    unmarked := by
      intro horiginal
      simp only [hmarked]
      exact h.unmarked_exchange hx horiginal
    held := by
      intro horiginal hset
      simp only [Handle.Holds, hmarked]
      exact h.held_exchange hx horiginal hset }

/-- So does a change that leaves the file alone and has to do with no handle. -/
theorem of_sameAt {handles : List (Handle τ)} (h : Restorable id original files handles)
    (hsame : Files.SameAt id files files') : Restorable id original files' handles := by
  have hnothing : Exchange (τ := τ) id files files' [] [] :=
    .quiet hsame.bytes (by simp) (by simp)
  have hbefore : Restorable id original files (handles ++ [] ++ []) := by simpa using h
  simpa using hbefore.exchange hsame.paths (by simp) hnothing

end Restorable

end PciBus

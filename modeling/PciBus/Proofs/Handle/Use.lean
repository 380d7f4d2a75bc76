import PciBus.Desk
import PciBus.Proofs.Handle.Calls

/-!
# Using a handle

What happens to an open handle is a list of uses: calls on it, in any order,
and what others do to the files in between. A use never changes which device
the handle is for. Calls on the handle move no name and cut no file short, so
what a name leads to and how long a file is are up to the others
(`Use.perform_resources`).
-/

namespace PciBus

variable {τ : Type}

/-- One thing that happens to an open handle. -/
inductive Use where
  | enable
  | disable
  | map (bar : UInt64)
  | unmap
  | read (cell : Cell) (address : UInt64)
  | write (cell : Cell) (address : UInt64) (value : UInt32)
  | mask (cell : Cell) (address : UInt64) (value bits : UInt32)
  /-- Somebody else changes files. -/
  | outside (change : Files → Files)

namespace Use

/-- The handle that an operation answers; when it fails, the one there was. -/
def answered (d : Desk τ) (x : Logged (Handle τ)) : Handle τ := x.result.toOption.getD d.handle

/-- The handle and the files after a use. -/
def perform : Use → Desk τ → Desk τ
  | .enable, d => ⟨answered d (d.handle.enable d.files).1, (d.handle.enable d.files).2⟩
  | .disable, d => ⟨answered d (d.handle.disable d.files).1, (d.handle.disable d.files).2⟩
  | .map bar, d => ⟨answered d (d.handle.map d.files bar), d.files⟩
  | .unmap, d => ⟨answered d d.handle.unmap, d.files⟩
  | .read _ _, d => d
  | .write cell address value, d =>
      ⟨d.handle, (d.handle.write cell address value d.files).2⟩
  | .mask cell address value bits, d =>
      ⟨d.handle, (d.handle.writeMasked cell address value bits d.files).2⟩
  | .outside change, d => ⟨d.handle, change d.files⟩

end Use

/-- The handle and the files after a run of uses. -/
def used (uses : List Use) (d : Desk τ) : Desk τ :=
  uses.foldl (fun d use => use.perform d) d

@[simp] theorem used_nil (d : Desk τ) : used [] d = d := rfl

@[simp] theorem used_cons (use : Use) (uses : List Use) (d : Desk τ) :
    used (use :: uses) d = used uses (use.perform d) := rfl

theorem used_append (uses more : List Use) (d : Desk τ) :
    used (uses ++ more) d = used more (used uses d) := by
  simp [used]

/-! ## Files that others leave in place -/

/-- No file of a BAR is removed, replaced or cut short. -/
def KeepsResources (h : Handle τ) (before after : Files) : Prop :=
  ∀ bar : UInt64, bar.toNat < 6 → ∀ id,
    before.fileAt (Files.join h.path s!"resource{bar.toNat}") = .ok id →
    after.fileAt (Files.join h.path s!"resource{bar.toNat}") = .ok id ∧
      (before.bytes id).size ≤ (after.bytes id).size

namespace Use

/-- If others are at work in the use, they keep the files of the BARs. -/
def Keeps (d : Desk τ) : Use → Prop
  | .outside change => KeepsResources d.handle d.files (change d.files)
  | _ => True

end Use

/-- Throughout the run the files of the BARs are kept. -/
def Kept : List Use → Desk τ → Prop
  | [], _ => True
  | use :: uses, d => use.Keeps d ∧ Kept uses (use.perform d)

theorem kept_append {uses more : List Use} {d : Desk τ} :
    Kept (uses ++ more) d ↔ Kept uses d ∧ Kept more (used uses d) := by
  induction uses generalizing d with
  | nil => simp [Kept]
  | cons use rest ih => simp only [List.cons_append, Kept, ih, used_cons, and_assoc]

theorem Files.Grows.keepsResources {before after : Files} (h : Grows before after) (handle : Handle τ) :
    KeepsResources handle before after :=
  fun _ _ id hid => ⟨(h.fileAt _).trans hid, h.size id⟩

/-! ## What a use leaves alone -/

namespace Use

variable {d : Desk τ}

theorem answered_eq (d : Desk τ) (x : Logged (Handle τ)) :
    answered d x = d.handle ∨ x.result = .ok (answered d x) := by
  cases hresult : x.result with
  | error e => exact .inl (by rw [answered, hresult]; rfl)
  | ok h => exact .inr (by rw [answered, hresult]; rfl)

theorem answered_of_ok {x : Logged (Handle τ)} {h : Handle τ} (hok : x.result = .ok h) :
    answered d x = h := by
  rw [answered, hok]
  rfl

/-- What a call to `map` comes to. -/
theorem perform_map_cases (bar : UInt64) (d : Desk τ) :
    perform (.map bar) d = d ∨
    ∃ id, bar.toNat < 6 ∧ d.handle.mapping = none ∧
      d.files.fileAt (d.handle.resourcePath bar) = .ok id ∧
      perform (.map bar) d =
        ⟨{ d.handle with mapping := some ⟨id, d.handle.declared bar⟩ }, d.files⟩ := by
  rcases answered_eq d (d.handle.map d.files bar) with hsame | hok
  · exact .inl (by rw [perform, hsame])
  · obtain ⟨hbar, hmap⟩ := Handle.map_eq_ok_iff.mp hok
    split at hmap
    · exact .inl (by rw [perform, hmap.2])
    · rename_i hnone
      obtain ⟨id, hfile, -, -, heq⟩ := hmap
      exact .inr ⟨id, hbar, hnone, hfile, by rw [perform, heq]⟩

/-- Switching on or off leaves all of the handle but its two flags. -/
theorem answered_switched {x : Logged (Handle τ) × Files}
    (h : d.handle.Switched d.files (x.1.result.toOption, x.2)) :
    d.handle.SameButFlags (answered d x.1) := by
  rcases answered_eq d x.1 with hsame | hok
  · rw [hsame, Handle.SameButFlags]
  · exact h.handle _ (by rw [hok]; rfl)

/-- Of the handle, a use changes no more than the mapping and the two flags. -/
theorem handle_perform (use : Use) (d : Desk τ) :
    (use.perform d).handle = { d.handle with
      mapping := (use.perform d).handle.mapping
      enabled := (use.perform d).handle.enabled
      wasDisabled := (use.perform d).handle.wasDisabled } := by
  cases use with
  | enable => rw [perform, answered_switched (d.handle.enable_switched d.files)]
  | disable => rw [perform, answered_switched (d.handle.disable_switched d.files)]
  | map bar =>
      rcases answered_eq d (d.handle.map d.files bar) with hsame | hok
      · rw [perform, hsame]
      · have hmap := (Handle.map_eq_ok_iff.mp hok).2
        split at hmap
        · rw [perform, hmap.2]
        · obtain ⟨id, -, -, -, heq⟩ := hmap
          rw [perform, heq]
  | unmap => rw [perform, answered_of_ok d.handle.result_unmap]
  | read | write | mask | outside => rfl

@[simp] theorem declared_perform (use : Use) (d : Desk τ) (bar : UInt64) :
    (use.perform d).handle.declared bar = d.handle.declared bar := by
  rw [handle_perform]
  rfl

@[simp] theorem path_perform (use : Use) (d : Desk τ) :
    (use.perform d).handle.path = d.handle.path := by
  rw [handle_perform]

/-- A live mapping stays until it is given up. -/
theorem mapping_perform {use : Use} {m : Mapping} (hm : d.handle.mapping = some m)
    (huse : use ≠ .unmap) : (use.perform d).handle.mapping = some m := by
  cases use with
  | enable => rw [perform, answered_switched (d.handle.enable_switched d.files), hm]
  | disable => rw [perform, answered_switched (d.handle.disable_switched d.files), hm]
  | map bar =>
      rcases answered_eq d (d.handle.map d.files bar) with hsame | hok
      · rw [perform, hsame, hm]
      · have hmap := (Handle.map_eq_ok_iff.mp hok).2
        rw [hm] at hmap
        rw [perform, hmap.2, hm]
  | unmap => exact absurd rfl huse
  | read | write | mask | outside => exact hm

/-- The files of the BARs are kept if the others keep them. -/
theorem perform_keeps {use : Use} (h : use.Keeps d) :
    KeepsResources d.handle d.files (use.perform d).files := by
  cases use with
  | enable => exact (d.handle.enable_switched d.files).files.keepsResources d.handle
  | disable => exact (d.handle.disable_switched d.files).files.keepsResources d.handle
  | map | unmap | read => exact (Files.Grows.refl d.files).keepsResources d.handle
  | write cell address value =>
      exact (d.handle.write_grows cell address value d.files).keepsResources d.handle
  | mask cell address value bits =>
      exact (d.handle.writeMasked_grows cell address value bits d.files).keepsResources d.handle
  | outside change => exact h

end Use

theorem declared_used (uses : List Use) (d : Desk τ) (bar : UInt64) :
    (used uses d).handle.declared bar = d.handle.declared bar := by
  induction uses generalizing d with
  | nil => rfl
  | cons use rest ih => rw [used_cons, ih, Use.declared_perform]

end PciBus

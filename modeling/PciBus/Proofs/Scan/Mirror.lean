import PciBus.Proofs.Bar.Decoding
import PciBus.Proofs.Bus.Access
import PciBus.Proofs.Files.Names

/-!
# A bus and a tree with the same images

A function may be held by a bus in memory or have its config space in a file
of a scanned tree. While both hold the same bytes (`Mirrors`), access to one
and to the other comes to the same: reads answer the same number or refuse
with faults that differ in their wording alone (`Mirrors.read_alike`), and
writes keep the bytes the same (`Mirrors.write`). So do captures, and so does
everything that is computed from reads, such as decoding a BAR
(`Bar.classify_alike`).
-/

namespace PciBus

/-! ## Results that are alike -/

/-- The same fault, up to the wording of why config space was not accessed. -/
def Fault.Alike : Fault → Fault → Prop
  | .config location offset _, .config location' offset' _ =>
      location = location' ∧ offset = offset'
  | e, e' => e = e'

/-- Both answered the same, or both failed with faults that are alike. -/
inductive Alike {α : Type} : Except Fault α → Except Fault α → Prop
  | ok (a : α) : Alike (.ok a) (.ok a)
  | error {e e' : Fault} (h : e.Alike e') : Alike (.error e) (.error e')

namespace Alike

variable {α β : Type}

theorem refl (x : Except Fault α) : Alike x x := by
  cases x with
  | ok a => exact .ok a
  | error e => exact .error (by cases e <;> simp [Fault.Alike])

/-- Going on alike after results that are alike. -/
theorem bind {x x' : Except Fault α} {f f' : α → Except Fault β} (hx : Alike x x')
    (hf : ∀ a, Alike (f a) (f' a)) : Alike (x.bind f) (x'.bind f') := by
  cases hx with
  | ok a => exact hf a
  | error h => exact .error h

end Alike

/-! ## Decoding a BAR -/

/-- What a BAR decodes to depends on what is read alone. -/
theorem Bar.classify_alike {read read' : ConfigReader}
    (hread : ∀ offset width, Alike (read offset width) (read' offset width)) (location : Location)
    (offset : UInt16) (bits : Nat) :
    Alike (classify read location offset bits).result
      (classify read' location offset bits).result := by
  rw [classify_result, classify_result]
  refine .bind (hread _ _) fun register => ?_
  refine .bind (hread _ _) fun raw => .bind (hread _ _) fun _ => ?_
  cases kindAt (Header.ofRegister register.toUInt8) offset raw with
  | memory =>
      have hupper : Alike (upperHalf read offset raw) (upperHalf read' offset raw) := by
        unfold upperHalf
        cases widthOf raw with
        | bits32 => exact .refl _
        | bits64 => exact hread _ _
      exact hupper.bind fun _ => .refl _
  | io | rom | unknown => exact .refl _

/-! ## Mirrored images -/

/-- At each of the locations the bus and the tree have a function with the same
image; in the tree it is in a file of its own. -/
structure Mirrors (id : Nat) (scan : Scan) (file : Location → Nat) (locations : List Location)
    (m m' : Machine) : Prop where
  image : ∀ l ∈ locations, ∃ slot, m.slot? id l = some slot ∧
    m'.files.bytes (file l) = slot.card.image.bytes
  path : ∀ l ∈ locations, m'.files.fileAt (scan.configPath l) = .ok (file l)
  own : ∀ a ∈ locations, ∀ b ∈ locations, file a = file b → a = b
  enumerated : ∀ l ∈ locations, (scan.records.find? (·.location == l)).isSome

namespace Mirrors

variable {id : Nat} {scan : Scan} {file : Location → Nat} {locations : List Location}
  {m m' : Machine} {l : Location} {offset : UInt16} {width : Width}

theorem read_alike (h : Mirrors id scan file locations m m') (hl : l ∈ locations)
    (offset : UInt16) (width : Width) :
    Alike ((Context.bus id).read m l offset width)
      ((Context.tree scan).read m' l offset width) := by
  obtain ⟨slot, hslot, hbytes⟩ := h.image l hl
  have hsize : (m'.files.bytes (file l)).size = imageSize := by
    rw [hbytes, slot.card.image.size_eq]
  have hfind : (m.bus id).find? l = some slot := hslot
  simp only [Context.read, Bus.read, Scan.read, h.path l hl, hfind, hsize, Bus.inSpace,
    decide_eq_true_eq]
  split
  · rw [hbytes]
    exact .ok _
  · exact .error ⟨rfl, rfl⟩

/-- Within config space a write goes through on both, and leaves them with the
same images. -/
theorem write (h : Mirrors id scan file locations m m') (hl : l ∈ locations)
    (hspace : Bus.inSpace offset width) (value : UInt32) :
    ∃ after after', (Context.bus id).write m l offset width value = .ok after ∧
      (Context.tree scan).write m' l offset width value = .ok after' ∧
      Mirrors id scan file locations after after' := by
  obtain ⟨slot, hslot, hbytes⟩ := h.image l hl
  have hbus : (Context.bus id).busId? = some id := rfl
  obtain ⟨after, hafter⟩ := Context.write_isOk hbus (fun hrefuses => hrefuses)
    (Option.isSome_iff_exists.mpr ⟨slot, hslot⟩) hspace value
  -- the write ends within the file, so it does not grow
  have hfits : offset.toNat + (Bytes.ofNumber width.bytes value.toNat).length ≤
      (m'.files.bytes (file l)).size := by
    rw [Bytes.length_ofNumber, hbytes, slot.card.image.size_eq]
    simpa [Bus.inSpace] using hspace
  have hoverwrite := Files.write_eq_overwrite hfits
  let files := m'.files.overwrite (file l) offset.toNat (Bytes.ofNumber width.bytes value.toNat)
  refine ⟨after, { m' with files := files }, hafter, ?_, ?_⟩
  · simp only [Context.write, Scan.write, h.path l hl, hoverwrite]
    rfl
  · refine ⟨fun other hother => ?_, fun other hother => ?_, h.own, h.enumerated⟩
    · obtain ⟨slot', hslot', hbytes'⟩ := h.image other hother
      rw [Context.slot?_write hbus hafter, hslot', Files.bytes_overwrite]
      by_cases hsame : l = other
      · subst hsame
        exact ⟨_, rfl, by simp [hbytes', Slot.write, Image.put]⟩
      · have hfile : file l ≠ file other := fun hfile => hsame (h.own l hl other hother hfile)
        exact ⟨_, rfl, by simp [hbytes', hsame, hfile]⟩
    · rw [Files.fileAt, Files.resolve_overwrite]
      exact h.path other hother

/-- What is captured is the same, and lies within config space. -/
theorem capture_alike (h : Mirrors id scan file locations m m') (hl : l ∈ locations)
    (offset : UInt16) (width : Width) :
    Alike (Undo.capture (.bus id) m l offset width) (Undo.capture (.tree scan) m' l offset width) :=
  (h.read_alike hl offset width).bind fun _ => .refl _

end Mirrors

end PciBus

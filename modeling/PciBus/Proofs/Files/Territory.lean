import Mathlib.Data.Setoid.Basic
import PciBus.Proofs.Files.Names

/-!
# Two parties on one tree

A territory is what one party has of a tree: the paths it opens files by, and
the numbers of its files. Two trees may agree inside the territory
(`Territory.inside`) or in everything else (`Territory.outside`); if they agree
in both, they are one tree (`Territory.whole`).

What is done to one file does the same to that file on every tree that has the
same file (`Files.Edits`). So a change to one file is the same in trees that
agree (`SameInside.edits`, `SameOutside.edits`); if the file belongs to the
territory it does not show outside (`outside_of_edits`), and if not, it does
not show inside (`inside_of_edits`).
-/

namespace PciBus

namespace Files

/-! ## One file -/

/-- A file is the same in two trees, what mappings show past its end included. -/
structure SameFile (id : Nat) (a b : Files) : Prop where
  made : id < a.contents.size ↔ id < b.contents.size
  bytes : a.bytes id = b.bytes id
  shown : ∀ i, a.shownByte id i = b.shownByte id i

/-- Two trees are one and the same, whatever order the bytes past the ends of
files have been written in. -/
structure SameTree (a b : Files) : Prop where
  entries : a.entries = b.entries
  contents : a.contents = b.contents
  shown : ∀ id i, a.shownByte id i = b.shownByte id i

namespace SameFile

variable {id : Nat} {a b c : Files}

theorem refl (id : Nat) (a : Files) : SameFile id a a := ⟨Iff.rfl, rfl, fun _ => rfl⟩

theorem symm (h : SameFile id a b) : SameFile id b a :=
  ⟨h.made.symm, h.bytes.symm, fun i => (h.shown i).symm⟩

theorem trans (h : SameFile id a b) (h' : SameFile id b c) : SameFile id a c :=
  ⟨h.made.trans h'.made, h.bytes.trans h'.bytes, fun i => (h.shown i).trans (h'.shown i)⟩

/-- Past the end of the file, mappings show what has been written there. -/
theorem beyond (h : SameFile id a b) {i : Nat} (hi : (a.bytes id).size ≤ i) :
    (a.beyond.lookup (id, i)).getD 0 = (b.beyond.lookup (id, i)).getD 0 := by
  have hshown := h.shown i
  rw [shownByte, shownByte, ← h.bytes, if_neg (Nat.not_lt.mpr hi), if_neg (Nat.not_lt.mpr hi)]
    at hshown
  exact hshown

end SameFile

/-- A change to the tree that concerns one file: it leaves the names and all
other files alone, and what becomes of the file depends on the file. -/
structure Edits (id : Nat) (change : Files → Files) : Prop where
  entries : ∀ a, (change a).entries = a.entries
  size : ∀ a, (change a).contents.size = a.contents.size
  others : ∀ a other, other ≠ id → SameFile other a (change a)
  file : ∀ a b, SameFile id a b → SameFile id (change a) (change b)

theorem fileAt_congr {a b : Files} (h : a.entries = b.entries) (path : String) :
    a.fileAt path = b.fileAt path := by
  rw [fileAt, fileAt, resolve_congr h]

theorem Edits.fileAt {id : Nat} {change : Files → Files} (h : Edits id change) (a : Files)
    (path : String) : (change a).fileAt path = a.fileAt path :=
  fileAt_congr (h.entries a) path

theorem edits_write (id offset : Nat) (values : List UInt8) :
    Edits id (·.write id offset values) where
  entries _ := rfl
  size a := by simp [write]
  others a other hother := by
    have hbytes : (a.write id offset values).bytes other = a.bytes other := by
      rw [write, bytes_modify, if_neg fun h => hother h.1.symm]
    refine ⟨by simp [write], hbytes.symm, fun i => ?_⟩
    rw [shownByte, shownByte, hbytes]
    rfl
  file a b h := by
    have hbytes : (a.write id offset values).bytes id = (b.write id offset values).bytes id := by
      simp only [write, bytes_modify, h.made, h.bytes]
    refine ⟨by simpa [write] using h.made, hbytes, fun i => ?_⟩
    rw [shownByte, shownByte, hbytes]
    split
    · rfl
    · -- a file that is written to does not get shorter
      rename_i hi
      apply h.beyond
      rw [Nat.not_lt, ← hbytes, write, bytes_modify] at hi
      refine Nat.le_trans ?_ hi
      split
      · rw [Bytes.size_overwrite, Bytes.size_extend]
        exact Nat.le_max_left _ _
      · exact Nat.le_refl _

theorem edits_overlay (id offset : Nat) (values : List UInt8) :
    Edits id (·.overlay id offset values) where
  entries _ := rfl
  size a := by simp [overlay, overwrite]
  others a other hother := by
    have hbytes : (a.overlay id offset values).bytes other = a.bytes other := by
      rw [bytes_overlay, if_neg (Ne.symm hother)]
    have hmiss : ∀ (l : List ((Nat × Nat) × UInt8)) (i : Nat), (∀ p ∈ l, p.1.1 = id) →
        l.lookup (other, i) = none := by
      intro l i hl
      rw [List.lookup_eq_none_iff]
      intro p hp
      have hp1 : (other, i) ≠ p.1 := fun h => hother (by rw [← hl p hp, ← h])
      simpa using hp1
    refine ⟨by simp [overlay, overwrite], hbytes.symm, fun i => ?_⟩
    rw [shownByte, shownByte, hbytes, overlay, List.lookup_append, hmiss (List.map _ _),
      Option.none_or]
    -- what is written past the end is noted under the number `id`
    intro p hp
    obtain ⟨q, -, rfl⟩ := List.mem_map.mp hp
    rfl
  file a b h := by
    have hbytes : (a.overlay id offset values).bytes id =
        (b.overlay id offset values).bytes id := by
      rw [bytes_overlay, bytes_overlay, h.bytes]
    refine ⟨by simpa [overlay, overwrite] using h.made, hbytes, fun i => ?_⟩
    rw [shownByte, shownByte, hbytes]
    split
    · rfl
    · rename_i hi
      have hend : (a.bytes id).size ≤ i := by
        rw [bytes_overlay, if_pos rfl, Bytes.size_overwrite, ← h.bytes] at hi
        exact Nat.le_of_not_lt hi
      rw [overlay, overlay, List.lookup_append, List.lookup_append, h.bytes]
      -- either this change has written there, or the byte is from before
      cases List.lookup (id, i) _ with
      | some value => rfl
      | none => exact h.beyond hend

/-! ## Trees without links -/

/-- No file has two names, and what a name stands for is there. -/
structure LinkFree (files : Files) : Prop where
  single : ∀ id, files.Unlinked id
  made : ∀ place id, files.find? place = some (.file id) → id < files.contents.size

variable {files : Files}

theorem linkFree_empty : LinkFree {} := by
  have hnone : ∀ place id, ({} : Files).find? place ≠ some (.file id) := by
    intro place id
    by_cases htop : place = [] <;> simp [find?, htop]
  exact ⟨fun id _ b ha _ => absurd ha (hnone _ id), fun place id h => absurd h (hnone place id)⟩

/-- Names may go, and files without a name come. -/
theorem LinkFree.of_find? {a b : Files} (h : a.LinkFree)
    (hfind : ∀ place id, b.find? place = some (.file id) → a.find? place = some (.file id))
    (hsize : a.contents.size ≤ b.contents.size) : b.LinkFree where
  single id p q hp hq := h.single id p q (hfind p id hp) (hfind q id hq)
  made place id hplace := Nat.lt_of_lt_of_le (h.made place id (hfind place id hplace)) hsize

/-- What stands at a place when an entry has been added where nothing was. -/
theorem find?_append {place : Path} (hfree : files.find? place = none) (entry : Entry)
    (contents : Array Bytes) (other : Path) :
    find? { files with entries := files.entries ++ [(place, entry)], contents := contents } other =
      if other = place then some entry else files.find? other := by
  have htop := (find?_eq_none_iff.mp hfree).1
  by_cases hother : other = place
  · subst hother
    have hnone : files.entries.find? (·.1 == other) = none := by
      simpa [find?, htop] using hfree
    simp [find?, htop, List.find?_append, hnone]
  · simp [find?, List.find?_append, hother, Ne.symm hother]

theorem LinkFree.addDirectory (h : files.LinkFree) (place : Path) :
    (files.addDirectory place).LinkFree := by
  rw [Files.addDirectory]
  cases hfind : files.find? place with
  | some entry => exact h
  | none =>
      refine h.of_find? (fun other id hother => ?_) (Nat.le_refl _)
      rw [find?_append hfind .directory files.contents] at hother
      split at hother
      · cases hother
      · exact hother

theorem LinkFree.makeDirectory (h : files.LinkFree) (place : Path) :
    (files.makeDirectory place).LinkFree := by
  rw [Files.makeDirectory]
  generalize List.range place.length = depths
  induction depths generalizing files with
  | nil => exact h
  | cons n depths ih => exact ih (h.addDirectory _)

/-- A new file gets a number that no name stands for yet. -/
theorem LinkFree.addFile (h : files.LinkFree) {place : Path} (hfree : files.find? place = none)
    (bytes : Bytes) :
    LinkFree { files with
      entries := files.entries ++ [(place, .file files.contents.size)]
      contents := files.contents.push bytes } := by
  have hfind := find?_append hfree (.file files.contents.size) (files.contents.push bytes)
  have hcases : ∀ {other id}, find? { files with
      entries := files.entries ++ [(place, .file files.contents.size)]
      contents := files.contents.push bytes } other = some (.file id) →
      (other = place ∧ id = files.contents.size) ∨ files.find? other = some (.file id) := by
    intro other id hother
    rw [hfind] at hother
    split at hother
    · rename_i hplace
      cases hother
      exact .inl ⟨hplace, rfl⟩
    · exact .inr hother
  constructor
  · intro id p q hp hq
    rcases hcases hp with ⟨rfl, rfl⟩ | hp' <;> rcases hcases hq with ⟨rfl, hid⟩ | hq'
    · rfl
    · exact absurd (h.made q _ hq') (Nat.lt_irrefl _)
    · exact absurd (hid ▸ h.made p _ hp') (Nat.lt_irrefl _)
    · exact h.single id p q hp' hq'
  · intro other id hother
    rw [Array.size_push]
    rcases hcases hother with ⟨-, rfl⟩ | hold
    · exact Nat.lt_succ_self _
    · exact Nat.lt_succ_of_lt (h.made other id hold)

theorem LinkFree.put (h : files.LinkFree) (path : String) (bytes : Bytes) :
    (files.put path bytes).LinkFree := by
  rw [Files.put]
  cases hfind : files.find? (placeOf path) with
  | some entry =>
      cases entry with
      | directory => exact h
      | file id => exact h.of_find? (fun _ _ hother => hother) (by simp)
  | none =>
      have htop := (find?_eq_none_iff.mp hfind).1
      have hlonger : (placeOf path).dropLast.length < (placeOf path).length := by
        have := List.length_pos_iff.mpr htop
        rw [List.length_dropLast]
        omega
      apply (h.makeDirectory (placeOf path).dropLast).addFile
      rw [find?_makeDirectory hlonger, hfind]

end Files

/-! ## Inside and outside -/

/-- What one party has of a tree: the paths by which it opens files, and the
numbers of its files. -/
structure Territory where
  path : String → Prop
  owns : Nat → Prop

namespace Territory

variable {t : Territory} {a b : Files} {id : Nat} {change : Files → Files}

/-- Two trees agree inside the territory: the paths lead to the same files, and
these have the same names and the same contents. -/
structure SameInside (t : Territory) (a b : Files) : Prop where
  leads : ∀ path, t.path path → a.fileAt path = b.fileAt path
  names : ∀ place id, t.owns id →
    (a.find? place = some (.file id) ↔ b.find? place = some (.file id))
  files : ∀ id, t.owns id → Files.SameFile id a b

/-- Two trees agree in all names and in the files of the others. -/
structure SameOutside (t : Territory) (a b : Files) : Prop where
  entries : a.entries = b.entries
  size : a.contents.size = b.contents.size
  files : ∀ id, ¬ t.owns id → Files.SameFile id a b

/-- To agree inside is an equivalence. -/
def inside (t : Territory) : Setoid Files where
  r := t.SameInside
  iseqv := {
    refl := fun a => ⟨fun _ _ => rfl, fun _ _ _ => Iff.rfl, fun id _ => .refl id a⟩
    symm := fun h => ⟨fun path hpath => (h.leads path hpath).symm,
      fun place id hown => (h.names place id hown).symm, fun id hown => (h.files id hown).symm⟩
    trans := fun h h' => ⟨fun path hpath => (h.leads path hpath).trans (h'.leads path hpath),
      fun place id hown => (h.names place id hown).trans (h'.names place id hown),
      fun id hown => (h.files id hown).trans (h'.files id hown)⟩ }

/-- So is to agree outside. -/
def outside (t : Territory) : Setoid Files where
  r := t.SameOutside
  iseqv := {
    refl := fun a => ⟨rfl, rfl, fun id _ => .refl id a⟩
    symm := fun h => ⟨h.entries.symm, h.size.symm, fun id hnot => (h.files id hnot).symm⟩
    trans := fun h h' => ⟨h.entries.trans h'.entries, h.size.trans h'.size,
      fun id hnot => (h.files id hnot).trans (h'.files id hnot)⟩ }

/-- There is nothing else to a tree. -/
theorem whole (hin : t.inside a b) (hout : t.outside a b) : a.SameTree b := by
  have hfile : ∀ id, Files.SameFile id a b := by
    intro id
    by_cases hown : t.owns id
    · exact hin.files id hown
    · exact hout.files id hown
  refine ⟨hout.entries, ?_, fun id => (hfile id).shown⟩
  refine Array.ext hout.size fun i hi hi' => ?_
  simpa [Files.bytes, Array.getD, hi, hi'] using (hfile i).bytes

/-! ## What is done to one file -/

/-- A change to one file, made to both trees, keeps them in agreement inside. -/
theorem SameInside.edits (hab : t.SameInside a b) (h : Files.Edits id change) :
    t.SameInside (change a) (change b) where
  leads path hpath := by rw [h.fileAt, h.fileAt, hab.leads path hpath]
  names place other hown := by
    rw [Files.find?_congr (h.entries a), Files.find?_congr (h.entries b)]
    exact hab.names place other hown
  files other hown := by
    by_cases hother : other = id
    · subst hother
      exact h.file a b (hab.files other hown)
    · exact ((h.others a other hother).symm.trans (hab.files other hown)).trans
        (h.others b other hother)

/-- And outside. -/
theorem SameOutside.edits (hab : t.SameOutside a b) (h : Files.Edits id change) :
    t.SameOutside (change a) (change b) where
  entries := by rw [h.entries, h.entries, hab.entries]
  size := by rw [h.size, h.size, hab.size]
  files other hnot := by
    by_cases hother : other = id
    · subst hother
      exact h.file a b (hab.files other hnot)
    · exact ((h.others a other hother).symm.trans (hab.files other hnot)).trans
        (h.others b other hother)

/-- A change to a file of the territory does not show outside. -/
theorem outside_of_edits (h : Files.Edits id change) (hown : t.owns id) (a : Files) :
    t.outside a (change a) where
  entries := (h.entries a).symm
  size := (h.size a).symm
  files other hnot := h.others a other fun hother => hnot (hother ▸ hown)

/-- A change to any other file does not show inside. -/
theorem inside_of_edits (h : Files.Edits id change) (hnot : ¬ t.owns id) (a : Files) :
    t.inside a (change a) where
  leads path _ := (h.fileAt a path).symm
  names place _ _ := by rw [Files.find?_congr (h.entries a)]
  files other hown := h.others a other fun hother => hnot (hother ▸ hown)

/-! ## Territories that are marked off -/

/-- The paths of the territory lead into it, its files are there, and none of
them goes by the name `config`. -/
structure Stands (t : Territory) (files : Files) : Prop where
  leads : ∀ path id, t.path path → files.fileAt path = .ok id → t.owns id
  made : ∀ id, t.owns id → id < files.contents.size
  unnamed : ∀ place id, t.owns id → files.find? place = some (.file id) →
    place.getLast? ≠ some "config"

/-- Whether it is marked off can be seen from inside. -/
theorem Stands.of_inside (h : t.Stands a) (hab : t.inside a b) : t.Stands b where
  leads path id hpath hfile := h.leads path id hpath ((hab.leads path hpath).trans hfile)
  made id hown := (hab.files id hown).made.mp (h.made id hown)
  unnamed place id hown hfind := h.unnamed place id hown ((hab.names place id hown).mpr hfind)

/-- And from outside. -/
theorem Stands.of_outside (h : t.Stands a) (hab : t.outside a b) : t.Stands b where
  leads path id hpath hfile :=
    h.leads path id hpath ((Files.fileAt_congr hab.entries path).trans hfile)
  made id hown := hab.size ▸ h.made id hown
  unnamed place id hown hfind :=
    h.unnamed place id hown ((Files.find?_congr hab.entries place).trans hfind)

/-- No `config` file belongs to it. -/
theorem Stands.not_owns_config (h : t.Stands a) {directory : String}
    (hfile : a.fileAt (Files.join directory "config") = .ok id) : ¬ t.owns id := by
  intro hown
  obtain ⟨place, -, hfind⟩ := Files.find?_of_fileAt Files.isName_config hfile
  exact h.unnamed _ id hown hfind (by simp)

end Territory

end PciBus

import PciBus.Bytes
import PciBus.Fault

/-!
# The file tree

A tree of directories and files. Names lead to file numbers, and a file
number leads to the bytes, so that what is open or mapped outlives the
removal of its name. Writing changes bytes and never names. A mapping of a
file that has been cut short since still takes what is written past the end.
-/

namespace PciBus

open Text

/-- A place in the tree: the names that lead to it from the top. -/
abbrev Path := List String

/-- What a name stands for. -/
inductive Entry where
  | directory
  | file (id : Nat)
  deriving DecidableEq, Repr

/-- The names, in the order in which a directory lists them, and the bytes
of each file. -/
structure Files where
  entries : List (Path × Entry) := []
  contents : Array Bytes := #[]
  /-- What mappings have written past the end of a file: its number, the
  place and the byte, the last one first. -/
  beyond : List ((Nat × Nat) × UInt8) := []
  deriving DecidableEq

namespace Files

/-! ## Names -/

/-- `name` in the directory `root`, as one text. -/
def join (root name : String) : String :=
  if root = "" ∨ root.toList.getLast? = some '/' then root ++ name else root ++ "/" ++ name

/-- The steps of a path text. An empty step and `.` lead nowhere. -/
def steps (path : String) : List String :=
  (pieces '/' path.toList).map String.ofList

/-- What stands at a place. The top is a directory. -/
def find? (files : Files) (place : Path) : Option Entry :=
  if place = [] then some .directory
  else (files.entries.find? (·.1 == place)).map (·.2)

/-- The most bytes that one name can have. -/
def nameLimit : Nat := 255

/-- The most bytes that a path text can have. -/
def pathLimit : Nat := 4095

/-- Takes the steps from a place where `entry` stands. -/
def follow (files : Files) : Path → Entry → List String → Except FileFault (Path × Entry)
  | place, entry, [] => .ok (place, entry)
  | _, .file _, _ :: _ => .error .notDirectory
  | place, .directory, step :: rest =>
      if step = "" ∨ step = "." then files.follow place .directory rest
      else if step = ".." then files.follow place.dropLast .directory rest
      else if nameLimit < step.utf8ByteSize then .error .longName
      else
        match files.find? (place ++ [step]) with
        | none => .error .absent
        | some entry => files.follow (place ++ [step]) entry rest

/-- The place that a path text leads to, from the top of the tree. -/
def resolve (files : Files) (path : String) : Except FileFault (Path × Entry) :=
  if path.toList.contains '\x00' then .error .zeroInName
  else if pathLimit < path.utf8ByteSize then .error .longName
  else if path = "" then .error .absent
  else files.follow [] .directory (steps path)

/-- The names in a directory. -/
def list (files : Files) (path : String) : Except FileFault (List String) := do
  let (place, entry) ← files.resolve path
  match entry with
  | .file _ => .error .notDirectory
  | .directory =>
      return files.entries.filterMap fun (other, _) =>
        if other ≠ [] ∧ other.dropLast = place then other.getLast? else none

/-- The number of the file that a path leads to. -/
def fileAt (files : Files) (path : String) : Except FileFault Nat := do
  let (_, entry) ← files.resolve path
  match entry with
  | .directory => .error .isDirectory
  | .file id => return id

/-! ## Bytes -/

/-- The bytes of a file. -/
def bytes (files : Files) (id : Nat) : Bytes := files.contents.getD id #[]

/-- Lays bytes over a file, which keeps its length. -/
def overwrite (files : Files) (id offset : Nat) (values : List UInt8) : Files :=
  { files with contents := files.contents.modify id (·.overwrite offset values) }

/-- Writes bytes into a file, which grows as far as they reach. -/
def write (files : Files) (id offset : Nat) (values : List UInt8) : Files :=
  { files with
    contents := files.contents.modify id fun bytes =>
      (bytes.extend (offset + values.length)).overwrite offset values }

/-- The byte that mappings show at a place. Past the end of the file it is
what they have left there, and zero before that. -/
def shownByte (files : Files) (id i : Nat) : UInt8 :=
  if i < (files.bytes id).size then (files.bytes id).byteAt i
  else (files.beyond.lookup (id, i)).getD 0

/-- The bytes that mappings show from `offset` on. -/
def shown (files : Files) (id offset count : Nat) : Bytes :=
  Array.ofFn fun i : Fin count => files.shownByte id (offset + i)

/-- Lays bytes over what mappings show. Past its end they do not get into the
file. -/
def overlay (files : Files) (id offset : Nat) (values : List UInt8) : Files :=
  let past := (values.zipIdx offset).filter fun (_, i) => (files.bytes id).size ≤ i
  { files.overwrite id offset values with
    beyond := past.map (fun (value, i) => ((id, i), value)) ++ files.beyond }

/-- Everything a file holds. -/
def readBytes (files : Files) (path : String) : Except FileFault Bytes := do
  return files.bytes (← files.fileAt path)

/-- Everything a file holds, as text. -/
def readText (files : Files) (path : String) : Except FileFault String := do
  match String.fromUTF8? ⟨← files.readBytes path⟩ with
  | some text => return text
  | none => .error .notText

/-! ## Building a tree -/

/-- The place that a path text names, whether or not anything is there. -/
def placeOf (path : String) : Path :=
  (steps path).foldl
    (fun place step =>
      if step = "" ∨ step = "." then place
      else if step = ".." then place.dropLast
      else place ++ [step])
    []

/-- Adds a directory at a place where nothing is. -/
def addDirectory (files : Files) (place : Path) : Files :=
  match files.find? place with
  | some _ => files
  | none => { files with entries := files.entries ++ [(place, .directory)] }

/-- Makes a directory and those above it. -/
def makeDirectory (files : Files) (place : Path) : Files :=
  (List.range place.length).foldl
    (fun files n => files.addDirectory (place.take (n + 1))) files

/-- Gives a file new bytes, and makes it if it is not there. A file keeps its
number; what was past its end is lost. -/
def put (files : Files) (path : String) (bytes : Bytes) : Files :=
  let place := placeOf path
  match files.find? place with
  | some .directory => files
  | some (.file id) =>
      -- The file is emptied first, so mappings show zeros past the new end.
      { files with
        contents := files.contents.modify id fun _ => bytes
        beyond := files.beyond.filter (·.1.1 != id) }
  | none =>
      let files := files.makeDirectory place.dropLast
      { files with
        entries := files.entries ++ [(place, .file files.contents.size)]
        contents := files.contents.push bytes }

/-- Removes a file, or a directory with everything in it. -/
def remove (files : Files) (path : String) : Files :=
  let place := placeOf path
  { files with entries := files.entries.filter fun (other, _) => !place.isPrefixOf other }

/-! ## What writing leaves alone -/

theorem find?_congr {a b : Files} (h : a.entries = b.entries) (place : Path) :
    a.find? place = b.find? place := by
  simp only [find?, h]

/-- Where a path leads depends on the names alone. -/
theorem follow_congr {a b : Files} (h : a.entries = b.entries) (place : Path) (entry : Entry)
    (path : List String) : a.follow place entry path = b.follow place entry path := by
  induction path generalizing place entry with
  | nil => cases entry <;> rfl
  | cons step rest ih =>
      cases entry with
      | file id => rfl
      | directory =>
          simp only [follow, find?_congr h, ih]

theorem resolve_congr {a b : Files} (h : a.entries = b.entries) (path : String) :
    a.resolve path = b.resolve path := by
  simp only [resolve, follow_congr h]

/-- Laying bytes over a file moves no name. -/
@[simp] theorem resolve_overwrite (files : Files) (id offset : Nat) (values : List UInt8)
    (path : String) : (files.overwrite id offset values).resolve path = files.resolve path := by
  have h : (files.overwrite id offset values).entries = files.entries := rfl
  exact resolve_congr h path

/-- Writing into a file moves no name. -/
@[simp] theorem resolve_write (files : Files) (id offset : Nat) (values : List UInt8)
    (path : String) : (files.write id offset values).resolve path = files.resolve path := by
  have h : (files.write id offset values).entries = files.entries := rfl
  exact resolve_congr h path

theorem bytes_modify (files : Files) (id other : Nat) (f : Bytes → Bytes) :
    { files with contents := files.contents.modify id f }.bytes other =
      if id = other ∧ id < files.contents.size then f (files.bytes other)
      else files.bytes other := by
  simp only [bytes, Array.getD_eq_getD_getElem?, Array.getElem?_modify]
  by_cases h : id = other
  · subst h
    by_cases hi : id < files.contents.size
    · simp [hi]
    · simp [hi]
  · simp [h]

/-- Laying bytes over a file changes that file and no other. -/
theorem bytes_overwrite (files : Files) (id offset other : Nat) (values : List UInt8) :
    (files.overwrite id offset values).bytes other =
      if id = other then (files.bytes other).overwrite offset values else files.bytes other := by
  rw [overwrite, bytes_modify]
  by_cases h : id = other
  · subst h
    by_cases hi : id < files.contents.size
    · simp [hi]
    · simp [hi, bytes, Bytes.overwrite]
  · simp [h]

/-- Within a file, writing is laying bytes over it. -/
theorem write_eq_overwrite {files : Files} {id offset : Nat} {values : List UInt8}
    (h : offset + values.length ≤ (files.bytes id).size) :
    files.write id offset values = files.overwrite id offset values := by
  have hcontents : (files.contents.modify id fun bytes =>
      (bytes.extend (offset + values.length)).overwrite offset values) =
      files.contents.modify id (·.overwrite offset values) := by
    apply Array.ext (by simp)
    intro i hi hi'
    rw [Array.size_modify] at hi
    rw [Array.getElem_modify, Array.getElem_modify]
    split
    · rename_i hid
      subst hid
      have hbytes : files.bytes id = files.contents[id] := by simp [bytes, Array.getD, hi]
      rw [Bytes.extend_of_le (hbytes ▸ h)]
    · rfl
  rw [write, hcontents, overwrite]

/-! ## What mappings show -/

theorem shown_eq_number {files : Files} {id offset count : Nat}
    (h : offset + count ≤ (files.bytes id).size) :
    (files.shown id offset count).number 0 count = (files.bytes id).number offset count := by
  refine Bytes.number_congr_shift fun i hi => ?_
  have hin : offset + i < (files.bytes id).size := by omega
  rw [Nat.zero_add, Bytes.byteAt, shown]
  simp [Array.getD, hi, shownByte, hin]

/-- Within a file, laying bytes over what is shown is laying them over the
file. -/
theorem overlay_eq_overwrite {files : Files} {id offset : Nat} {values : List UInt8}
    (h : offset + values.length ≤ (files.bytes id).size) :
    files.overlay id offset values = files.overwrite id offset values := by
  have hnone : ((values.zipIdx offset).filter fun (_, i) => (files.bytes id).size ≤ i) = [] := by
    rw [List.filter_eq_nil_iff]
    intro a ha
    have := (List.mem_zipIdx (x := a.1) (i := a.2) ha).2.1
    simp
    omega
  simp only [overlay, hnone, List.map_nil, List.nil_append]
  rfl

/-- Of what is laid over the shown bytes, a file gets what lies in it. -/
theorem bytes_overlay (files : Files) (id offset other : Nat) (values : List UInt8) :
    (files.overlay id offset values).bytes other =
      if id = other then (files.bytes other).overwrite offset values else files.bytes other :=
  bytes_overwrite files id offset other values

end Files

end PciBus

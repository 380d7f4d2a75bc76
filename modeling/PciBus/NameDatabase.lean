import PciBus.Logged
import PciBus.Files

/-!
# Vendor and device names

A name database is a text of headers, one per vendor, each followed by its
devices on lines that start with one tab. It is read into sections, the last
one first: looking up a vendor finds its last header, and looking up a
device finds its last line under that header. Lines with two tabs, blank
lines and lines that start with `#` are passed over, and everything from the
first line that starts with `C ` on is left alone.
-/

namespace PciBus

open Text

/-- A vendor's header and the devices under it, the last one first. -/
structure Vendor where
  id : UInt16
  name : String
  devices : List (UInt16 × String) := []
  deriving DecidableEq, Repr

/-- The sections of a database, the last one first. -/
structure NameDatabase where
  vendors : List Vendor := []
  deriving DecidableEq, Repr

namespace NameDatabase

/-! ## Lines -/

/-- A number of four hexadecimal digits and a name, with a blank between. -/
def readEntry (line : List Char) : Option (UInt16 × String) := do
  let (id, name) ← cutBlank line
  guard (id.length = 4)
  let id ← readHex? 0x10000 id
  return (.ofNat id, String.ofList (trim name))

/-- What a line is. A header or a device line may be malformed. -/
inductive Line where
  | header (entry : Option (UInt16 × String))
  | device (entry : Option (UInt16 × String))
  | passed
  deriving DecidableEq, Repr

def readLine : List Char → Line
  | [] => .passed
  | '#' :: _ => .passed
  | '\t' :: '\t' :: _ => .passed
  | '\t' :: rest => .device (readEntry rest)
  | line => .header (readEntry line)

/-- Whether a line starts the part that lists device classes. -/
def startsClasses (line : List Char) : Bool := ['C', ' '].isPrefixOf line

/-! ## Reading a database -/

/-- The sections read so far, and whether the last header was well formed,
so that device lines belong to it. -/
structure Reading where
  vendors : List Vendor := []
  isOpen : Bool := false

/-- Adds a device to the section that was opened last. -/
def addDevice (id : UInt16) (name : String) : List Vendor → List Vendor
  | [] => []
  | vendor :: rest => { vendor with devices := (id, name) :: vendor.devices } :: rest

def Reading.step (r : Reading) : Line → Reading
  | .passed => r
  | .header (some (id, name)) => ⟨⟨id, name, []⟩ :: r.vendors, true⟩
  | .header none => { r with isOpen := false }
  | .device (some (id, name)) =>
      if r.isOpen then { r with vendors := addDevice id name r.vendors } else r
  | .device none => r

def read (text : String) : NameDatabase :=
  let vendorLines := (lines text.toList).takeWhile (!startsClasses ·)
  ⟨((vendorLines.map readLine).foldl Reading.step {}).vendors⟩

/-- Reads the database in a file. -/
def load (files : Files) (path : String) : Logged NameDatabase :=
  match files.readText path with
  | .error e => .fail (.file .reading path e)
  | .ok text => do
      let names := read text
      let count := (names.vendors.map (·.id)).eraseDups.length
      Logged.note .debug "loaded pci.ids" [("path", path), ("vendors", s!"{count}")]
      return names

/-! ## The database of the system -/

/-- Where distributions install a database, in the order in which they are
looked at. -/
def searchPaths : List String :=
  ["/usr/share/hwdata/pci.ids", "/usr/share/misc/pci.ids", "/usr/share/pci.ids",
    "/usr/share/pciids/pci.ids"]

/-- The first of these paths that leads to a file. -/
def installedPath? (files : Files) : Option String :=
  searchPaths.find? fun path => (files.fileAt path).toBool

/-- Reads the database that is installed. One that cannot be read is passed
over with a warning, and no other is looked for then. -/
def loadInstalled (files : Files) : Logged (Option NameDatabase) :=
  match installedPath? files with
  | none => return none
  | some path => do
      match ← (load files path).attempt with
      | .ok names => return some names
      | .error e => do
          Logged.note .warn "ignoring unreadable pci.ids" [("error", e.message)]
          return none

/-- The database that is installed, without the log. -/
def installed? (files : Files) : Option NameDatabase :=
  (installedPath? files).bind fun path => (load files path).result.toOption

@[simp] theorem loadInstalled_result (files : Files) :
    (loadInstalled files).result = .ok (installed? files) := by
  unfold loadInstalled installed?
  cases installedPath? files with
  | none => rfl
  | some path => cases h : (load files path).result <;> simp [h, Except.bind, Except.toOption]

/-! ## Looking up -/

/-- The vendor's name and the device's, or the device's number if only the
vendor is known. -/
def find? (names : NameDatabase) (vendor device : UInt16) : Option String := do
  let found ← names.vendors.find? (·.id == vendor)
  match found.devices.find? (·.1 == device) with
  | some (_, name) => return found.name ++ " " ++ name
  | none => return found.name ++ " Device " ++ hex 4 device.toNat

end NameDatabase

end PciBus

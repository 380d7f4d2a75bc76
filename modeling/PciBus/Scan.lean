import PciBus.NameDatabase
import PciBus.Record

/-!
# Scanned trees

A directory with one entry per function, each entry a directory with the
files `config`, `resource`, `enable` and `resource0` to `resource5`. A scan
takes the records once, in bus order; config space is read from and written
to the `config` files afterwards.
-/

namespace PciBus

open Text

/-! ## Resource tables -/

/-- A hexadecimal number with or without `0x`. -/
def readAddress? (cs : List Char) : Option Nat :=
  readHex? UInt64.size <|
    match cs with
    | '0' :: 'x' :: digits => digits
    | digits => digits

/-- The size of the region that a line of a resource table describes by its
first and its last address; zero if the line is malformed or the region is
empty. The region of all addresses has one more than 64 bits can count: its
size wraps around to zero, as it does where overflow is not checked. Where it
is, reading such a table stops the program, which is not modelled. -/
def regionSize (line : List Char) : UInt64 :=
  match words line with
  | first :: last :: _ =>
      match readAddress? first, readAddress? last with
      | some first, some last => if first < last then .ofNat (last - first + 1) else 0
      | _, _ => 0
  | _ => 0

/-- The region sizes of a table, line by line. -/
def regionSizes (table : String) : List UInt64 :=
  (lines table.toList).map regionSize

/-! ## Scans -/

/-- What a scan found under its root, and the names it can look up. -/
structure Scan where
  root : String
  records : List Record := []
  names : Option NameDatabase := none
  deriving DecidableEq

namespace Scan

/-- The bytes that a standard header takes. -/
def headerSize : Nat := 64

/-- The register of the expansion ROM for a header type. -/
def romRegister (header : UInt8) : UInt16 :=
  if Header.ofRegister header = .bridge then Register.bridgeRom else Register.rom

theorem romRegister_eq (header : UInt8) :
    romRegister header = if header.toNat % 128 = 1 then 0x38 else 0x30 := by
  simp only [romRegister, Header.ofRegister_eq_bridge_iff]
  rfl

/-- The region sizes in a function's directory, none if there is no table. -/
def readSizes (files : Files) (directory : String) (location : Location) :
    Logged (List UInt64) :=
  match files.readText (Files.join directory "resource") with
  | .ok table => return regionSizes table
  | .error e => do
      Logged.note .debug "no resource table, BAR sizes unknown"
        [("device", location.short), ("error", e.message)]
      return []

/-- The record of the function in a directory; none if the function does not
answer, which shows as a vendor number of all ones. -/
def readFunction (files : Files) (directory : String) (location : Location) :
    Logged (Option Record) :=
  let path := Files.join directory "config"
  match files.readBytes path with
  | .error e => .fail (.file .reading path e)
  | .ok config =>
      if config.size < headerSize then
        .fail (.config location 0 (.truncated config.size))
      else if config.number Register.vendor.toNat 2 = 0xffff then return none
      else do
        let sizes ← readSizes files directory location
        let rom := romRegister (config.byteAt Register.headerType.toNat)
        return some (.ofConfig location config rom (.ofFn fun i => sizes.getD i 0)
          (sizes.getD barCount 0))

/-- The records of the named functions. One that cannot be read is passed
over with a warning. -/
def readFunctions (files : Files) (root : String) :
    List (String × Location) → Logged (List Record)
  | [] => return []
  | (name, location) :: rest => do
      let found ← (readFunction files (Files.join root name) location).attempt
      let here ←
        match found with
        | .ok record => pure record.toList
        | .error e => do
            Logged.note .warn "skipping unreadable PCI device"
              [("device", location.short), ("error", e.message)]
            pure []
      let others ← readFunctions files root rest
      return here ++ others

/-- The entries of a listing that are named like a function. -/
def functionsIn (listing : List String) : List (String × Location) :=
  listing.filterMap fun name => (Location.ofName? name).map (name, ·)

/-- Records in bus order; those at one location keep their order. -/
def inBusOrder (records : List Record) : List Record :=
  records.mergeSort fun a b => a.location.rank ≤ b.location.rank

/-- The scan of a root whose entries are listed in the given order. Names are
looked up in the database of the system, if one is installed. -/
def ofListing (files : Files) (root : String) (listing : List String) : Logged Scan := do
  let records ← readFunctions files root (functionsIn listing)
  Logged.note .debug "scanned PCI devices" [("root", root), ("count", s!"{records.length}")]
  let names ← NameDatabase.loadInstalled files
  return { root := root, records := inBusOrder records, names := names }

/-- Scans the tree under a root. -/
def take (files : Files) (root : String) : Logged Scan :=
  match files.list root with
  | .error e => .fail (.file .reading root e)
  | .ok listing => ofListing files root listing

/-- The scan with the name database in a file, in place of the one it has. -/
def withNames (scan : Scan) (files : Files) (path : String) : Logged Scan := do
  let names ← NameDatabase.load files path
  return { scan with names := some names }

/-! ## Config space -/

/-- The config file of a function. -/
def configPath (scan : Scan) (location : Location) : String :=
  Files.join (Files.join scan.root location.name) "config"

/-- Reads config space from the file, all of it or not at all. -/
def read (scan : Scan) (files : Files) (location : Location) (offset : UInt16)
    (width : Width) : Except Fault UInt32 :=
  let path := scan.configPath location
  match files.fileAt path with
  | .error .isDirectory => .error (.file .reading path .isDirectory)
  | .error e => .error (.file .opening path e)
  | .ok id =>
      let bytes := files.bytes id
      if offset.toNat + width.bytes ≤ bytes.size then
        .ok (.ofNat (bytes.number offset.toNat width.bytes))
      else
        .error (.config location offset (.shortRead (bytes.size - offset.toNat) width.bytes))

/-- Writes the low bytes of `value` into the file. -/
def write (scan : Scan) (files : Files) (location : Location) (offset : UInt16)
    (width : Width) (value : UInt32) : Except Fault Files :=
  let path := scan.configPath location
  match files.fileAt path with
  | .error e => .error (.file .opening path e)
  | .ok id => .ok (files.write id offset.toNat (Bytes.ofNumber width.bytes value.toNat))

end Scan

end PciBus

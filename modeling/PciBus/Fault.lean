import PciBus.Location.Filter

/-!
# Faults

Every way an operation can fail, as causes. The wording of each stands in
`message`; a fault of the file system also has the number the system gives
it, and is itself caused by what the system said.
-/

namespace PciBus

open Text

/-! ## The file system -/

/-- What the file system says when it refuses. -/
inductive FileFault where
  /-- A name on the path does not exist. -/
  | absent
  /-- A name on the path is a file where a directory is needed. -/
  | notDirectory
  /-- The path is a directory where a file is needed. -/
  | isDirectory
  /-- An argument, such as a length, is out of the question. -/
  | invalid
  /-- A name, or the whole path, has too many bytes. -/
  | longName
  /-- The path holds a zero byte, which no name can. -/
  | zeroInName
  /-- The file ended too early. -/
  | endOfFile
  /-- The file's bytes are not valid UTF-8. -/
  | notText
  deriving DecidableEq, Repr

namespace FileFault

/-- The system's number for the fault; the last three are found before or
after the system is asked and have none. -/
def code : FileFault → Option Nat
  | .absent => some 2
  | .notDirectory => some 20
  | .isDirectory => some 21
  | .invalid => some 22
  | .longName => some 36
  | .zeroInName => none
  | .endOfFile => none
  | .notText => none

def message : FileFault → String
  | .absent => "No such file or directory (os error 2)"
  | .notDirectory => "Not a directory (os error 20)"
  | .isDirectory => "Is a directory (os error 21)"
  | .invalid => "Invalid argument (os error 22)"
  | .longName => "File name too long (os error 36)"
  | .zeroInName => "file name contained an unexpected NUL byte"
  | .endOfFile => "unexpected end of file"
  | .notText => "stream did not contain valid UTF-8"

end FileFault

/-- What was being done to a file. -/
inductive FileStep where
  | opening
  | reading
  | writing
  | mapping
  deriving DecidableEq, Repr

def FileStep.verb : FileStep → String
  | .opening => "open"
  | .reading => "read"
  | .writing => "write"
  | .mapping => "map"

/-! ## Config space and parameters -/

/-- Why a config-space access was refused. -/
inductive ConfigFault where
  /-- The access ends past the last byte. -/
  | pastEnd (width : Nat)
  /-- The file holds fewer bytes than were asked for. -/
  | shortRead (got wanted : Nat)
  /-- The file is too short to hold a header. -/
  | truncated (size : Nat)
  /-- Writes to the function are locked. -/
  | locked
  deriving DecidableEq, Repr

def ConfigFault.message : ConfigFault → String
  | .pastEnd width => s!"{width}-byte access past end of config space"
  | .shortRead got wanted => s!"short read ({got} of {wanted} bytes)"
  | .truncated size => s!"config space truncated to {size} bytes"
  | .locked => "config space is locked"

/-- What is wrong with a parameter text. -/
inductive ParameterFault where
  /-- The parameter has no equals sign. -/
  | noValueSign (parameter : String)
  /-- Nothing stands after the equals sign. -/
  | noValue (key : String)
  /-- The location filter is given a second time. -/
  | repeatedFilter
  deriving DecidableEq, Repr

def ParameterFault.message : ParameterFault → String
  | .noValueSign parameter => s!"missing '=' in '{parameter}'"
  | .noValue key => s!"missing value for '{key}'"
  | .repeatedFilter => "parameter 'pci' specified more than once"

/-! ## All faults -/

/-- Why an operation failed. -/
inductive Fault where
  /-- The session already holds a context. -/
  | contextInstalled
  /-- The session holds no context. -/
  | noContext
  /-- There are only BARs 0 to 5. -/
  | badBar (index : UInt64)
  /-- The enable file starts with something other than `0` or `1`. -/
  | badFlag (path : String) (flag : Char)
  | badFilter (reason : Filter.BadField)
  | badParameter (reason : ParameterFault)
  /-- No device is supported. -/
  | noDevice
  /-- More than one device is supported. -/
  | manyDevices (count : Nat)
  /-- A 64-bit BAR lies where a pointer of this machine cannot point. -/
  | unreachable (location : Location) (offset : UInt16) (upper lower : UInt32) (bits : Nat)
  /-- A mapping of another size is live. -/
  | alreadyMapped (mapped declared : UInt64)
  /-- No BAR is mapped. -/
  | notMapped
  /-- The access ends past the mapping. -/
  | outOfRange (address : UInt64) (length : Nat) (size : UInt64)
  /-- The address is no multiple of the access width. -/
  | misaligned (address : UInt64) (alignment : Nat)
  /-- The function is no longer there. -/
  | gone (location : Location)
  | config (location : Location) (offset : UInt16) (reason : ConfigFault)
  | file (step : FileStep) (path : String) (cause : FileFault)
  deriving DecidableEq, Repr

namespace Fault

def message : Fault → String
  | .contextInstalled =>
      "tried to allocate a new PCI context, but there is still an old one; please report a bug"
  | .noContext => "no PCI context is initialized"
  | .badBar index => s!"invalid BAR {index.toNat} (expected 0-5)"
  | .badFlag path flag => s!"invalid value read from {path}: {quoteChar flag}"
  | .badFilter reason => s!"invalid PCI filter: {reason.message}"
  | .badParameter reason => s!"invalid programmer parameter: {reason.message}"
  | .noDevice => "no supported PCI device found"
  | .manyDevices count =>
      s!"multiple supported PCI devices found ({count}); use 'pci=bb:dd.f' to explicitly select " ++
        "the card with the given BDF (PCI bus, device, function)"
  | .unreachable location offset upper lower bits =>
      s!"BAR at 0x{hex 2 offset.toNat} of {location.short} is unreachable: 64-bit address " ++
        s!"0x{hex 8 upper.toNat}_{hex 8 lower.toNat} does not fit a {bits}-bit pointer"
  | .alreadyMapped mapped declared =>
      s!"BAR already mapped: 0x{hex 1 mapped.toNat} bytes, " ++
        s!"device now declares 0x{hex 1 declared.toNat} bytes"
  | .notMapped => "no BAR is mapped"
  | .outOfRange address length size =>
      s!"MMIO access out of range: addr=0x{hex 1 address.toNat} len={length} " ++
        s!"size=0x{hex 1 size.toNat}"
  | .misaligned address alignment =>
      s!"misaligned MMIO access: addr=0x{hex 1 address.toNat} " ++
        s!"(expected multiple of {alignment})"
  | .gone location => s!"PCI device {location.short} is no longer present"
  | .config location offset reason =>
      s!"config space access to {location.short} at 0x{hex 2 offset.toNat} failed: " ++
        reason.message
  | .file step path cause => s!"failed to {step.verb} {path}: {cause.message}"

/-- The system's number for a fault of the file system. -/
def code : Fault → Option Nat
  | .file _ _ cause => cause.code
  | _ => none

/-- What caused the fault, as the messages below its own. -/
def causes : Fault → List String
  | .file _ _ cause => [cause.message]
  | _ => []

end Fault

end PciBus

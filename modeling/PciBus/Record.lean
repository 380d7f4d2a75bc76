import PciBus.Location
import PciBus.Value

/-!
# Device records

A record is what enumeration notes of a function: its identity, its BARs and
their declared sizes. It is taken once; config space may change under it.
-/

namespace PciBus

/-! ## Registers -/

namespace Register

def vendor : UInt16 := 0x00

def device : UInt16 := 0x02

def command : UInt16 := 0x04

/-- The class code, above one byte of revision. -/
def classRevision : UInt16 := 0x08

def headerType : UInt16 := 0x0e

/-- BAR 0; the others follow at steps of four bytes. -/
def bar0 : UInt16 := 0x10

/-- The expansion ROM of an ordinary function. -/
def rom : UInt16 := 0x30

/-- The expansion ROM of a bridge. -/
def bridgeRom : UInt16 := 0x38

end Register

/-- The number of BARs of an ordinary function. -/
def barCount : Nat := 6

/-- The header types whose layout is known. The top bit of the register
marks a function with siblings and says nothing about the layout. -/
inductive Header where
  | ordinary
  | bridge
  | cardBus
  | other (type : UInt8)
  deriving DecidableEq, Repr

namespace Header

/-- The header type without the mark for siblings. -/
def plain (register : UInt8) : UInt8 := register &&& 0x7f

def ofRegister (register : UInt8) : Header :=
  match plain register with
  | 0 => .ordinary
  | 1 => .bridge
  | 2 => .cardBus
  | type => .other type

theorem toNat_plain (register : UInt8) : (plain register).toNat = register.toNat % 128 := by
  rw [plain, UInt8.toNat_and]
  exact Nat.and_two_pow_sub_one_eq_mod register.toNat 7

theorem ofRegister_eq_ordinary_iff {register : UInt8} :
    ofRegister register = .ordinary ↔ register.toNat % 128 = 0 := by
  rw [← toNat_plain, ofRegister]
  split <;> simp_all [← UInt8.toNat_inj]

theorem ofRegister_eq_bridge_iff {register : UInt8} :
    ofRegister register = .bridge ↔ register.toNat % 128 = 1 := by
  rw [← toNat_plain, ofRegister]
  split <;> simp_all [← UInt8.toNat_inj]

end Header

/-! ## Command bits -/

/-- I/O space is decoded. -/
def decodesIo (command : UInt16) : Bool := command &&& 1 != 0

/-- Memory space is decoded. -/
def decodesMemory (command : UInt16) : Bool := command &&& 2 != 0

/-- The bits of the command register that are known here: I/O space, memory
space and bus mastering. -/
def commandFlags (command : UInt16) : UInt16 := command &&& 7

/-! ## Records -/

/-- A function as it was enumerated. -/
structure Record where
  location : Location
  vendor : UInt16
  device : UInt16
  /-- Class, subclass and programming interface, one byte each. -/
  classCode : UInt32
  header : UInt8
  command : UInt16
  /-- The raw BAR registers; the upper half of a 64-bit BAR has its own. -/
  bases : Vector UInt64 6
  /-- The declared BAR sizes, zero where there is none. -/
  sizes : Vector UInt64 6
  romBase : UInt64
  romSize : UInt64
  deriving DecidableEq, Repr

namespace Record

/-- The record of a function with the config bytes `config`, whose ROM
register is at `rom`. -/
def ofConfig (location : Location) (config : Bytes) (rom : UInt16)
    (sizes : Vector UInt64 6) (romSize : UInt64) : Record where
  location := location
  vendor := .ofNat (config.number Register.vendor.toNat 2)
  device := .ofNat (config.number Register.device.toNat 2)
  classCode := .ofNat (config.number Register.classRevision.toNat 4 / 256)
  header := config.byteAt Register.headerType.toNat
  command := .ofNat (config.number Register.command.toNat 2)
  bases := .ofFn fun i => .ofNat (config.number (Register.bar0.toNat + 4 * i) 4)
  sizes := sizes
  romBase := .ofNat (config.number rom.toNat 4)
  romSize := romSize

/-- Vendor and device number, as messages show them. -/
def idText (r : Record) : String :=
  s!"{Text.hex 4 r.vendor.toNat}:{Text.hex 4 r.device.toNat}"

end Record

end PciBus

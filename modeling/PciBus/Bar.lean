import PciBus.Logged
import PciBus.Record

/-!
# Base address registers

A BAR is decoded from live config space: the header type and the offset say
whether there is a BAR and of what kind, its low bits say the rest, and a
64-bit BAR takes the dword after it as its upper half. Disabled decoding is
logged and changes nothing.
-/

namespace PciBus

open Text

/-- What a BAR gives access to. -/
inductive BarKind where
  | memory
  | io
  | rom
  | unknown
  deriving DecidableEq, Repr

/-- How wide a BAR's address is. -/
inductive BarWidth where
  | bits32
  | bits64
  deriving DecidableEq, Repr

/-- A decoded BAR; `address` has none of the flag bits. -/
structure Bar where
  kind : BarKind
  width : BarWidth
  prefetchable : Bool
  address : UInt64
  deriving DecidableEq, Repr

/-- Reads config space of one function. -/
abbrev ConfigReader := UInt16 → Width → Except Fault UInt32

namespace Bar

/-- What is found where there is no BAR. -/
def unknown : Bar := ⟨.unknown, .bits32, false, 0⟩

/-- The config offset of BAR 0 to 5. -/
def offset (index : UInt64) : Except Fault UInt16 :=
  if index.toNat < barCount then .ok (Register.bar0 + 4 * index.toUInt16)
  else .error (.badBar index)

/-! ## Decoding -/

/-- Whether a BAR's low bit says I/O or memory. -/
def spaceOf (raw : UInt32) : BarKind := if raw &&& 1 != 0 then .io else .memory

/-- What stands at an offset. A header of an ordinary function has six BARs
and a ROM, that of a bridge two BARs and a ROM elsewhere, any other none. -/
def kindAt (header : Header) (offset : UInt16) (raw : UInt32) : BarKind :=
  match header with
  | .ordinary =>
      if 0x10 ≤ offset ∧ offset ≤ 0x24 ∧ offset % 4 = 0 then spaceOf raw
      else if offset = Register.rom then .rom
      else .unknown
  | .bridge =>
      if offset = 0x10 ∨ offset = 0x14 then spaceOf raw
      else if offset = Register.bridgeRom then .rom
      else .unknown
  | .cardBus | .other _ => .unknown

/-- Bits 2:1 of a memory BAR. -/
def memoryType (raw : UInt32) : UInt32 := raw &&& 6

/-- The width that the memory type means; a reserved type is taken as 32
bits. -/
def widthOf (raw : UInt32) : BarWidth := if memoryType raw = 4 then .bits64 else .bits32

/-- How the log writes the width. -/
def widthText (raw : UInt32) : String :=
  if memoryType raw = 4 then "64" else if memoryType raw = 0 then "32" else "reserved"

/-- The address in the two halves of a memory BAR. -/
def memoryAddress (upper raw : UInt32) : UInt64 :=
  (upper.toUInt64 <<< 32 ||| raw.toUInt64) &&& ~~~0xf

/-- A warning that the function does not decode the space it is asked for. -/
def warnUnless (decoded : Bool) (location : Location) (message : String) : Logged Unit :=
  if decoded then return () else Logged.note .warn message [("bdf", location.short)]

/-- Decodes a memory BAR. The upper half is read only where there is one; it
has to be zero if pointers have fewer than 64 bits. -/
def decodeMemory (read : ConfigReader) (location : Location) (offset : UInt16)
    (bits : Nat) (command : UInt16) (raw : UInt32) : Logged Bar := do
  warnUnless (decodesMemory command) location
    "MEM BAR access requested, but device has MEM space accesses disabled"
  let prefetchable := raw &&& 8 != 0
  if memoryType raw ≠ 0 ∧ memoryType raw ≠ 4 then
    Logged.note .warn
      s!"BAR at 0x{hex 2 offset.toNat} uses reserved memory type 0x{hex 1 (memoryType raw).toNat}"
      [("bdf", location.short)]
  let caching := if prefetchable then "" else "not "
  Logged.note .debug
    s!"requested BAR is of type MEM, {widthText raw}bit, {caching}prefetchable"
    [("bdf", location.short)]
  let upper ←
    match widthOf raw with
    | .bits32 => pure 0
    | .bits64 => Logged.ofExcept (read (offset + 4) .long)
  if upper ≠ 0 ∧ bits < 64 then
    Logged.note .error s!"BAR at 0x{hex 2 offset.toNat} unreachable" [("bdf", location.short)]
    Logged.fail (.unreachable location offset upper raw bits)
  else return ⟨.memory, widthOf raw, prefetchable, memoryAddress upper raw⟩

/-- Decodes an I/O BAR. -/
def decodeIo (location : Location) (command : UInt16) (raw : UInt32) : Logged Bar := do
  Logged.note .debug "requested BAR is of type I/O" [("bdf", location.short)]
  warnUnless (decodesIo command) location
    "I/O BAR access requested, but device has I/O space accesses disabled"
  return ⟨.io, .bits32, false, raw.toUInt64 &&& ~~~3⟩

/-- Decodes the register of an expansion ROM. -/
def decodeRom (location : Location) (command : UInt16) (raw : UInt32) : Logged Bar := do
  Logged.note .debug "requested BAR is of type ROM" [("bdf", location.short)]
  warnUnless (decodesMemory command) location
    "ROM BAR access requested, but device has MEM space accesses disabled"
  return ⟨.rom, .bits32, false, raw.toUInt64 &&& ~~~0x7ff⟩

/-- Decodes the BAR at a config offset, on a machine whose pointers have
`bits` bits. -/
def classify (read : ConfigReader) (location : Location) (offset : UInt16)
    (bits : Nat) : Logged Bar := do
  let register ← Logged.ofExcept (read Register.headerType .byte)
  let register := register.toUInt8
  let type := hex 2 (Header.plain register).toNat
  Logged.note .trace s!"PCI header type 0x{type}" [("bdf", location.short)]
  let raw ← Logged.ofExcept (read offset .long)
  match Header.ofRegister register with
  | .other _ =>
      Logged.note .error
        s!"unknown PCI header type 0x{type}, BAR type cannot be determined reliably"
  | _ => pure ()
  let command ← Logged.ofExcept (read Register.command .word)
  let command := command.toUInt16
  match kindAt (Header.ofRegister register) offset raw with
  | .memory => decodeMemory read location offset bits command raw
  | .io => decodeIo location command raw
  | .rom => decodeRom location command raw
  | .unknown => do
      Logged.note .error "BAR type unknown, please report a bug" [("bdf", location.short)]
      return unknown

/-- The number of bits in a pointer of this machine. -/
def nativeBits : Nat := 64

end Bar

end PciBus

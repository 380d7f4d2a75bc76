import PciBus.Files
import PciBus.Logged

/-!
# Mapped memory

A mapping is a prefix of a file that is read and written in place, one byte
or one aligned dword at a time. An access that does not fit fails before it
touches anything. The file had that many bytes when it was mapped; if it has
fewer now, what lies past its end can still be read and written. Where a
mapping lies in memory is the system's choice; the log writes `PTR` for it.
-/

namespace PciBus

open Text

/-- The first `size` bytes of a file. -/
structure Mapping where
  file : Nat
  size : UInt64
  deriving DecidableEq, Repr

/-- What one access moves. -/
inductive Cell where
  | byte
  | dword
  deriving DecidableEq, Repr

namespace Cell

def bytes : Cell → Nat
  | .byte => 1
  | .dword => 4

def bits : Cell → Nat
  | .byte => 8
  | .dword => 32

/-- The bits of a value that a cell holds. -/
def clip (cell : Cell) (value : UInt32) : UInt32 :=
  match cell with
  | .byte => value &&& 0xff
  | .dword => value

/-- A value as the log writes it, with all its digits. -/
def text (cell : Cell) (value : UInt32) : String :=
  s!"0x{hex (2 * cell.bytes) (cell.clip value).toNat}"

end Cell

namespace Mapping

/-! ## Mapping and releasing -/

/-- Maps the first `size` bytes of a file; there have to be that many, and
at least one. -/
def ofFile (files : Files) (id : Nat) (path : String) (size : UInt64) : Logged Mapping := do
  let length := (files.bytes id).size
  if size = 0 then Logged.fail (.file .mapping path .invalid)
  else if length < size.toNat then
    Logged.note .error
      s!"requested 0x{hex 1 size.toNat} bytes but the resource is only 0x{hex 1 length} bytes"
      [("path", path)]
    Logged.fail (.file .mapping path .invalid)
  else
    Logged.note .debug s!"mapped 0x{hex 1 size.toNat} bytes at PTR" [("path", path)]
    return ⟨id, size⟩

/-- Gives a mapping up. -/
def release (m : Mapping) : Logged Unit :=
  Logged.note .debug s!"unmapping 0x{hex 1 m.size.toNat} bytes at PTR"

/-! ## Access -/

/-- Whether a cell at an address may be touched: it is aligned and ends
within the mapping. -/
def check (m : Mapping) (cell : Cell) (address : UInt64) : Except Fault Unit :=
  if address.toNat % cell.bytes ≠ 0 then .error (.misaligned address cell.bytes)
  else if m.size.toNat < address.toNat + cell.bytes then
    .error (.outOfRange address cell.bytes m.size)
  else .ok ()

/-- What a cell holds. -/
def peek (m : Mapping) (files : Files) (cell : Cell) (address : UInt64) : UInt32 :=
  .ofNat ((files.shown m.file address.toNat cell.bytes).number 0 cell.bytes)

/-- Gives a cell a value. -/
def poke (m : Mapping) (files : Files) (cell : Cell) (address : UInt64) (value : UInt32) :
    Files :=
  files.overlay m.file address.toNat (Bytes.ofNumber cell.bytes value.toNat)

/-- `old` with the bits that `mask` picks taken from `value`. -/
def merge (old value mask : UInt32) : UInt32 := (old &&& ~~~mask) ||| (value &&& mask)

def read (m : Mapping) (files : Files) (cell : Cell) (address : UInt64) : Logged UInt32 := do
  Logged.ofExcept (m.check cell address)
  let value := m.peek files cell address
  Logged.note .trace s!"mmio read{cell.bits} 0x{hex 1 address.toNat} = {cell.text value}"
  return value

def write (m : Mapping) (cell : Cell) (address : UInt64) (value : UInt32) :
    Action Files Unit := do
  Logged.ofExcept (m.check cell address)
  Action.note .trace s!"mmio write{cell.bits} 0x{hex 1 address.toNat} = {cell.text value}"
  Action.modify fun files => m.poke files cell address value

/-- Replaces the bits that `mask` picks by those of `value`. -/
def writeMasked (m : Mapping) (cell : Cell) (address : UInt64) (value mask : UInt32) :
    Action Files Unit := do
  Logged.ofExcept (m.check cell address)
  let old := m.peek (← Action.get) cell address
  let new := merge old value mask
  Action.note .trace
    s!"mmio mask{cell.bits} 0x{hex 1 address.toNat}: {cell.text old} -> {cell.text new}"
  Action.modify fun files => m.poke files cell address new

end Mapping

end PciBus

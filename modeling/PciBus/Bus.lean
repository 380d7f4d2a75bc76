import PciBus.Logged
import PciBus.Record

/-!
# Memory buses

A bus in memory holds functions in bus order, each a config image of 256
bytes with the record that was taken when it was plugged in. It answers
all-ones for an absent function and keeps a journal of its writes.
-/

namespace PciBus

/-! ## Config images -/

/-- The size of a config image. -/
def imageSize : Nat := 256

/-- The config space of a function. -/
structure Image where
  bytes : Bytes
  size_eq : bytes.size = imageSize
  deriving DecidableEq

namespace Image

def blank : Image := ⟨.zeros imageSize, by simp⟩

/-- Writes the low `count` bytes of `n` at `offset`. -/
def put (image : Image) (offset count n : Nat) : Image :=
  ⟨image.bytes.overwrite offset (Bytes.ofNumber count n), by simp [image.size_eq]⟩

/-- The dword at `offset`, if all of it lies in the image. -/
def dword? (image : Image) (offset : UInt16) : Option UInt32 :=
  if offset.toNat + 4 ≤ imageSize then some (.ofNat (image.bytes.number offset.toNat 4))
  else none

end Image

/-! ## Cards -/

/-- A function before it is plugged in. -/
structure Card where
  image : Image
  sizes : Vector UInt64 6
  romSize : UInt64
  /-- The name that looking up its numbers finds. -/
  name : Option String
  deriving DecidableEq

namespace Card

/-- A card with nothing but its two numbers. -/
def new (vendor device : UInt16) : Card where
  image := (Image.blank.put Register.vendor.toNat 2 vendor.toNat).put
    Register.device.toNat 2 device.toNat
  sizes := .replicate 6 0
  romSize := 0
  name := none

def withHeader (card : Card) (header : UInt8) : Card :=
  { card with image := card.image.put Register.headerType.toNat 1 header.toNat }

def withCommand (card : Card) (command : UInt16) : Card :=
  { card with image := card.image.put Register.command.toNat 2 command.toNat }

/-- Sets the three bytes of the class code and leaves the revision. -/
def withClass (card : Card) (base sub interface : UInt8) : Card :=
  { card with
    image := card.image.put (Register.classRevision.toNat + 1) 3
      (interface.toNat + 256 * (sub.toNat + 256 * base.toNat)) }

/-- Sets a dword; refused if it does not lie in the image. -/
def withRegister? (card : Card) (offset : UInt16) (value : UInt32) : Option Card :=
  if offset.toNat + 4 ≤ imageSize then
    some { card with image := card.image.put offset.toNat 4 value.toNat }
  else none

/-- Sets the register of a BAR and declares no size; refused past BAR 5. -/
def withRawBar? (card : Card) (index : Nat) (raw : UInt32) : Option Card :=
  if index < barCount then
    card.withRegister? (Register.bar0 + 4 * .ofNat index) raw
  else none

/-- Sets the register and the declared size of a BAR; refused past BAR 5. -/
def withBar? (card : Card) (index : Nat) (raw : UInt32) (size : UInt64) : Option Card :=
  { card with sizes := card.sizes.setIfInBounds index size }.withRawBar? index raw

/-- Sets the register and the declared size of the expansion ROM. -/
def withRom (card : Card) (raw : UInt32) (size : UInt64) : Card :=
  { card with
    romSize := size
    image := card.image.put Register.rom.toNat 4 raw.toNat }

def withName (card : Card) (name : String) : Card := { card with name := some name }

/-- The record taken when the card is plugged in at `location`. The ROM is
read where an ordinary function has it, whatever the header type. -/
def record (card : Card) (location : Location) : Record :=
  .ofConfig location card.image.bytes Register.rom card.sizes card.romSize

end Card

/-! ## Buses -/

/-- A function on a bus: how it was enumerated and what it holds now. -/
structure Slot where
  record : Record
  card : Card
  deriving DecidableEq

/-- A function is where it was enumerated. -/
def Slot.location (slot : Slot) : Location := slot.record.location

/-- The slot after a write. -/
def Slot.write (slot : Slot) (offset : UInt16) (width : Width) (value : UInt32) : Slot :=
  { slot with
    card.image := slot.card.image.put offset.toNat width.bytes value.toNat }

/-- A write that a bus has carried out. -/
structure ConfigWrite where
  location : Location
  offset : UInt16
  width : Width
  value : UInt32
  deriving DecidableEq, Repr

/-- The functions in bus order and the writes in the order they were made. -/
structure Bus where
  slots : List Slot := []
  journal : List ConfigWrite := []
  deriving DecidableEq

namespace Bus

/-- The function at a location. -/
def find? (bus : Bus) (location : Location) : Option Slot :=
  bus.slots.find? (·.location == location)

/-- Puts a slot at its place in bus order, instead of one at the same
location. -/
def insertSlot (slot : Slot) : List Slot → List Slot
  | [] => [slot]
  | other :: rest =>
      if slot.location.rank < other.location.rank then slot :: other :: rest
      else if slot.location = other.location then slot :: rest
      else other :: insertSlot slot rest

/-- Plugs a card in. A function that was at the location is lost. -/
def plug (bus : Bus) (location : Location) (card : Card) : Bus :=
  { bus with slots := insertSlot ⟨card.record location, card⟩ bus.slots }

/-- Takes a function off the bus. -/
def unplug (bus : Bus) (location : Location) : Bus :=
  { bus with slots := bus.slots.filter (·.location != location) }

/-- The records, in bus order. -/
def records (bus : Bus) : List Record := bus.slots.map (·.record)

/-- Whether an access stays within config space. -/
def inSpace (offset : UInt16) (width : Width) : Bool :=
  offset.toNat + width.bytes ≤ imageSize

/-- Reads config space. An absent function answers with all bits set. -/
def read (bus : Bus) (location : Location) (offset : UInt16) (width : Width) :
    Except Fault UInt32 :=
  if inSpace offset width then
    match bus.find? location with
    | none => .ok width.ones
    | some slot => .ok (.ofNat (slot.card.image.bytes.number offset.toNat width.bytes))
  else .error (.config location offset (.pastEnd width.bytes))

/-- Writes the low bytes of `value` to config space and notes it in the
journal. -/
def write (bus : Bus) (location : Location) (offset : UInt16) (width : Width)
    (value : UInt32) : Except Fault Bus :=
  if inSpace offset width then
    match bus.find? location with
    | none => .error (.gone location)
    | some _ =>
        .ok {
          slots := bus.slots.map fun slot =>
            if slot.location = location then slot.write offset width value else slot
          journal := bus.journal ++ [⟨location, offset, width, value⟩] }
  else .error (.config location offset (.pastEnd width.bytes))

/-- The name of the first function with the two numbers. -/
def name? (bus : Bus) (vendor device : UInt16) : Option String := do
  let slot ← bus.slots.find? fun slot =>
    slot.record.vendor == vendor && slot.record.device == device
  slot.card.name

end Bus

end PciBus

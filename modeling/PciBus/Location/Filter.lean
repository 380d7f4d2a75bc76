import PciBus.Location
import PciBus.Text.Quoted

/-!
# Location filters

A filter names some of the four fields of a location and accepts every
location that agrees on those. It is written `[[domain:]bus:]device[.function]`
in hexadecimal, where an empty field or `*` names nothing.
-/

namespace PciBus

open Text

/-- The fields that have to agree; an absent one accepts every number. -/
structure Filter where
  domain : Option UInt32 := none
  bus : Option UInt8 := none
  device : Option UInt8 := none
  function : Option UInt8 := none
  deriving DecidableEq, Repr, Inhabited

namespace Filter

/-- The filter that accepts every location. -/
def any : Filter := {}

/-- Whether the location agrees with every named field. -/
def accepts (f : Filter) (l : Location) : Bool :=
  f.domain.all (· == l.domain) && f.bus.all (· == l.bus) && f.device.all (· == l.device) &&
    f.function.all (· == l.function)

@[simp] theorem accepts_any (l : Location) : any.accepts l = true := rfl

/-! ## Reading -/

/-- The fields of a filter. -/
inductive Field where
  | domain
  | bus
  | device
  | function
  deriving DecidableEq, Repr

/-- What a field is called in messages. -/
def Field.title : Field → String
  | .domain => "domain number"
  | .bus => "bus number"
  | .device => "slot number"
  | .function => "function number"

/-- One more than the greatest number a field may name. -/
def Field.bound : Field → Nat
  | .domain => 0x80000000
  | .bus => 0x100
  | .device => 0x20
  | .function => 8

/-- A field whose text is neither empty, nor `*`, nor a number in range. -/
structure BadField where
  field : Field
  text : String
  deriving DecidableEq, Repr

def BadField.message (b : BadField) : String :=
  s!"Invalid {b.field.title}: {quote b.text}"

/-- Reads one field. -/
def readField (field : Field) (cs : List Char) : Except BadField (Option Nat) :=
  if cs = [] ∨ cs = ['*'] then .ok none
  else
    match readHex? field.bound cs with
    | some n => .ok (some n)
    | none => .error ⟨field, String.ofList cs⟩

/-- A filter text cut into its fields; absent parts are empty. The last
colon ends the bus, the first one before it ends the domain, and the first
dot after it starts the function. -/
def cutFields (cs : List Char) : List Char × List Char × List Char × List Char :=
  let (head, tail) := (cutLast ':' cs).getD ([], cs)
  let (domain, bus) := (cutFirst ':' head).getD ([], head)
  let (device, function) := (cutFirst '.' tail).getD (tail, [])
  (domain, bus, device, function)

/-- Reads a filter. Of several bad fields the first in the order domain,
bus, device, function is reported. -/
def read (s : String) : Except BadField Filter := do
  let (domain, bus, device, function) := cutFields s.toList
  let domain ← readField .domain domain
  let bus ← readField .bus bus
  let device ← readField .device device
  let function ← readField .function function
  return ⟨domain.map .ofNat, bus.map .ofNat, device.map .ofNat, function.map .ofNat⟩

end Filter

end PciBus

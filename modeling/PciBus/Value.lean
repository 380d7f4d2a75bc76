import PciBus.Bytes

/-!
# Register widths and values

A config-space access is one, two or four bytes wide, and a value knows its
width. Both have their names in the log.
-/

namespace PciBus

/-- The width of a config-space access. -/
inductive Width where
  | byte
  | word
  | long
  deriving DecidableEq, Repr

namespace Width

/-- The number of bytes an access touches. -/
def bytes : Width → Nat
  | .byte => 1
  | .word => 2
  | .long => 4

/-- The number with every bit of the width set: what an absent function
answers. -/
def ones : Width → UInt32
  | .byte => 0xff
  | .word => 0xffff
  | .long => 0xffffffff

end Width

/-- A register value of a known width. -/
inductive Value where
  | byte (value : UInt8)
  | word (value : UInt16)
  | long (value : UInt32)
  deriving DecidableEq, Repr

namespace Value

def width : Value → Width
  | .byte _ => .byte
  | .word _ => .word
  | .long _ => .long

/-- The value as a number. -/
def raw : Value → UInt32
  | .byte v => v.toUInt32
  | .word v => v.toUInt32
  | .long v => v

/-- The low bytes of `raw`, as many as the width has. -/
def ofRaw (width : Width) (raw : UInt32) : Value :=
  match width with
  | .byte => .byte raw.toUInt8
  | .word => .word raw.toUInt16
  | .long => .long raw

@[simp] theorem width_ofRaw (width : Width) (raw : UInt32) :
    (ofRaw width raw).width = width := by
  cases width <;> rfl

/-- Taking a value apart and putting it together again changes nothing. -/
@[simp] theorem ofRaw_raw (v : Value) : ofRaw v.width v.raw = v := by
  cases v <;> simp [ofRaw, width, raw]

/-- Cutting a number to a width keeps its remainder. -/
theorem toNat_raw_ofRaw (width : Width) (raw : UInt32) :
    (ofRaw width raw).raw.toNat = raw.toNat % Bytes.span width.bytes := by
  cases width with
  | byte => simp [ofRaw, Value.raw, Width.bytes, Bytes.span]
  | word => simp [ofRaw, Value.raw, Width.bytes, Bytes.span]
  | long =>
      have := raw.toNat_lt
      simp only [ofRaw, Value.raw, Width.bytes, Bytes.span]
      omega

/-- How the log writes a value. -/
def text : Value → String
  | .byte v => s!"Byte({v.toNat})"
  | .word v => s!"Word({v.toNat})"
  | .long v => s!"Long({v.toNat})"

end Value

end PciBus

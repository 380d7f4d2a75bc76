/-!
# Unsigned numerals

Numbers are written in lower-case digits with leading zeros up to a least
width. They are read back in digits of either case, with an optional plus
sign in front, and a text that is no numeral says why.
-/

namespace PciBus.Text

/-! ## Writing -/

/-- The hexadecimal digits of `n`, with leading zeros up to `width`. -/
def hexDigits (width n : Nat) : List Char :=
  let digits := Nat.toDigits 16 n
  List.replicate (width - digits.length) '0' ++ digits

/-- `n` in hexadecimal, with leading zeros up to `width` digits. -/
def hex (width n : Nat) : String :=
  String.ofList (hexDigits width n)

/-! ## Reading -/

/-- Why a text is no numeral. -/
inductive NumeralFault where
  /-- There is no character at all. -/
  | empty
  /-- A character is no digit of the base. -/
  | digit
  /-- The number does not fit. -/
  | large
  deriving DecidableEq, Repr

/-- The wording of each reason. -/
def NumeralFault.message : NumeralFault → String
  | .empty => "cannot parse integer from empty string"
  | .digit => "invalid digit found in string"
  | .large => "number too large to fit in target type"

/-- The value of a digit in base `radix`, in either case. -/
def digitValue? (radix : Nat) (c : Char) : Option Nat :=
  let n := c.toNat
  let value :=
    if 0x30 ≤ n && n ≤ 0x39 then n - 0x30
    else if 0x61 ≤ n && n ≤ 0x7a then n - 0x61 + 10
    else if 0x41 ≤ n && n ≤ 0x5a then n - 0x41 + 10
    else radix
  if value < radix then some value else none

/-- Reads digits onto `acc`, as long as the number stays below `bound`. The
first character that is no digit, or the first digit that leaves the range,
decides the fault. -/
def readDigits (radix bound : Nat) (acc : Nat) : List Char → Except NumeralFault Nat
  | [] => .ok acc
  | c :: cs =>
      match digitValue? radix c with
      | none => .error .digit
      | some d =>
          if acc * radix + d < bound then readDigits radix bound (acc * radix + d) cs
          else .error .large

/-- Reads a number below `bound`. One plus sign may stand before the first
digit; a sign alone is no numeral. -/
def readUnsigned (radix bound : Nat) : List Char → Except NumeralFault Nat
  | [] => .error .empty
  | ['+'] => .error .digit
  | '+' :: cs => readDigits radix bound 0 cs
  | cs => readDigits radix bound 0 cs

/-- Reads a hexadecimal number below `bound`. -/
def readHex? (bound : Nat) (cs : List Char) : Option Nat :=
  (readUnsigned 16 bound cs).toOption

theorem lt_of_readDigits {radix bound acc n : Nat} {cs : List Char} (hacc : acc < bound)
    (h : readDigits radix bound acc cs = .ok n) : n < bound := by
  induction cs generalizing acc with
  | nil =>
      simp only [readDigits, Except.ok.injEq] at h
      omega
  | cons c cs ih =>
      simp only [readDigits] at h
      split at h
      · exact absurd h (by simp)
      · split at h
        · next hlt => exact ih hlt h
        · exact absurd h (by simp)

/-- A number that was read is in range. -/
theorem lt_of_readUnsigned {radix bound n : Nat} {cs : List Char} (hb : 0 < bound)
    (h : readUnsigned radix bound cs = .ok n) : n < bound := by
  unfold readUnsigned at h
  split at h
  · exact absurd h (by simp)
  · exact absurd h (by simp)
  · exact lt_of_readDigits hb h
  · exact lt_of_readDigits hb h

end PciBus.Text

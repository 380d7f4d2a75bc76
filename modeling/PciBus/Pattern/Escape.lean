import PciBus.Pattern.Finding
import PciBus.Text.Blank
import PciBus.Text.Numeral

/-!
# Escapes

What a backslash begins, and the flags that say how a pattern is read. A
pattern comes out of a directive between braces, so it never holds a closing
brace: an escape that opens one is never finished.
-/

namespace PciBus

open Text

namespace Pattern

/-! ## Flags -/

/-- How a pattern is read. -/
structure Mode where
  /-- Blanks and comments do not count. -/
  spaced : Bool := false
  /-- Letters stand for both of their cases. -/
  folded : Bool := false
  /-- Characters are matched, and not bytes. -/
  wide : Bool := true
  deriving DecidableEq, Repr

/-- What follows the blanks and the comments at the start of a text; a
comment ends with its line. -/
def skipBlanks (comment : Bool) : List Char → List Char
  | [] => []
  | c :: cs =>
      if comment then skipBlanks (c != '\n') cs
      else if isBlank c then skipBlanks false cs
      else if c = '#' then skipBlanks true cs
      else c :: cs

/-- What is to be read next. -/
def Mode.skip (m : Mode) (cs : List Char) : List Char :=
  if m.spaced then skipBlanks false cs else cs

theorem length_skipBlanks_le (comment : Bool) (cs : List Char) :
    (skipBlanks comment cs).length ≤ cs.length := by
  induction cs generalizing comment with
  | nil => simp [skipBlanks]
  | cons c cs ih =>
      simp only [skipBlanks, List.length_cons]
      split
      · have := ih (c != '\n')
        omega
      · split
        · have := ih false
          omega
        · split
          · have := ih true
            omega
          · simp

theorem Mode.length_skip_le (m : Mode) (cs : List Char) : (m.skip cs).length ≤ cs.length := by
  rw [Mode.skip]
  split
  · exact length_skipBlanks_le false cs
  · exact Nat.le_refl _

/-- The characters from here on as long as `p` holds, without what does not
count, and the rest. -/
def Mode.takeWhile (m : Mode) (p : Char → Bool) : List Char → List Char × List Char
  | [] => ([], [])
  | c :: cs =>
      if p c then
        let (taken, rest) := m.takeWhile p (m.skip cs)
        (c :: taken, rest)
      else ([], c :: cs)
  termination_by cs => cs.length
  decreasing_by
    have := m.length_skip_le cs
    simp only [List.length_cons]
    omega

/-! ## Atoms -/

/-- What a backslash can begin. -/
inductive Atom where
  /-- A character, given by two hexadecimal digits or in some other way. -/
  | literal (c : Char) (byByte : Bool)
  /-- Digits, blanks or word characters, or all the others. -/
  | kind (negated : Bool)
  | property
  /-- A place between two characters of different kinds. -/
  | boundary
  /-- The start or the end of the text. -/
  | anchor
  deriving DecidableEq, Repr

def fail (flaw : Flaw) (place : Stretch) : Except Finding α := .error ⟨flaw, place, none⟩

/-- Reads `n` more hexadecimal digits onto `acc`. -/
def readHexDigits (m : Mode) : Nat → Nat → List Char → Except Finding (Nat × List Char)
  | 0, acc, cs => .ok (acc, cs)
  | _ + 1, _, [] => fail .unfinishedEscape (.before [])
  | n + 1, acc, c :: cs =>
      match digitValue? 16 c with
      | none => fail .hexDigit (.first (c :: cs))
      | some d => readHexDigits m n (acc * 16 + d) (m.skip cs)

/-- Reads a character that is given by its number. -/
def readHexLiteral (m : Mode) (digits : Nat) (cs : List Char) :
    Except Finding (Atom × List Char) := do
  let cs := m.skip cs
  match cs with
  | '\x7b' :: inner =>
      match (m.takeWhile (fun c => (digitValue? 16 c).isSome) (m.skip inner)).2 with
      | [] => fail .unfinishedEscape (.between cs [])
      | rest => fail .hexDigit (.first rest)
  | _ =>
      let (n, rest) ← readHexDigits m digits 0 cs
      if n.isValidChar then return (.literal (.ofNat n) (digits == 2), rest)
      else fail .hexValue (.between cs rest)

/-- Reads the property of a character class. -/
def readProperty (m : Mode) (cs : List Char) : Except Finding (Atom × List Char) :=
  match m.skip cs with
  | [] => fail .unfinishedEscape (.before [])
  | '\x7b' :: _ => fail .unfinishedEscape (.before [])
  | '\\' :: rest => fail .propertyName (.first ('\\' :: rest))
  | _ :: rest => .ok (.property, m.skip rest)

/-- Reads what follows a word boundary, which began at `start`. A brace with a
letter or a hyphen opens its kind; every other one counts repetitions. -/
def readBoundary (m : Mode) (start rest : List Char) : Except Finding (Atom × List Char) :=
  let isKindChar (c : Char) : Bool := c.isAlpha || c == '-'
  match rest with
  | '\x7b' :: inner =>
      match m.skip inner with
      | [] => fail .unclosedBoundaryOrCount (.between start [])
      | c :: cs =>
          if isKindChar c then
            fail .unclosedBoundary (.between rest (m.takeWhile isKindChar (c :: cs)).2)
          else .ok (.boundary, rest)
  | _ => .ok (.boundary, rest)

/-- The characters that have a letter. -/
def letterEscape? : Char → Option Char
  | 'a' => some '\x07'
  | 'f' => some '\x0c'
  | 'n' => some '\n'
  | 'r' => some '\r'
  | 't' => some '\t'
  | 'v' => some '\x0b'
  | _ => none

/-- Reads an escape. Every ASCII character but letters, digits and the two
angles stands for itself. -/
def readEscape (m : Mode) (cs : List Char) : Except Finding (Atom × List Char) :=
  match cs with
  | _ :: c :: rest =>
      if c.isDigit then fail .backreference (.between cs rest)
      else if c = 'x' then readHexLiteral m 2 rest
      else if c = 'u' then readHexLiteral m 4 rest
      else if c = 'U' then readHexLiteral m 8 rest
      else if c = 'p' ∨ c = 'P' then readProperty m rest
      else if ['d', 's', 'w'].contains c then .ok (.kind false, rest)
      else if ['D', 'S', 'W'].contains c then .ok (.kind true, rest)
      else if c = 'b' then readBoundary m cs rest
      else if ['B', '<', '>'].contains c then .ok (.boundary, rest)
      else if c = 'A' ∨ c = 'z' then .ok (.anchor, rest)
      else
        match letterEscape? c with
        | some meant => .ok (.literal meant false, rest)
        | none =>
            if c.toNat < 0x80 && !c.isAlpha then .ok (.literal c false, rest)
            else fail .unknownEscape (.between cs rest)
  | _ => fail .unfinishedEscape (.between cs [])

/-! ## What is not supported -/

/-- What keeps an atom outside a class from being matched. -/
def Mode.refusal? (m : Mode) (atom : Atom) (place : Stretch) : Option Finding :=
  let flaw : Option Flaw :=
    match atom with
    | .literal c byByte =>
        if m.wide then if m.folded then some .noCaseTable else none
        else if byByte && 0x7f < c.toNat then some .invalidEncoding else none
    | .kind negated =>
        if m.wide then some .noClassTable
        else if negated then some .invalidEncoding else none
    | .property => some (if m.wide then .noPropertyTable else .beyondAscii)
    | .boundary | .anchor => none
  flaw.map fun flaw => ⟨flaw, place, none⟩

/-- What keeps an atom in a class from being matched. There a character is a
byte if bytes are matched. -/
def Mode.classRefusal? (m : Mode) (atom : Atom) (place : Stretch) : Option Finding :=
  match atom with
  | .literal c byByte =>
      if m.wide || c.toNat < 0x80 then none
      else some ⟨if byByte then .invalidEncoding else .beyondAscii, place, none⟩
  | atom => m.refusal? atom place

end Pattern

end PciBus

import PciBus.Text.Cut

/-!
# What is wrong with a pattern

A finding names a flaw of a pattern and marks the stretch where it is. Its
text shows the pattern with carets under that stretch, and under the earlier
one that it collides with if there is one.
-/

namespace PciBus

open Text

namespace Pattern

/-! ## Stretches -/

/-- A stretch of a pattern, by the number of characters that are left at its
two ends. -/
structure Stretch where
  start : Nat
  stop : Nat
  deriving DecidableEq, Repr

namespace Stretch

/-- From one rest of a pattern to a later one. -/
def between (rest later : List Char) : Stretch := ⟨rest.length, later.length⟩

/-- The place in front of a rest. -/
def before (rest : List Char) : Stretch := between rest rest

/-- The first character of a rest. -/
def first (rest : List Char) : Stretch := between rest (rest.drop 1)

end Stretch

/-- A line and a column of a text, both from zero. -/
structure Position where
  line : Nat
  column : Nat
  deriving DecidableEq, Repr

/-- The position at which so many characters of a pattern are left. -/
def Position.of (pattern : List Char) (left : Nat) : Position :=
  let before := pattern.take (pattern.length - left)
  ⟨before.count '\n', (before.reverse.takeWhile (· != '\n')).length⟩

/-! ## Flaws -/

/-- The most parts of a pattern that may lie in one another. -/
def nestLimit : Nat := 250

/-- What can be wrong with a pattern. The last five are well formed, and are
not supported. -/
inductive Flaw where
  | unclosedGroup
  | unopenedGroup
  | emptyName
  | nameCharacter
  | repeatedName
  | unclosedName
  | unknownFlag
  | repeatedFlag
  | repeatedNegation
  | danglingNegation
  | missingFlag
  | lookAround
  | noOperand
  | unclosedCount
  | countDigits
  | largeNumber
  | unclosedBoundary
  | unclosedBoundaryOrCount
  | unknownEscape
  | unfinishedEscape
  | backreference
  | hexDigit
  | hexValue
  | propertyName
  | unclosedClass
  | classEscape
  | rangeBoundary
  | rangeOrder
  | tooDeep
  | noClassTable
  | noPropertyTable
  | noCaseTable
  | beyondAscii
  | invalidEncoding
  deriving DecidableEq, Repr

def Flaw.message : Flaw → String
  | .unclosedGroup => "unclosed group"
  | .unopenedGroup => "unopened group"
  | .emptyName => "empty capture group name"
  | .nameCharacter => "invalid capture group character"
  | .repeatedName => "duplicate capture group name"
  | .unclosedName => "unclosed capture group name"
  | .unknownFlag => "unrecognized flag"
  | .repeatedFlag => "duplicate flag"
  | .repeatedNegation => "flag negation operator repeated"
  | .danglingNegation => "dangling flag negation operator"
  | .missingFlag => "expected flag but got end of regex"
  | .lookAround => "look-around, including look-ahead and look-behind, is not supported"
  | .noOperand => "repetition operator missing expression"
  | .unclosedCount => "unclosed counted repetition"
  | .countDigits => "repetition quantifier expects a valid decimal"
  | .largeNumber => "decimal literal invalid"
  | .unclosedBoundary =>
      "special word boundary assertion is either unclosed or contains an invalid character"
  | .unclosedBoundaryOrCount =>
      "found either the beginning of a special word boundary or a bounded repetition on a \\b " ++
        "with an opening brace, but no closing brace"
  | .unknownEscape => "unrecognized escape sequence"
  | .unfinishedEscape => "incomplete escape sequence, reached end of pattern prematurely"
  | .backreference => "backreferences are not supported"
  | .hexDigit => "invalid hexadecimal digit"
  | .hexValue => "hexadecimal literal is not a Unicode scalar value"
  | .propertyName => "invalid Unicode character class"
  | .unclosedClass => "unclosed character class"
  | .classEscape => "invalid escape sequence found in character class"
  | .rangeBoundary => "invalid range boundary, must be a literal"
  | .rangeOrder => "invalid character class range, the start must be <= the end"
  | .tooDeep => s!"exceed the maximum number of nested parentheses/brackets ({nestLimit})"
  | .noClassTable =>
      "Unicode-aware Perl class not found (make sure the unicode-perl feature is enabled)"
  | .noPropertyTable => "Unicode property not found"
  | .noCaseTable =>
      "Unicode-aware case insensitivity matching is not available " ++
        "(make sure the unicode-case feature is enabled)"
  | .beyondAscii => "Unicode not allowed here"
  | .invalidEncoding => "pattern can match invalid UTF-8"

/-! ## Findings -/

/-- A flaw and its place. -/
structure Finding where
  flaw : Flaw
  place : Stretch
  /-- What the flaw collides with. -/
  earlier : Option Stretch := none
  deriving DecidableEq, Repr

namespace Finding

/-- The two ends of the stretches to mark, from left to right. -/
def marks (pattern : List Char) (f : Finding) : List (Position × Position) :=
  (f.earlier.toList ++ [f.place]).map fun s => (.of pattern s.start, .of pattern s.stop)

/-- A line of carets with those of one more stretch, which has one even if it
is empty. -/
def addCarets (line : List Char) (start stop : Position) : List Char :=
  let line := line ++ List.replicate (start.column - line.length) ' '
  line ++ List.replicate (max 1 (stop.column - start.column)) '^'

/-- The carets below a line; none if nothing is marked there. -/
def caretsBelow (marks : List (Position × Position)) (n : Nat) : List Char :=
  (marks.filter fun (start, stop) => start.line = n ∧ stop.line = n).foldl
    (fun line (start, stop) => addCarets line start stop) []

/-- The lines of a pattern, each after its margin, with the carets below. -/
def shownLines (pattern : List Char) (marks : List (Position × Position))
    (margin : Nat → String) : String :=
  String.join <| (lines pattern).zipIdx.map fun (line, n) =>
    let carets := caretsBelow marks n
    let below := if carets.isEmpty then [] else ("".pushn ' ' (margin n).length).toList ++ carets
    s!"{margin n}{String.ofList line}\n" ++
      if below.isEmpty then "" else s!"{String.ofList below}\n"

/-- A stretch over several lines, in words. -/
def lineNote (start stop : Position) : String :=
  s!"on line {start.line + 1} (column {start.column + 1}) " ++
    s!"through line {stop.line + 1} (column {stop.column})\n"

/-- The margin of a numbered line, of `count` lines in all. -/
def numberMargin (count n : Nat) : String :=
  let number := s!"{n + 1}"
  "".pushn ' ' (s!"{count}".length - number.length) ++ number ++ ": "

/-- A pattern of several lines, numbered and between two rules. -/
def ruledLines (pattern : List Char) (marks : List (Position × Position)) : String :=
  let rule := "".pushn '~' 79 ++ "\n"
  let count := pattern.count '\n' + 1
  rule ++ shownLines pattern marks (numberMargin count) ++ rule ++
    String.join (marks.map fun (start, stop) =>
      if start.line = stop.line then "" else lineNote start stop)

/-- The pattern with its marks, and what is wrong there. -/
def text (pattern : List Char) (f : Finding) : String :=
  let marks := f.marks pattern
  let shown :=
    if pattern.contains '\n' then ruledLines pattern marks
    else shownLines pattern marks fun _ => "    "
  s!"regex parse error:\n{shown}error: {f.flaw.message}"

end Finding

end Pattern

end PciBus

import PciBus.Pattern.Escape
import PciBus.Pattern.Nesting

/-!
# Character classes

A class in square brackets is a union of characters, ranges, escapes, named
classes and classes of its own, or what two unions make with `&&`, `--` or
`~~`. Only how deep the class goes and what it is refused for come out of the
reading. So a union is kept as its parts and as what folding has to know of
its characters.
-/

namespace PciBus

open Text

namespace Pattern

/-! ## Characters -/

/-- What a class is known to hold. No table is needed to fold the letters of
nothing or of everything. -/
inductive Content where
  | nothing
  | listed
  | everything
  deriving DecidableEq, Repr

namespace Content

def union : Content → Content → Content
  | a, .nothing => a
  | .nothing, b => b
  | .everything, .everything => .everything
  | _, _ => .listed

def negate : Content → Content
  | .nothing => .everything
  | .listed => .listed
  | .everything => .nothing

end Content

/-- What two unions can be combined by. -/
inductive Operator where
  | intersection
  | difference
  | symmetricDifference
  deriving DecidableEq, Repr

/-- What two unions come to. -/
def Operator.combine : Operator → Content → Content → Content
  | _, .listed, _ => .listed
  | _, _, .listed => .listed
  | .intersection, a, b => if a = .everything then b else .nothing
  | .difference, a, b => if b = .everything then .nothing else a
  | .symmetricDifference, a, b => if a = b then .nothing else .everything

/-! ## Unions -/

/-- A union as far as it has been read. -/
structure Union where
  place : Stretch
  /-- Its parts, the last one first. -/
  parts : List Part := []
  content : Content := .nothing
  deriving DecidableEq, Repr

namespace Union

/-- A union without parts in front of a rest. -/
def empty (rest : List Char) : Union := { place := .before rest }

/-- The union with one more part. -/
def push (u : Union) (part : Part) (content : Content) : Union where
  place := ⟨if u.parts.isEmpty then part.place.start else u.place.start, part.place.stop⟩
  parts := part :: u.parts
  content := u.content.union content

/-- The union as a part. -/
def part (u : Union) : Part := .inRow u.place u.parts.reverse

end Union

/-- A class that is open. -/
structure Level where
  /-- From the bracket to the first part that is not read with it. -/
  opening : Stretch
  negated : Bool
  /-- The last operator and what stands in front of it. -/
  left : Option (Union × Operator) := none
  union : Union
  deriving DecidableEq, Repr

/-- Where the reading of a class stands: the open classes, the innermost
first, the first thing that it is refused for, and what is to be read. -/
structure ClassState where
  level : Level
  outer : List Level := []
  refused : Option Finding := none
  rest : List Char
  deriving DecidableEq, Repr

namespace ClassState

def push (s : ClassState) (part : Part) (content : Content) (rest : List Char) : ClassState :=
  { s with level.union := s.level.union.push part content, rest := rest }

/-- Notes what the class is refused for, if it is the first such thing. -/
def refuse (s : ClassState) (f : Option Finding) : ClassState :=
  { s with refused := s.refused <|> f }

end ClassState

/-! ## Opening -/

/-- Takes the hyphens that stand first in a class. The class began at
`start`. -/
def takeHyphens (m : Mode) (start : List Char) (u : Union) :
    List Char → Except Finding (Union × List Char)
  | '-' :: cs =>
      match _eq : m.skip cs with
      | [] => fail .unclosedClass (.before start)
      | c :: rest =>
          takeHyphens m start (u.push { place := .between ('-' :: cs) cs } .listed) (c :: rest)
  | cs => .ok (u, cs)
  termination_by cs => cs.length
  decreasing_by
    have hle := Mode.length_skip_le m cs
    rw [_eq] at hle
    simp only [List.length_cons] at hle ⊢
    omega

/-- Reads the start of a class: the bracket, the mark that negates it, and
hyphens or a closing bracket that stand for themselves. -/
def openClass (m : Mode) (cs : List Char) : Except Finding (Level × List Char) := do
  let unclosed : Except Finding (Level × List Char) := fail .unclosedClass (.between cs [])
  let (negated, inner) :=
    match m.skip (cs.drop 1) with
    | '^' :: inner => (true, m.skip inner)
    | inner => (false, inner)
  if inner.isEmpty then unclosed
  else
    let (u, rest) ← takeHyphens m cs (.empty inner) inner
    match u.parts, rest with
    | [], ']' :: after =>
        let u := u.push { place := .between rest after } .listed
        match m.skip after with
        | [] => unclosed
        | rest => return ({ opening := .between cs rest, negated := negated, union := u }, rest)
    | _, rest => return ({ opening := .between cs rest, negated := negated, union := u }, rest)

/-! ## Parts -/

/-- The names of the classes that hold only ASCII. -/
def classNames : List String :=
  ["alnum", "alpha", "ascii", "blank", "cntrl", "digit", "graph", "lower", "print", "punct",
    "space", "upper", "word", "xdigit"]

/-- Reads a named class such as `[:digit:]`; whether it is negated, and the
rest. -/
def namedClass? (cs : List Char) : Option (Bool × List Char) := do
  let (negated, inner) ←
    match cs with
    | '[' :: ':' :: '^' :: inner => some (true, inner)
    | '[' :: ':' :: inner => some (false, inner)
    | _ => none
  match cutFirst ':' inner with
  | some (name, ']' :: rest) =>
      if classNames.contains (String.ofList name) then some (negated, rest) else none
  | _ => none

/-- Reads a character or an escape. -/
def readPart (m : Mode) (cs : List Char) : Except Finding (Atom × List Char) :=
  match cs with
  | c :: rest => if c = '\\' then readEscape m cs else .ok (.literal c false, rest)
  | [] => .ok (.anchor, [])

/-- The character at one end of a range. -/
def rangeEnd (atom : Atom) (place : Stretch) : Except Finding Char :=
  match atom with
  | .literal c _ => .ok c
  | _ => fail .rangeBoundary place

/-- What comes after the blanks behind a hyphen and after the sign of a first
comment, whose words count here; if nothing does, what stands right behind
the hyphen. -/
def peekBlanks (after : List Char) : Option Char :=
  let visible := after.dropWhile isBlank
  let visible := if visible.head? = some '#' then (visible.drop 1).dropWhile isBlank else visible
  visible.head? <|> after.head?

/-- What a hyphen is told apart by. -/
def Mode.peek (m : Mode) (after : List Char) : Option Char :=
  if m.spaced then peekBlanks after else after.head?

/-- Reads a character, an escape or a range. A hyphen makes a range unless
another one or the closing bracket is seen behind it. -/
def readItem (m : Mode) (s : ClassState) : Except Finding ClassState := do
  let unclosed : Except Finding ClassState := fail .unclosedClass s.level.opening
  let (atom, rest) ← readPart m s.rest
  let place := Stretch.between s.rest rest
  let single : Except Finding ClassState :=
    match atom with
    | .boundary | .anchor => fail .classEscape place
    | atom =>
        .ok ((s.refuse (m.classRefusal? atom place)).push { place := place } .listed (m.skip rest))
  match m.skip rest with
  | [] => unclosed
  | '-' :: after =>
      -- What is seen behind the hyphen can stand in a comment; what is read cannot.
      if m.peek after = some ']' ∨ m.peek after = some '-' then single
      else
        match m.skip after with
        | [] => unclosed
        | other =>
            let (last, rest) ← readPart m other
            let lastPlace := Stretch.between other rest
            let range := Stretch.between s.rest rest
            let low ← rangeEnd atom place
            let high ← rangeEnd last lastPlace
            if high < low then fail .rangeOrder range
            else
              let s := s.refuse (m.classRefusal? atom place)
              let s := s.refuse (m.classRefusal? last lastPlace)
              return s.push { place := range } .listed rest
  | _ => single

/-! ## Operators and closing -/

/-- What keeps the letters of a union from being folded. -/
def foldRefusal? (m : Mode) (place : Stretch) (content : Content) : Option Finding :=
  if m.wide && m.folded && content = .listed then some ⟨.noCaseTable, place, none⟩ else none

/-- The union of a level with what stands in front of the operator, and what
the operator is refused for: the letters on its right are folded first. -/
def Level.combined (m : Mode) (l : Level) : Union × Option Finding :=
  match l.left with
  | none => (l.union, none)
  | some (left, operator) =>
      let right := l.union
      let place : Stretch := ⟨left.place.start, right.place.stop⟩
      let union : Union :=
        { place := place
          parts := [.holding place [left.part, right.part]]
          content := operator.combine left.content right.content }
      (union,
        foldRefusal? m right.place right.content <|> foldRefusal? m left.place left.content)

/-- Reads an operator, which ends a union. -/
def readOperator (m : Mode) (s : ClassState) (operator : Operator) (rest : List Char) :
    ClassState :=
  let (left, f) := s.level.combined m
  { s.refuse f with
    level := { s.level with left := some (left, operator), union := .empty rest }
    rest := rest }

/-- A class as a part of a pattern, what it is refused for and what follows
it. -/
structure CharClass where
  part : Part
  refused : Option Finding
  rest : List Char
  deriving DecidableEq, Repr

/-- Closes the innermost class; what is left of the reading, if a class
around it is open. -/
def closeClass (m : Mode) (s : ClassState) (rest : List Char) : ClassState ⊕ CharClass :=
  let (u, f) := s.level.combined m
  let place : Stretch := ⟨s.level.opening.start, rest.length⟩
  let part : Part := .holding place [u.part]
  let encoding : Option Finding :=
    if !m.wide && s.level.negated then some ⟨.invalidEncoding, place, none⟩ else none
  -- Letters are folded before the class is negated.
  let refused := s.refused <|> f <|> foldRefusal? m place u.content <|> encoding
  let content := if s.level.negated then u.content.negate else u.content
  match s.outer with
  | [] => .inr ⟨part, refused, rest⟩
  | level :: outer => .inl (ClassState.push ⟨level, outer, refused, rest⟩ part content rest)

/-! ## Whole classes -/

/-- Reads the parts of the open classes. Every part has a character at least,
so there are no more parts than characters. -/
def readParts (m : Mode) : Nat → ClassState → Except Finding CharClass
  | 0, s => fail .unclosedClass s.level.opening
  | fuel + 1, s => do
      let cs := m.skip s.rest
      let s := { s with rest := cs }
      match cs with
      | [] => fail .unclosedClass s.level.opening
      | '[' :: _ =>
          match namedClass? cs with
          | some (negated, rest) =>
              let place := Stretch.between cs rest
              let encoding : Option Finding :=
                if !m.wide && negated then some ⟨.invalidEncoding, place, none⟩ else none
              let s := s.refuse (foldRefusal? m place .listed <|> encoding)
              readParts m fuel (s.push { place := place } .listed rest)
          | none =>
              let (level, rest) ← openClass m cs
              readParts m fuel
                { s with level := level, outer := s.level :: s.outer, rest := rest }
      | ']' :: rest =>
          match closeClass m s rest with
          | .inl s => readParts m fuel s
          | .inr done => return done
      | '&' :: '&' :: rest => readParts m fuel (readOperator m s .intersection rest)
      | '-' :: '-' :: rest => readParts m fuel (readOperator m s .difference rest)
      | '~' :: '~' :: rest => readParts m fuel (readOperator m s .symmetricDifference rest)
      | _ => do readParts m fuel (← readItem m s)

/-- Reads a class. -/
def readClass (m : Mode) (cs : List Char) : Except Finding CharClass := do
  let (level, rest) ← openClass m cs
  readParts m (cs.length + 1) { level := level, rest := rest }

end Pattern

end PciBus

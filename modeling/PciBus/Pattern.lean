import PciBus.Pattern.CharClass
import PciBus.Text.Alphanumeric

/-!
# Patterns

A pattern that field values are compared with: a regular expression over
characters. It is only ever checked here. First comes its form, from left to
right; then how deep it goes; then what it is made of, since there are no
tables of classes, properties and cases; and last the word boundaries, which
cannot be matched.
-/

namespace PciBus

open Text

namespace Pattern

/-- Why a pattern is refused. -/
inductive Fault where
  | finding (pattern : List Char) (f : Finding)
  /-- It holds a boundary between words of characters. -/
  | boundary
  deriving DecidableEq, Repr

def Fault.message : Fault → String
  | .finding _ _ => "error building NFA"
  | .boundary =>
      "unsupported regex feature for DFAs: cannot build DFAs for regexes with Unicode word " ++
        "boundaries; switch to ASCII word boundaries, or heuristically enable Unicode word " ++
        "boundaries or use a different regex engine"

/-- What the fault is put down to, the nearest cause first. -/
def Fault.causes : Fault → List String
  | .finding pattern f => ["error parsing regex", f.text pattern]
  | .boundary => []

/-! ## Alternatives -/

/-- What stands in a group, or outside all groups, as far as it has been
read: alternatives with bars between them. -/
structure Body where
  /-- How much is left at its start. -/
  opened : Nat
  /-- How much is left at the start of the open alternative. -/
  begun : Nat
  /-- The alternatives that have ended, the last one first. -/
  ended : List Part := []
  /-- The parts of the open alternative, the last one first. -/
  parts : List Part := []
  deriving DecidableEq, Repr

namespace Body

/-- A body in front of a rest. -/
def empty (rest : List Char) : Body where
  opened := rest.length
  begun := rest.length

def push (b : Body) (part : Part) : Body := { b with parts := part :: b.parts }

/-- The open alternative, which ends at a rest. -/
def alternative (b : Body) (rest : List Char) : Part :=
  .inRow ⟨b.begun, rest.length⟩ b.parts.reverse

/-- The body behind a bar. -/
def alternate (b : Body) (bar : List Char) : Body :=
  { b with
    begun := (bar.drop 1).length
    ended := b.alternative bar :: b.ended
    parts := [] }

/-- The body behind an operator that repeats its last part. -/
def repeatLast (b : Body) (rest : List Char) : Body :=
  match b.parts with
  | [] => b
  | part :: parts =>
      { b with parts := .holding ⟨part.place.start, rest.length⟩ [part] :: parts }

/-- The whole body, which ends at a rest. -/
def close (b : Body) (rest : List Char) : Part :=
  -- Without a bar the alternative is all there is.
  if b.ended.isEmpty then b.alternative rest
  else .holding ⟨b.opened, rest.length⟩ (b.alternative rest :: b.ended).reverse

end Body

/-! ## Reading from left to right -/

/-- A group that is open: where its parenthesis is, and what is read and how
behind it. -/
structure Group where
  place : Stretch
  mode : Mode
  body : Body
  deriving DecidableEq, Repr

/-- Where the reading of a pattern stands. -/
structure State where
  mode : Mode := {}
  body : Body
  /-- The open groups, the innermost first. -/
  groups : List Group := []
  /-- Whether something that can be repeated comes just before. -/
  operand : Bool := false
  /-- The names of the groups. -/
  names : List (List Char × Stretch) := []
  /-- The first thing that is not supported. -/
  refused : Option Finding := none
  /-- Whether there was a boundary between words of characters. -/
  boundary : Bool := false
  deriving DecidableEq, Repr

namespace State

/-- The reading behind something that can be repeated. -/
def operandRead (s : State) (part : Part) (refused : Option Finding) : State :=
  { s with body := s.body.push part, operand := true, refused := s.refused <|> refused }

/-- The reading behind an atom. -/
def atomRead (s : State) (atom : Atom) (place : Stretch) : State :=
  { s.operandRead { place := place } (s.mode.refusal? atom place) with
    boundary := s.boundary || (atom = .boundary && s.mode.wide) }

/-- The reading behind flags that hold from there on. -/
def flagsRead (s : State) (place : Stretch) (mode : Mode) : State :=
  { s with body := s.body.push { place := place }, mode := mode, operand := false }

/-- The reading inside a group that is opened. -/
def openGroup (s : State) (place : Stretch) (mode : Mode) (rest : List Char) : State :=
  { s with
    groups := ⟨place, s.mode, s.body⟩ :: s.groups
    body := .empty rest
    mode := mode
    operand := false }

/-- The reading behind the parenthesis that closes a group. -/
def closeGroup (s : State) (g : Group) (groups : List Group) (cs : List Char) : State :=
  let part : Part := .holding ⟨g.place.start, (cs.drop 1).length⟩ [s.body.close cs]
  { s with groups := groups, body := g.body.push part, mode := g.mode, operand := true }

end State

/-! ## Groups -/

/-- Whether a name may hold a character, as its first one or later. -/
def isNameChar (first : Bool) (c : Char) : Bool :=
  if first then c == '_' || isAlphabetic c
  else c == '_' || c == '.' || c == '[' || c == ']' || isAlphanumeric c

/-- Reads the name of a group and the angle that closes it. -/
def readName (first : Bool) : List Char → Except Finding (List Char × List Char)
  | [] => fail .unclosedName (.before [])
  | '>' :: rest => .ok ([], rest)
  | c :: cs =>
      if isNameChar first c then do
        let (name, rest) ← readName false cs
        return (c :: name, rest)
      else fail .nameCharacter (.first (c :: cs))

/-- Opens a group with a name; `cs` begins with the name. -/
def openNamed (s : State) (place : Stretch) (cs : List Char) :
    Except Finding (State × List Char) := do
  let (name, rest) ← readName true cs
  let here : Stretch := ⟨cs.length, rest.length + 1⟩
  if name.isEmpty then fail .emptyName (.before cs)
  else
    match s.names.lookup name with
    | some earlier => .error ⟨.repeatedName, here, some earlier⟩
    | none =>
        let s := { s with names := (name, here) :: s.names }
        return (s.openGroup place s.mode rest, rest)

/-- The characters that stand for flags. -/
def flagChars : List Char := ['i', 'm', 's', 'U', 'u', 'R', 'x']

/-- Reads flags up to a colon or a closing parenthesis, which stays. -/
def readFlags (read : List (Char × Stretch)) :
    List Char → Except Finding (List (Char × Stretch) × List Char)
  | [] => fail .missingFlag (.before [])
  | c :: cs =>
      let here := Stretch.first (c :: cs)
      if c = ':' ∨ c = ')' then
        match read with
        | ('-', place) :: _ => fail .danglingNegation place
        | _ => .ok (read.reverse, c :: cs)
      else if c ≠ '-' ∧ c ∉ flagChars then fail .unknownFlag here
      else
        match read.lookup c with
        | some earlier =>
            .error ⟨if c = '-' then .repeatedNegation else .repeatedFlag, here, some earlier⟩
        | none => readFlags ((c, here) :: read) cs

/-- How a pattern is read behind flags; those behind a hyphen are put out. -/
def Mode.withFlags (m : Mode) (on : Bool) : List Char → Mode
  | [] => m
  | '-' :: flags => m.withFlags false flags
  | 'x' :: flags => { m with spaced := on }.withFlags on flags
  | 'i' :: flags => { m with folded := on }.withFlags on flags
  | 'u' :: flags => { m with wide := on }.withFlags on flags
  | _ :: flags => m.withFlags on flags

/-- Reads flags, which hold from here on or for a group; `cs` begins with the
question mark. -/
def setFlags (s : State) (place : Stretch) (cs : List Char) :
    Except Finding (State × List Char) := do
  if (cs.drop 1).isEmpty then fail .unclosedGroup place
  else
    let (flags, rest) ← readFlags [] (cs.drop 1)
    let mode := s.mode.withFlags true (flags.map (·.1))
    match rest with
    | ')' :: rest =>
        if flags.isEmpty then fail .noOperand (.before cs)
        else return (s.flagsRead ⟨place.start, rest.length⟩ mode, rest)
    | _ => return (s.openGroup place mode (rest.drop 1), rest.drop 1)

/-- Reads what begins at an opening parenthesis. -/
def readOpening (s : State) (cs : List Char) : Except Finding (State × List Char) :=
  let place := Stretch.first cs
  let inner := s.mode.skip (cs.drop 1)
  match inner with
  | '?' :: '!' :: rest | '?' :: '<' :: '!' :: rest => fail .lookAround (.between cs rest)
  | '?' :: 'P' :: '<' :: name | '?' :: '<' :: name => openNamed s place name
  | '?' :: _ => setFlags s place inner
  | _ => .ok (s.openGroup place s.mode inner, inner)

/-! ## Counted repetitions -/

/-- What is wrong with a count. It begins with a brace, and there is no brace
to close it. -/
def countFinding (m : Mode) (cs : List Char) : Finding :=
  let number := (m.skip (cs.drop 1)).dropWhile isBlank
  let (digits, behind) := m.takeWhile Char.isDigit number
  let rest := behind.dropWhile isBlank
  if rest.isEmpty then ⟨.unclosedCount, .between cs [], none⟩
  else
    match readUnsigned 10 UInt32.size digits with
    | .ok _ => ⟨.unclosedCount, .between cs rest, none⟩
    | .error .empty => ⟨.countDigits, .before number, none⟩
    | .error _ => ⟨.largeNumber, .between number behind, none⟩

/-! ## Whole patterns -/

/-- Reads one step of a pattern: a parenthesis, an operator or an atom. -/
def step (s : State) (c : Char) (rest : List Char) : Except Finding (State × List Char) :=
  let cs := c :: rest
  match c with
  | '(' => readOpening s cs
  | ')' =>
      match s.groups with
      | [] => fail .unopenedGroup (.first cs)
      | g :: groups => .ok (s.closeGroup g groups cs, rest)
  | '|' => .ok ({ s with body := s.body.alternate cs, operand := false }, rest)
  | '[' => do
      let read ← readClass s.mode cs
      return (s.operandRead read.part read.refused, read.rest)
  | '?' | '*' | '+' =>
      if s.operand then
        let rest := if rest.head? = some '?' then rest.drop 1 else rest
        .ok ({ s with body := s.body.repeatLast rest }, rest)
      else fail .noOperand (.before cs)
  | '\x7b' =>
      if s.operand then .error (countFinding s.mode cs) else fail .noOperand (.before cs)
  | '\\' => do
      let (atom, rest) ← readEscape s.mode cs
      return (s.atomRead atom (.between cs rest), rest)
  | '.' =>
      let refused : Option Finding :=
        if s.mode.wide then none else some ⟨.invalidEncoding, .first cs, none⟩
      .ok (s.operandRead { place := .first cs } refused, rest)
  | '^' | '$' => .ok (s.operandRead { place := .first cs } none, rest)
  | c => .ok (s.atomRead (.literal c false) (.first cs), rest)

/-- Reads a pattern to its end. Every step takes a character at least. -/
def readSteps : Nat → State → List Char → Except Finding State
  | 0, s, _ => .ok s
  | fuel + 1, s, cs =>
      match s.mode.skip cs with
      | c :: rest => do
          let (s, rest) ← step s c rest
          readSteps fuel s rest
      | [] =>
          match s.groups with
          | [] => .ok s
          | g :: _ => fail .unclosedGroup g.place

/-- Checks a pattern. -/
def check (pattern : List Char) : Except Fault Unit :=
  match readSteps (pattern.length + 1) { body := .empty pattern } pattern with
  | .error f => .error (.finding pattern f)
  | .ok s =>
      -- The form is sound from here on.
      match (s.body.close []).tooDeep? <|> s.refused with
      | some f => .error (.finding pattern f)
      | none => if s.boundary then .error .boundary else .ok ()

end Pattern

end PciBus

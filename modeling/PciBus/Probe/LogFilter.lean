import PciBus.Pattern
import PciBus.Probe.Failure
import PciBus.Text.Alphanumeric
import PciBus.Text.Cut
import PciBus.Text.Decimal
import PciBus.Text.Numeral

/-!
# Log filters

What a probe logs is chosen by directives with commas between them. Each is a
target, a level, or a target, a span in square brackets and a level:
`target[span{field=value}]=level`, where every part may be left out. A value
is a truth value, a number or a pattern. A directive may have blanks around
it as long as it gives no level.
-/

namespace PciBus

open Text

namespace Probe

/-- Why a log filter is refused. -/
inductive LogFault where
  /-- A directive has another form. -/
  | directive
  /-- What stands as the level of a directive is none. -/
  | level
  /-- The value of a field is a pattern that is refused. -/
  | value (e : Pattern.Fault)
  deriving DecidableEq, Repr

/-- What the fault is put down to, the nearest cause first. -/
def LogFault.causes : LogFault → List String
  | .directive => ["invalid filter directive"]
  | .level =>
      List.replicate 2 <| "error parsing level filter: expected one of \"off\", \"error\", " ++
        "\"warn\", \"info\", \"debug\", \"trace\", or a number 0-5"
  | .value e => s!"invalid field filter: {e.message}" :: e.message :: e.causes

/-! ## Levels -/

def levelNames : List String := ["off", "error", "warn", "info", "debug", "trace"]

/-- A level's name in either case, or its number. Without a text every level
is meant. -/
def isLevel (cs : List Char) : Bool :=
  cs.isEmpty || levelNames.contains (String.ofList (cs.map Char.toLower)) ||
    match readUnsigned 10 UInt64.size cs with
    | .ok n => n ≤ 5
    | .error _ => false

/-! ## Fields -/

namespace LogFilter

/-- Checks the value of a field. -/
def checkValue (cs : List Char) : Except LogFault Unit :=
  if ["true", "false"].contains (String.ofList cs) || isDecimal cs then .ok ()
  else (Pattern.check cs).mapError .value

/-- Checks a field. Its value stands behind the first equals sign, and a
second one ends it. -/
def checkField (cs : List Char) : Except LogFault Unit :=
  match cutFirst '=' cs with
  | none => .ok ()
  | some (_, value) => checkValue (value.takeWhile (· != '='))

/-! ## Directives -/

/-- The number of bytes of a text in UTF-8. -/
def byteCount (cs : List Char) : Nat := cs.foldl (fun count c => count + c.utf8Size) 0

/-- The characters that begin between two byte offsets of a text, the end not
included. -/
def byteSlice (start stop : Nat) : List Char → List Char
  | [] => []
  | c :: cs =>
      let rest := byteSlice (start - c.utf8Size) (stop - c.utf8Size) cs
      if start = 0 ∧ 0 < stop then c :: rest else rest

/-- Whether a target may begin with a character. -/
def beginsTarget (c : Char) : Bool :=
  isAlphanumeric c || c == '-' || c == ':' || c == '_'

/-- Checks what stands behind an equals sign in a directive `whole`. -/
def checkLevel (whole cs : List Char) : Except LogFault Unit :=
  if trim whole = whole ∧ isLevel cs then .ok () else .error .level

/-- Checks what stands behind a span: nothing, or a level. -/
def checkEnd (whole : List Char) : List Char → Except LogFault Unit
  | [] => .ok ()
  | '=' :: level => checkLevel whole level
  | _ => .error .directive

/-- Checks a span from behind its opening bracket. A field is where the
trimmed directive has it, but is read from the whole one, so that blanks in
front shift what is read. -/
def checkSpan (whole cs : List Char) : Except LogFault Unit :=
  match cs.dropWhile fun c => c != ']' && c != '\x7b' with
  | [] => .error .directive
  | ']' :: rest => checkEnd whole rest
  | _ :: inner =>
      match cutFirst '\x7d' inner with
      | none | some ([], _) => .error .directive
      | some (field, rest) => do
          let start := byteCount (trim whole) - byteCount inner
          checkField (byteSlice start (start + byteCount field) whole)
          match rest with
          | ']' :: rest => checkEnd whole rest
          | _ => .error .directive

/-- Checks one directive. -/
def checkDirective (whole : List Char) : Except LogFault Unit :=
  match trim whole with
  | [] => .error .directive
  | '[' :: span => checkSpan whole span
  | c :: rest =>
      if beginsTarget c then
        match rest.dropWhile fun c => c != '=' && c != '[' with
        | [] => .ok ()
        | '=' :: level => checkLevel whole level
        | _ :: span => checkSpan whole span
      else .error .directive

/-- Checks the directives of a filter; the first that is refused decides. An
empty one stands for nothing. -/
def check (text : String) : Except LogFault Unit :=
  ((pieces ',' text.toList).filter (!·.isEmpty)).forM checkDirective

end LogFilter

end Probe

end PciBus

import PciBus.Fault

/-!
# Failures and their causes

A failure that is reported to an operator has a message and the messages of
what caused it, the nearest cause first. Whoever passes a failure on may put
a message of its own in front.
-/

namespace PciBus

/-- A message and the causes below it. -/
structure Failure where
  message : String
  causes : List String := []
  deriving DecidableEq, Repr

namespace Failure

def ofFault (e : Fault) : Failure := ⟨e.message, e.causes⟩

/-- What was being done when the failure came up. -/
def during (f : Failure) (activity : String) : Failure := ⟨activity, f.message :: f.causes⟩

/-- A cause in a column of its own: `label` before the first line, as much
space before the others. -/
def indented (label cause : String) : String :=
  let margin := "\n" ++ "".pushn ' ' label.length
  label ++ margin.intercalate (cause.splitOn "\n")

/-- The causes as they are listed: numbered if there is more than one. -/
def causeTexts : List String → List String
  | [cause] => [indented "    " cause]
  | causes => causes.zipIdx.map fun (cause, n) =>
      let number := s!"{n}"
      indented ("".pushn ' ' (5 - number.length) ++ number ++ ": ") cause

/-- The whole failure as it is printed. -/
def text (f : Failure) : String :=
  match f.causes with
  | [] => s!"Error: {f.message}\n"
  | causes =>
      s!"Error: {f.message}\n\nCaused by:\n" ++
        String.join ((causeTexts causes).map (· ++ "\n"))

end Failure

end PciBus

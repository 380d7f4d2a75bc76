import PciBus.Scan
import PciBus.Session

/-!
# Settings

Where the devices are, which name database to use and which location to
keep to: from the environment, or from a parameter text
`key=value,key=value`. Values are trimmed, and blank ones do not count.
-/

namespace PciBus

open Text

structure Settings where
  root : String := defaultRoot
  /-- The file with the name database; without one, that of the system is
  used. -/
  names : Option String := none
  filter : Option Filter := none
  deriving DecidableEq, Repr

/-- The environment of a program: the bytes of each variable. -/
abbrev Environment := List (String × Bytes)

/-- The bytes of a variable, if it is set. -/
def Environment.bytes? (env : Environment) (name : String) : Option Bytes :=
  env.lookup name

/-- The text of a variable, trimmed. A variable that is not valid UTF-8
counts as unset, and so does a blank one. -/
def Environment.text? (env : Environment) (name : String) : Option String := do
  let bytes ← env.bytes? name
  let text ← String.fromUTF8? ⟨bytes⟩
  let value := trim text.toList
  if value = [] then none else some (String.ofList value)

namespace Settings

/-! ## The environment -/

def rootVariable : String := "PCIDEV_SYSFS_ROOT"

def namesVariable : String := "PCIDEV_PCI_IDS"

def filterVariable : String := "PCIDEV_PCI"

/-- Reads a filter as part of the settings. -/
def readFilter (text : String) : Except Fault Filter :=
  (Filter.read text).mapError .badFilter

/-- The settings that the environment asks for. -/
def ofEnvironment (env : Environment) : Except Fault Settings := do
  let filter ← (env.text? filterVariable).mapM readFilter
  return {
    root := (env.text? rootVariable).getD defaultRoot
    names := env.text? namesVariable
    filter := filter }

/-! ## Parameters -/

/-- The parameters of a text, trimmed, without the blank ones. -/
def segments (text : String) : List (List Char) :=
  ((pieces ',' text.toList).map trim).filter (!·.isEmpty)

/-- The key of the parameter that holds a filter. -/
def filterKey : List Char := ['p', 'c', 'i']

/-- Takes the filter out of the parameters and answers the others. `seen`
says that there has been a filter already. What was set stays set when a
later parameter fails. -/
def applySegments (seen : Bool) : List (List Char) → Action Settings (List (String × String))
  | [] => return []
  | segment :: rest =>
      match cutFirst '=' segment with
      | none => Action.fail (.badParameter (.noValueSign (String.ofList segment)))
      | some (key, value) =>
          let key := trim key
          let value := trim value
          if value = [] then Action.fail (.badParameter (.noValue (String.ofList key)))
          else if key ≠ filterKey then do
            let others ← applySegments seen rest
            return (String.ofList key, String.ofList value) :: others
          else if seen then Action.fail (.badParameter .repeatedFilter)
          else do
            let filter ← Logged.ofExcept (readFilter (String.ofList value))
            Action.modify fun settings => { settings with filter := some filter }
            applySegments true rest

/-- Applies a parameter text and answers the parameters that mean nothing
here, in their order. -/
def apply (text : String) : Action Settings (List (String × String)) :=
  applySegments false (segments text)

/-- The defaults with a parameter text applied, and the parameters that mean
nothing here. -/
def ofParameters (text : String) : Except Fault (Settings × List (String × String)) := do
  let (answer, settings) := apply text {}
  return (settings, ← answer.result)

/-! ## Use -/

/-- What the settings ask of a device. -/
def wanted (settings : Settings) : Wanted := { filter := settings.filter }

/-- Scans the tree, with the name database that is asked for, if one is. -/
def scan (settings : Settings) (files : Files) : Logged Scan := do
  let scan ← Scan.take files settings.root
  match settings.names with
  | some path => scan.withNames files path
  | none => return scan

/-- A session for the devices under the root. -/
def session (settings : Settings) : Session := { root := settings.root }

end Settings

end PciBus

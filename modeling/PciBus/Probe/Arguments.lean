import PciBus.Bytes
import PciBus.Text.Cut
import PciBus.Text.Numeral
import PciBus.Text.Quoted
import PciBus.Text.Terminal

/-!
# Arguments

What an operator asks of a probe: which devices are accepted, where to look,
and which register to read. An option stands as `--key=value` or as `--key`
with the value in the next argument, and only `--id` may be given more than
once. A value from an argument of its own is looked at when the next option
comes or the arguments end, so an argument that means nothing is reported
before a bad value in front of it.
-/

namespace PciBus

open Text

namespace Probe

/-! ## Options -/

/-- The options that take a value. -/
inductive Key where
  | id
  | filter
  | bar
  | root
  | names
  | read
  | logLevel
  deriving DecidableEq, Repr

namespace Key

/-- The name that stands after `--`. -/
def name : Key → String
  | .id => "id"
  | .filter => "pci"
  | .bar => "bar"
  | .root => "sysfs-root"
  | .names => "pci-ids"
  | .read => "read"
  | .logLevel => "log-level"

/-- What the value is called. -/
def placeholder : Key → String
  | .id => "VVVV:DDDD"
  | .filter => "BB:DD.F"
  | .bar => "BAR"
  | .root => "PATH"
  | .names => "PATH"
  | .read => "OFFSET"
  | .logLevel => "LOG_LEVEL"

/-- How messages show the option. -/
def text (key : Key) : String := s!"--{key.name} <{key.placeholder}>"

def all : List Key := [.id, .filter, .bar, .root, .names, .read, .logLevel]

def ofName? (name : String) : Option Key := all.find? (·.name == name)

/-- Every option is found under its name. -/
@[simp] theorem ofName?_name (key : Key) : ofName? key.name = some key := by
  cases key <;> rfl

end Key

/-- A vendor and a device number. -/
structure DeviceId where
  vendor : UInt16
  device : UInt16
  deriving DecidableEq, Repr

/-- The options that were given. -/
structure Options where
  ids : List DeviceId := []
  filter : Option String := none
  bar : Option UInt64 := none
  root : Option String := none
  names : Option String := none
  /-- The offset of the register to read. -/
  read : Option UInt64 := none
  /-- The log filter. -/
  logLevel : Option String := none
  deriving DecidableEq, Repr

/-- Why an argument list is refused. -/
inductive Refusal where
  /-- Nothing is known by this name, or no argument may stand here. -/
  | unexpected (argument : String)
  | noValue (key : Key)
  | repeated (key : Key)
  | badValue (key : Key) (value reason : String)
  /-- A value is given to something that takes none. -/
  | surplus (flag value : String)
  /-- The variable with the log filter is not valid UTF-8. -/
  | notText
  /-- No device is accepted. -/
  | noIds
  deriving DecidableEq, Repr

/-- The wording of each refusal. What was given is repeated as a terminal
shows it. -/
def Refusal.message : Refusal → String
  | .unexpected argument => s!"unexpected argument '{shown argument}' found"
  | .noValue key => s!"a value is required for '{key.text}' but none was supplied"
  | .repeated key => s!"the argument '{key.text}' cannot be used multiple times"
  | .badValue key value reason => s!"invalid value '{shown value}' for '{key.text}': {reason}"
  | .surplus flag value =>
      s!"unexpected value '{shown value}' for '{flag}' found; no more were expected"
  | .notText => "invalid UTF-8 was detected in one or more arguments"
  | .noIds => s!"the following required arguments were not provided:\n  {Key.id.text}"

/-! ## Values -/

/-- Reads one half of a device number pair. -/
def readIdHalf (cs : List Char) : Except String UInt16 :=
  match readUnsigned 16 UInt16.size cs with
  | .ok n => .ok (.ofNat n)
  | .error fault => .error s!"invalid ID {quote (String.ofList cs)}: {fault.message}"

/-- Reads a device number pair. Of two bad halves the vendor is reported. -/
def DeviceId.read (value : String) : Except String DeviceId := do
  match cutFirst ':' value.toList with
  | none => .error s!"expected VVVV:DDDD, got {quote value}"
  | some (vendor, device) => return ⟨← readIdHalf vendor, ← readIdHalf device⟩

/-- Reads a BAR number. It is not checked against the number of BARs. -/
def readBarNumber (value : String) : Except String UInt64 :=
  match readUnsigned 10 UInt64.size value.toList with
  | .ok n => .ok (.ofNat n)
  | .error fault => .error fault.message

/-- Reads an offset: hexadecimal after `0x` or `0X`, otherwise decimal. -/
def readOffset (value : String) : Except String UInt64 :=
  let number :=
    match value.toList with
    | '0' :: 'x' :: digits => readUnsigned 16 UInt64.size digits
    | '0' :: 'X' :: digits => readUnsigned 16 UInt64.size digits
    | digits => readUnsigned 10 UInt64.size digits
  match number with
  | .ok n => .ok (.ofNat n)
  | .error fault => .error s!"invalid offset {quote value}: {fault.message}"

/-- The value of an option that may be given once. -/
def once (key : Key) (old : Option α) (value : String) (read : String → Except String α) :
    Except Refusal (Option α) :=
  if old.isSome then .error (.repeated key)
  else
    match read value with
    | .ok a => .ok (some a)
    | .error reason => .error (.badValue key value reason)

/-- The value of an option that holds a path, which is never empty. -/
def oncePath (key : Key) (old : Option String) (value : String) :
    Except Refusal (Option String) := do
  let path ← once key old value .ok
  if value = "" then .error (.noValue key) else return path

namespace Options

/-- The options with one more value. -/
def set (o : Options) (key : Key) (value : String) : Except Refusal Options := do
  match key with
  | .id =>
      match DeviceId.read value with
      | .ok id => return { o with ids := o.ids ++ [id] }
      | .error reason => .error (.badValue .id value reason)
  | .filter => return { o with filter := ← once key o.filter value .ok }
  | .bar => return { o with bar := ← once key o.bar value readBarNumber }
  | .root => return { o with root := ← oncePath key o.root value }
  | .names => return { o with names := ← oncePath key o.names value }
  | .read => return { o with read := ← once key o.read value readOffset }
  | .logLevel => return { o with logLevel := ← once key o.logLevel value .ok }

end Options

/-! ## Words -/

/-- What an argument is when it is no value. -/
inductive Word where
  /-- An option, with the value behind the equals sign if there is one. -/
  | option (key : Key) (value : Option String)
  | help
  | version
  /-- A flag with a value. -/
  | flagged (flag value : String)
  /-- The mark after which no options stand. -/
  | ending
  /-- Something that looks like an option and is none. -/
  | unknown (name : String)
  | plain
  deriving DecidableEq, Repr

/-- The word for an option name, with what stands behind the equals sign. -/
def Word.ofLong (name : String) (value : Option String) : Word :=
  match Key.ofName? name, value with
  | some key, value => .option key value
  | none, some value =>
      if name = "help" ∨ name = "version" then .flagged s!"--{name}" value
      else .unknown s!"--{name}"
  | none, none =>
      if name = "help" then .help
      else if name = "version" then .version
      else .unknown s!"--{name}"

/-- A lone `-` is plain. -/
def Word.ofArgument (argument : String) : Word :=
  match argument.toList with
  | ['-', '-'] => .ending
  | '-' :: '-' :: rest =>
      match cutFirst '=' rest with
      | some (name, value) => .ofLong (String.ofList name) (some (String.ofList value))
      | none => .ofLong (String.ofList rest) none
  | '-' :: 'h' :: _ => .help
  | '-' :: 'V' :: _ => .version
  | '-' :: c :: _ => .unknown (String.ofList ['-', c])
  | _ => .plain

/-! ## Argument lists -/

/-- An option whose value has an argument of its own, and that value once it
has come. -/
structure Waiting where
  key : Key
  value : Option String := none
  deriving DecidableEq, Repr

/-- What an argument list asks for. -/
inductive Request where
  | help
  | version
  | probe (options : Options)
  deriving DecidableEq, Repr

/-- Takes over the value of the option that waits. -/
def Options.settle (o : Options) : Option Waiting → Except Refusal Options
  | none => .ok o
  | some ⟨key, none⟩ => .error (.noValue key)
  | some ⟨key, some value⟩ => o.set key value

/-- The options with the log filter of the environment where none is given. -/
def Options.withLog (o : Options) (log : Option Bytes) : Except Refusal Options :=
  match o.logLevel, log with
  | none, some bytes =>
      match String.fromUTF8? ⟨bytes⟩ with
      | some text => .ok { o with logLevel := some text }
      | none => .error .notText
  | _, _ => .ok o

/-- The request at the end of the arguments. -/
def finish (log : Option Bytes) (o : Options) (waiting : Option Waiting) :
    Except Refusal Request := do
  let o ← (← o.settle waiting).withLog log
  if o.ids.isEmpty then .error .noIds else return .probe o

/-- Whether an option waits for its value. -/
def wantsValue (waiting : Option Waiting) : Option Key :=
  match waiting with
  | some ⟨key, none⟩ => some key
  | _ => none

/-- Reads the arguments from left to right. -/
def readFrom (log : Option Bytes) (o : Options) (waiting : Option Waiting) :
    List String → Except Refusal Request
  | [] => finish log o waiting
  | argument :: rest =>
      match Word.ofArgument argument with
      | .option key none => do readFrom log (← o.settle waiting) (some ⟨key, none⟩) rest
      | .option key (some value) => do
          let o ← o.settle waiting
          readFrom log (← o.set key value) none rest
      | .help => do
          let _ ← o.settle waiting
          return .help
      | .version => do
          let _ ← o.settle waiting
          return .version
      | .flagged flag value => .error (.surplus flag value)
      | .unknown name => .error (.unexpected name)
      | .ending =>
          match rest with
          | [] => finish log o waiting
          | other :: _ => .error (.unexpected other)
      | .plain =>
          match wantsValue waiting with
          | some key => readFrom log o (some ⟨key, some argument⟩) rest
          | none => .error (.unexpected argument)

/-- Reads an argument list; `log` is what the environment says of the log
filter. -/
def Request.read (log : Option Bytes) (arguments : List String) : Except Refusal Request :=
  readFrom log {} none arguments

end Probe

end PciBus

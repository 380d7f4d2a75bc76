import PciBus.Bar
import PciBus.Cleanup
import PciBus.Handle
import PciBus.Whitelist

/-!
# Sessions

A session holds at most one context and the cleanup actions registered
against it. Installing a context registers its release, and every config
write registers the value to be written back, so that running the actions
last first peels the writes off in reverse and releases the context last.
-/

namespace PciBus

open Text

/-- Where the system keeps its functions. -/
def defaultRoot : String := "/sys/bus/pci/devices"

/-- A session; `root` is where its devices have their directories. -/
structure Session where
  context : Option Context := none
  registry : Registry := {}
  root : String := defaultRoot

/-- A session at work on a machine. -/
structure Bench where
  session : Session := {}
  machine : Machine := {}

namespace Bench

/-- An action on the files of the machine. -/
def onFiles (x : Action Files α) : Action Bench α :=
  x.within (·.machine.files) fun bench files => { bench with machine.files := files }

/-- An action on the machine. -/
def onMachine (x : Action Machine α) : Action Bench α :=
  x.within (·.machine) fun bench machine => { bench with machine := machine }

/-- An action on the registry of the session. -/
def onRegistry (x : Action Registry α) : Action Bench α :=
  x.within (·.session.registry) fun bench registry => { bench with session.registry := registry }

/-- The installed context. -/
def context : Action Bench Context := do
  match (← Action.get).session.context with
  | some context => return context
  | none => Action.fail .noContext

def setContext (context : Option Context) : Action Bench Unit :=
  Action.modify fun bench => { bench with session.context := context }

end Bench

/-- What a device has to satisfy beside being supported: its location, and a
BAR that decodes to an address other than zero. -/
structure Wanted where
  filter : Option Filter := none
  bar : Option UInt16 := none
  deriving DecidableEq, Repr

/-- What a driver calls a device. -/
structure Names where
  vendor : String
  device : String
  deriving DecidableEq, Repr

/-- How many actions were run, and how many of them failed. -/
structure ShutdownReport where
  executed : Nat := 0
  failed : Nat := 0
  deriving DecidableEq, Repr

def ShutdownReport.isClean (r : ShutdownReport) : Bool := r.failed = 0

namespace Session

/-! ## The context -/

/-- Installs a context and registers its release. -/
def install (context : Context) : Action Bench Unit := do
  if (← Action.get).session.context.isSome then
    Action.note .error
      ("tried to allocate a new PCI context, but there is still an old one; please " ++
        "report a bug")
    Action.fail .contextInstalled
  else
    Bench.onRegistry (Registry.register .release)
    Bench.setContext (some context)

/-- Takes the context out; answers whether there was one. Registers can no
longer be written back then. -/
def release : Action Bench Bool := do
  let bench ← Action.get
  Bench.setContext none
  return bench.session.context.isSome

/-! ## Resolving -/

/-- Whether the BAR at an offset of a function decodes to an address other
than zero. One that cannot be decoded does not. -/
def hasAddress (context : Context) (m : Machine) (offset : UInt16) (record : Record) :
    Logged Bool := do
  let location := record.location
  match ← (Bar.classify (context.read m location) location offset Bar.nativeBits).attempt with
  | .ok bar => return bar.address ≠ 0
  | .error _ => return false

/-- Installs a context and resolves one device in it. -/
def find (context : Context) (whitelist : Whitelist Names) (wanted : Wanted) :
    Action Bench Record := do
  install context
  let m := (← Action.get).machine
  let usable := fun record =>
    match wanted.bar with
    | none => pure true
    | some offset => hasAddress context m offset record
  let (record, entry) ←
    whitelist.select (wanted.filter.getD .any) usable (context.records m)
  let title := entry.tag.vendor ++ " " ++ entry.tag.device
  Action.note .info s!"Found \"{title}\" ({record.idText}, BDF {record.location.short})"
  return record

/-- Installs a context, resolves one device in it and switches the device
on. If that fails, the handle is given up. -/
def openDevice {τ : Type} (context : Context) (whitelist : Whitelist τ) (wanted : Wanted) :
    Action Bench (Handle τ) := do
  install context
  let bench ← Action.get
  let (record, entry) ←
    whitelist.select (wanted.filter.getD .any) (fun _ => pure true)
      (context.records bench.machine)
  let name := (context.name? bench.machine record.vendor record.device).getD "unknown"
  Action.note .info s!"Detected {record.idText}@{record.location.short} \"{name}\""
  let handle : Handle τ :=
    { name := name
      record := record
      path := Files.join bench.session.root record.location.name
      tag := entry.tag }
  match ← (Bench.onFiles handle.enable).attempt with
  | .ok handle => return handle
  | .error e =>
      Bench.onFiles handle.drop
      Action.fail e

/-! ## Config space -/

/-- Writes a register, after registering that what it holds is to be written
back. -/
def writeConfig (location : Location) (register : UInt16) (value : Value) :
    Action Bench Unit := do
  let context ← Bench.context
  let m := (← Action.get).machine
  let undo ← Logged.ofExcept (Undo.capture context m location register value.width)
  Bench.onRegistry (Registry.register (.restore undo))
  Bench.onMachine <| Action.change fun m =>
    context.write m location register value.width value.raw

def readConfig (location : Location) (register : UInt16) (width : Width) :
    Action Bench UInt32 := do
  let context ← Bench.context
  Logged.ofExcept (context.read (← Action.get).machine location register width)

/-- Decodes the BAR at an offset of a function. -/
def classifyBar (location : Location) (offset : UInt16) : Action Bench Bar := do
  let context ← Bench.context
  let m := (← Action.get).machine
  Bar.classify (context.read m location) location offset Bar.nativeBits

/-! ## Ending -/

/-- Registers a callback. -/
def registerCallback (name : String) (effect : Action Machine Unit) : Action Bench Unit :=
  Bench.onRegistry (Registry.register (.callback name effect))

/-- Runs one action. -/
def run : Cleanup → Action Bench Unit
  | .release => do
      if (← Action.get).session.context.isNone then
        Action.note .debug "PCI context already released"
      Bench.setContext none
  | .restore undo => do
      let bench ← Action.get
      Bench.onMachine (undo.restore bench.session.context)
  | .callback name effect => do
      Bench.onMachine <| Action.modify fun m => { m with called := m.called ++ [name] }
      match ← (Bench.onMachine effect).attempt with
      | .ok () => pure ()
      | .error e =>
          Action.note .error "shutdown callback failed"
            [("callback", name), ("error", e.message)]
          Action.fail e

/-- Runs actions one after the other, whether or not they fail. -/
def runAll : List Cleanup → Action Bench ShutdownReport
  | [] => return {}
  | action :: rest => do
      let result ← (run action).attempt
      let report ← runAll rest
      let failed := if result.toBool then 0 else 1
      return ⟨report.executed + 1, report.failed + failed⟩

/-- Runs every action that is due, last registered first. -/
def shutdown : Action Bench ShutdownReport := do
  let due := (← Action.get).session.registry.due
  Action.modify fun bench => { bench with session.registry := {} }
  let report ← runAll due
  Action.note .debug "PCI session shut down"
    [("executed", s!"{report.executed}"), ("failed", s!"{report.failed}")]
  return report

/-- Gives the session up; that shuts it down if anything is due. -/
def drop : Action Bench Unit := do
  if !(← Action.get).session.registry.isEmpty then
    let _ ← shutdown

end Session

end PciBus

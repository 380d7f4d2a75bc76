import PciBus.Context

/-!
# Cleanup actions

What a session has to do before it ends: release its context, write a
register back, run a callback. The actions are kept last first, which is the
order they are run in.
-/

namespace PciBus

open Text

/-! ## Undoing a write -/

/-- The value a register held before it was written to. -/
structure Undo where
  location : Location
  register : UInt16
  previous : Value
  deriving DecidableEq, Repr

namespace Undo

/-- Notes what a register holds, at the width of the write to come. -/
def capture (context : Context) (m : Machine) (location : Location) (register : UInt16)
    (width : Width) : Except Fault Undo := do
  return ⟨location, register, .ofRaw width (← context.read m location register width)⟩

/-- Writes the value back at the same width. It takes a context that still
enumerates the function. -/
def restore (undo : Undo) : Option Context → Action Machine Unit
  | none => do
      Action.note .error
        "tried to undo PCI writes without a valid PCI context; please report a bug"
        [("bdf", undo.location.short)]
      Action.fail .noContext
  | some context => do
      let m ← Action.get
      if (context.find? m undo.location).isNone then
        Action.note .error
          "tried to undo PCI writes without a valid PCI device; please report a bug"
          [("bdf", undo.location.short)]
        Action.fail (.gone undo.location)
      else
        Action.note .debug
          (s!"restoring PCI config space for {undo.location.short} " ++
            s!"reg 0x{hex 2 undo.register.toNat}")
        let write := Action.change fun m : Machine =>
          context.write m undo.location undo.register undo.previous.width undo.previous.raw
        match ← write.attempt with
        | .ok () => pure ()
        | .error e =>
            Action.note .error "failed to restore PCI config space"
              [("bdf", undo.location.short), ("register", s!"{undo.register.toNat}"),
                ("error", e.message)]
            Action.fail e

/-- How the log writes an undo. -/
def text (undo : Undo) : String :=
  s!"UndoEntry \x7b bdf: {undo.location.text}, register: {undo.register.toNat}, " ++
    s!"previous: {undo.previous.text} \x7d"

end Undo

/-! ## Actions -/

/-- One thing to do when a session ends. A callback has a name for the log,
and may do anything to the machine before it answers. -/
inductive Cleanup where
  | release
  | restore (undo : Undo)
  | callback (name : String) (effect : Action Machine Unit)

/-- How the log writes an action. -/
def Cleanup.text : Cleanup → String
  | .release => "ReleaseContext"
  | .restore undo => s!"RestoreConfig({undo.text})"
  | .callback name _ => s!"Callback \x7b name: {quote name} \x7d"

/-- The actions that are due, last registered first. -/
structure Registry where
  due : List Cleanup := []

namespace Registry

def size (r : Registry) : Nat := r.due.length

def isEmpty (r : Registry) : Bool := r.due.isEmpty

/-- Adds an action, to be run before all that are there. -/
def register (action : Cleanup) : Action Registry Unit := do
  Action.note .trace "registered shutdown action" [("action", action.text)]
  Action.modify fun r => ⟨action :: r.due⟩

/-- The action to run next, and the registry without it. -/
def pop (r : Registry) : Option (Cleanup × Registry) :=
  match r.due with
  | [] => none
  | action :: rest => some (action, ⟨rest⟩)

/-- How the log writes a registry: the actions in the order of their
registration. -/
def text (r : Registry) : String :=
  let actions := ", ".intercalate (r.due.reverse.map Cleanup.text)
  s!"ShutdownRegistry \x7b actions: [{actions}] \x7d"

end Registry

end PciBus

import PciBus.Mapping
import PciBus.Record

/-!
# Device handles

A handle is a resolved device in its directory: it switches the device on
through the file `enable`, maps a BAR through one of the files `resource0`
to `resource5`, and takes both back when it is closed. It remembers whether
it found the device switched off; only then does it switch it off again. A
handle is a value: an operation that fails leaves the one there was.
-/

namespace PciBus

open Text

/-- A resolved device. The tag is whatever the caller attached to it. -/
structure Handle (τ : Type) where
  name : String
  record : Record
  /-- The device's directory. -/
  path : String
  tag : τ
  mapping : Option Mapping := none
  enabled : Bool := false
  /-- The device was found switched off and this handle switched it on. -/
  wasDisabled : Bool := false

namespace Handle

variable {τ : Type}

/-! ## Files of the directory -/

/-- Opens a file of the directory for reading and writing. -/
def openFile (files : Files) (path : String) : Logged Nat :=
  match files.fileAt path with
  | .ok id => return id
  | .error e => do
      Logged.note .error s!"failed to open {path}: {e.message}"
      Logged.fail (.file .opening path e)

/-- The first byte of the enable file. -/
def readFlag (files : Files) (path : String) (id : Nat) : Logged UInt8 :=
  if (files.bytes id).size = 0 then Logged.fail (.file .reading path .endOfFile)
  else return (files.bytes id).byteAt 0

/-- The byte `0`. -/
def flagOff : UInt8 := 0x30

/-- The byte `1`. -/
def flagOn : UInt8 := 0x31

/-- Refuses a flag that is neither `0` nor `1`. -/
def refuseFlag {α : Type} (path : String) (flag : UInt8) : Logged α := do
  let shown := Char.ofNat flag.toNat
  Logged.note .error s!"invalid value read from {path}: {quoteChar shown}"
  Logged.fail (.badFlag path shown)

def flagPath (h : Handle τ) : String := Files.join h.path "enable"

def resourcePath (h : Handle τ) (bar : UInt64) : String :=
  Files.join h.path s!"resource{bar.toNat}"

/-! ## Switching on and off -/

/-- Switches the device on if it is off, and remembers that it was. -/
def enable (h : Handle τ) : Action Files (Handle τ) := do
  if h.enabled then return h
  else
    let files ← Action.get
    let id ← openFile files h.flagPath
    let flag ← readFlag files h.flagPath id
    let found ←
      if flag = flagOff then do
        Action.modify (·.write id 0 [flagOn])
        pure true
      else if flag = flagOn then pure h.wasDisabled
      else liftM (refuseFlag (α := Bool) h.flagPath flag)
    Action.note .debug "device enabled"
      [("device", h.record.location.short), ("was_disabled", s!"{found}")]
    return { h with enabled := true, wasDisabled := found }

/-- Switches the device off, if this handle has ever switched it on. -/
def disable (h : Handle τ) : Action Files (Handle τ) := do
  if !h.enabled || !h.wasDisabled then return h
  else
    let files ← Action.get
    let id ← openFile files h.flagPath
    let flag ← readFlag files h.flagPath id
    if flag = flagOn then Action.modify (·.write id 0 [flagOff])
    else if flag = flagOff then pure ()
    else liftM (refuseFlag (α := Unit) h.flagPath flag)
    Action.note .debug "device disabled" [("device", h.record.location.short)]
    return { h with enabled := false }

/-! ## Mapping a BAR -/

/-- Maps the whole of a BAR. While a mapping of the same size is live this
does nothing, and while one of another size is live it is refused. -/
def map (h : Handle τ) (files : Files) (bar : UInt64) : Logged (Handle τ) := do
  if hbar : bar.toNat < 6 then
    let declared := h.record.sizes[bar.toNat]
    match h.mapping with
    | some live =>
        if live.size = declared then return h
        else
          Logged.note .error s!"already mapped BAR: 0x{hex 1 live.size.toNat} bytes @ PTR"
            [("device", h.record.location.short)]
          Logged.fail (.alreadyMapped live.size declared)
    | none =>
        let path := h.resourcePath bar
        let id ← openFile files path
        match ← (Mapping.ofFile files id path declared).attempt with
        | .ok mapping => return { h with mapping := some mapping }
        | .error e =>
            Logged.note .error s!"mapping {path} failed" [("error", e.message)]
            Logged.fail e
  else
    Logged.note .error s!"invalid BAR provided: {bar.toNat}"
      [("device", h.record.location.short)]
    Logged.fail (.badBar bar)

/-- Gives the mapping up, if there is one. -/
def unmap (h : Handle τ) : Logged (Handle τ) := do
  match h.mapping with
  | some mapping => mapping.release
  | none => pure ()
  return { h with mapping := none }

/-- The length of the mapping, zero when nothing is mapped. -/
def mappedSize (h : Handle τ) : UInt64 :=
  match h.mapping with
  | some mapping => mapping.size
  | none => 0

/-- The mapping, as every access through the handle needs it. -/
def mapped (h : Handle τ) : Logged Mapping :=
  match h.mapping with
  | some mapping => return mapping
  | none => Logged.fail .notMapped

def read (h : Handle τ) (files : Files) (cell : Cell) (address : UInt64) : Logged UInt32 := do
  (← h.mapped).read files cell address

def write (h : Handle τ) (cell : Cell) (address : UInt64) (value : UInt32) :
    Action Files Unit := do
  (← h.mapped).write cell address value

def writeMasked (h : Handle τ) (cell : Cell) (address : UInt64) (value mask : UInt32) :
    Action Files Unit := do
  (← h.mapped).writeMasked cell address value mask

/-! ## Closing -/

/-- Gives the mapping up, then switches the device off if this handle
switched it on. A failure to do so is reported. -/
def close (h : Handle τ) : Action Files Unit := do
  let h ← liftM h.unmap
  let _ ← h.disable

/-- Closes a handle that nobody waits for: a failure is only logged. -/
def drop (h : Handle τ) : Action Files Unit := do
  match ← h.close.attempt with
  | .ok () => pure ()
  | .error e =>
      Action.note .error "device teardown failed"
        [("device", h.record.location.short), ("error", e.message)]

end Handle

end PciBus

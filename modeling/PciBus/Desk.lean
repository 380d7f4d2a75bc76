import PciBus.Handle

/-!
# Handles in place

A caller keeps a handle and has it changed. Here it stands on a desk, beside
the files that it works on: a call sets each field when it comes to it, and
where it fails, what was set before stays set.
-/

namespace PciBus

/-- A handle and the files that it works on. -/
structure Desk (τ : Type) where
  handle : Handle τ
  files : Files

namespace Desk

variable {τ : Type}

/-- Sets fields of the handle. -/
def assign (change : Handle τ → Handle τ) : Action (Desk τ) Unit :=
  Action.modify fun d => { d with handle := change d.handle }

/-- Works on the files alone. -/
def onFiles {α : Type} (x : Action Files α) : Action (Desk τ) α :=
  Action.within (·.files) (fun d files => { d with files := files }) x

/-- Does what the flag calls for: writes it and then does `written`, leaves it
as it is, or refuses it. -/
def settleFlag (path : String) (id : Nat) (flag before after : UInt8)
    (written : Action (Desk τ) Unit) : Action (Desk τ) Unit :=
  if flag = before then do
    onFiles (Action.modify (·.write id 0 [after]))
    written
  else if flag = after then pure ()
  else liftM (Handle.refuseFlag (α := Unit) path flag)

open Handle in
/-- Switches the device on. The flag is written first; then the handle
remembers that it was clear, and last that it is enabled. -/
def enable : Action (Desk τ) Unit := do
  let d ← Action.get
  if d.handle.enabled then return ()
  else
    let id ← openFile d.files d.handle.flagPath
    let flag ← readFlag d.files d.handle.flagPath id
    settleFlag d.handle.flagPath id flag flagOff flagOn (assign ({ · with wasDisabled := true }))
    let found ← Action.get
    Action.note .debug "device enabled"
      [("device", d.handle.record.location.short), ("was_disabled", s!"{found.handle.wasDisabled}")]
    assign ({ · with enabled := true })

open Handle in
/-- Switches the device off, if this handle has ever switched it on. -/
def disable : Action (Desk τ) Unit := do
  let d ← Action.get
  if !d.handle.enabled || !d.handle.wasDisabled then return ()
  else
    let id ← openFile d.files d.handle.flagPath
    let flag ← readFlag d.files d.handle.flagPath id
    settleFlag d.handle.flagPath id flag flagOn flagOff (pure ())
    Action.note .debug "device disabled" [("device", d.handle.record.location.short)]
    assign ({ · with enabled := false })

/-- Maps the whole of a BAR; the handle gets the mapping when there is one. -/
def map (bar : UInt64) : Action (Desk τ) Unit := do
  let d ← Action.get
  if hbar : bar.toNat < 6 then
    let declared := d.handle.record.sizes[bar.toNat]
    match d.handle.mapping with
    | some live =>
        if live.size = declared then return ()
        else
          Action.note .error s!"already mapped BAR: 0x{Text.hex 1 live.size.toNat} bytes @ PTR"
            [("device", d.handle.record.location.short)]
          Action.fail (.alreadyMapped live.size declared)
    | none =>
        let path := d.handle.resourcePath bar
        let id ← Handle.openFile d.files path
        match ← liftM (Mapping.ofFile d.files id path declared).attempt with
        | .ok mapping => assign ({ · with mapping := some mapping })
        | .error e =>
            Action.note .error s!"mapping {path} failed" [("error", e.message)]
            Action.fail e
  else
    Action.note .error s!"invalid BAR provided: {bar.toNat}"
      [("device", d.handle.record.location.short)]
    Action.fail (.badBar bar)

/-- Gives the mapping up, if there is one. -/
def unmap : Action (Desk τ) Unit := do
  let d ← Action.get
  liftM (d.handle.mapping.elim (pure ()) Mapping.release : Logged Unit)
  assign ({ · with mapping := none })

end Desk

end PciBus

import PciBus.Proofs.Handle.Confined
import PciBus.Proofs.Session.Pending

/-!
# A session keeps off the files of a handle

Of the files, a session reads and writes those that go by the name `config`.
Here a call on it is run on two machines that agree in everything but a
territory. It answers and logs the same on both, leaves machines that agree
outside the territory again, and shows nowhere inside. So do all the turns of a
drain (`Session.paired_runAll`) and every call (`SessionCall.paired`), if the
callbacks keep off the territory, too (`StaysOut`).
-/

namespace PciBus

/-! ## Everything but the territory -/

namespace Territory

variable {t : Territory}

/-- Two machines that agree in everything but the territory. -/
structure SameElsewhere (t : Territory) (m m' : Machine) : Prop where
  buses : m.buses = m'.buses
  locked : m.locked = m'.locked
  called : m.called = m'.called
  files : t.outside m.files m'.files

def elsewhere (t : Territory) : Setoid Machine where
  r := t.SameElsewhere
  iseqv := {
    refl := fun m => ⟨rfl, rfl, rfl, t.outside.refl m.files⟩
    symm := fun h => ⟨h.buses.symm, h.locked.symm, h.called.symm, t.outside.symm h.files⟩
    trans := fun h h' => ⟨h.buses.trans h'.buses, h.locked.trans h'.locked,
      h.called.trans h'.called, t.outside.trans h.files h'.files⟩ }

/-- Two machines that agree inside the territory. -/
def held (t : Territory) : Setoid Machine := t.inside.comap Machine.files

/-- The same session on two machines that agree in everything but the
territory. -/
structure SameBeside (t : Territory) (b b' : Bench) : Prop where
  session : b.session = b'.session
  machine : t.elsewhere b.machine b'.machine

def beside (t : Territory) : Setoid Bench where
  r := t.SameBeside
  iseqv := {
    refl := fun b => ⟨rfl, t.elsewhere.refl b.machine⟩
    symm := fun h => ⟨h.session.symm, t.elsewhere.symm h.machine⟩
    trans := fun h h' => ⟨h.session.trans h'.session, t.elsewhere.trans h.machine h'.machine⟩ }

/-- Two benches whose machines agree inside the territory. -/
def heldOn (t : Territory) : Setoid Bench := t.held.comap Bench.machine

end Territory

/-- A callback keeps off a territory that is marked off: it does not look
there, and changes nothing there. -/
def StaysOut (t : Territory) (effect : Action Machine Unit) : Prop :=
  ∀ m m', t.Stands m.files → t.elsewhere m m' → Paired t.elsewhere t.held effect effect m m'

/-- All callbacks among the actions keep off it. -/
def AllStayOut (t : Territory) (due : List Cleanup) : Prop :=
  ∀ name effect, .callback name effect ∈ due → StaysOut t effect

variable {t : Territory} {m m' : Machine}

/-! ## Config space -/

namespace Scan

variable {a b : Files} (scan : Scan) (location : Location) (offset : UInt16) (width : Width)

theorem read_eq (hstands : t.Stands a) (hab : t.outside a b) :
    scan.read a location offset width = scan.read b location offset width := by
  unfold read
  dsimp only
  rw [← Files.fileAt_congr hab.entries]
  cases hfile : a.fileAt (scan.configPath location) with
  | error e => cases e <;> rfl
  | ok id =>
      have hnot : ¬ t.owns id := hstands.not_owns_config hfile
      dsimp only
      rw [(hab.files id hnot).bytes]

/-- A write fails on both trees, or it concerns the same file of both, and that
is no file of the territory. -/
theorem write_cases (hstands : t.Stands a) (hab : t.outside a b) (value : UInt32) :
    (∃ e, scan.write a location offset width value = .error e ∧
      scan.write b location offset width value = .error e) ∨
    ∃ id change, ¬ t.owns id ∧ Files.Edits id change ∧
      scan.write a location offset width value = .ok (change a) ∧
      scan.write b location offset width value = .ok (change b) := by
  unfold write
  dsimp only
  rw [← Files.fileAt_congr hab.entries]
  cases hfile : a.fileAt (scan.configPath location) with
  | error e => exact .inl ⟨_, rfl, rfl⟩
  | ok id =>
      exact .inr ⟨id, _, hstands.not_owns_config hfile, Files.edits_write id _ _, rfl, rfl⟩

end Scan

namespace Context

variable (context : Context) (location : Location) (offset : UInt16) (width : Width)

theorem read_eq (hstands : t.Stands m.files) (hm : t.elsewhere m m') :
    context.read m location offset width = context.read m' location offset width := by
  cases context with
  | bus id | guarded id => rw [read, read, Machine.bus, Machine.bus, hm.buses]
  | tree scan => exact scan.read_eq location offset width hstands hm.files

theorem find?_eq (hm : t.elsewhere m m') :
    context.find? m location = context.find? m' location := by
  cases context with
  | bus id | guarded id => rw [find?, find?, Machine.bus, Machine.bus, hm.buses]
  | tree scan => rfl

/-- Two attempts to change machines that agree elsewhere: both are refused, or
both go through, leave machines that agree elsewhere, and leave the territory
alone. -/
inductive Together (t : Territory) (m : Machine) :
    Except Fault Machine → Except Fault Machine → Prop
  | refused (e : Fault) : Together t m (.error e) (.error e)
  | through {p p' : Machine} (agree : t.elsewhere p p') (spares : t.held m p) :
      Together t m (.ok p) (.ok p')

theorem setBus_together (hm : t.elsewhere m m') (id : Nat) (written : Except Fault Bus) :
    Together t m (do return m.setBus id (← written)) (do return m'.setBus id (← written)) := by
  cases written with
  | error e => exact .refused e
  | ok bus =>
      refine .through ⟨?_, hm.locked, hm.called, hm.files⟩ (t.inside.refl m.files)
      rw [Machine.setBus, Machine.setBus, hm.buses]

theorem write_together (hstands : t.Stands m.files) (hm : t.elsewhere m m') (value : UInt32) :
    Together t m (context.write m location offset width value)
      (context.write m' location offset width value) := by
  have hbus : ∀ id, m'.bus id = m.bus id := fun id => by rw [Machine.bus, Machine.bus, hm.buses]
  cases context with
  | bus id =>
      simp only [write, hbus]
      exact setBus_together hm id _
  | guarded id =>
      simp only [write, hbus, ← hm.locked]
      split
      · exact .refused _
      · exact setBus_together hm id _
  | tree scan =>
      rcases scan.write_cases location offset width hstands hm.files value with
        ⟨e, hwrite, hwrite'⟩ | ⟨id, change, hnot, hedits, hwrite, hwrite'⟩
      · rw [write, write, hwrite, hwrite']
        exact .refused e
      · rw [write, write, hwrite, hwrite']
        exact .through ⟨hm.buses, hm.locked, hm.called, hm.files.edits hedits⟩
          (Territory.inside_of_edits hedits hnot m.files)

theorem paired_write (hstands : t.Stands m.files) (hm : t.elsewhere m m') (value : UInt32) :
    Paired t.elsewhere t.held
      (Action.change fun m => context.write m location offset width value)
      (Action.change fun m => context.write m location offset width value) m m' := by
  have htogether := context.write_together location offset width hstands hm value
  generalize hwrite : context.write m location offset width value = r at htogether
  generalize hwrite' : context.write m' location offset width value = r' at htogether
  cases htogether with
  | refused e => exact .refused hwrite hwrite' hm
  | through agree spares => exact .changed hwrite hwrite' agree spares

end Context

/-! ## Undoing a write -/

namespace Undo

theorem capture_eq (hstands : t.Stands m.files) (hm : t.elsewhere m m') (context : Context)
    (location : Location) (register : UInt16) (width : Width) :
    capture context m location register width = capture context m' location register width := by
  rw [capture, capture, context.read_eq location register width hstands hm]

theorem paired_restore (hstands : t.Stands m.files) (hm : t.elsewhere m m') (undo : Undo)
    (context : Option Context) :
    Paired t.elsewhere t.held (undo.restore context) (undo.restore context) m m' := by
  cases context with
  | none => exact .note hm (.still rfl rfl hm)
  | some context =>
      unfold restore
      refine .get ?_
      dsimp only
      rw [context.find?_eq undo.location hm]
      split
      · exact .note hm (.still rfl rfl hm)
      · refine .note hm ?_
        have hwrite := context.paired_write undo.location undo.register undo.previous.width
          hstands hm undo.previous.raw
        refine .bind hwrite.attempt fun result _ hafter _ => ?_
        cases result with
        | ok u => exact .still rfl rfl hafter
        | error e => exact .note hafter (.still rfl rfl hafter)

end Undo

/-! ## Calls on a session -/

variable {b b' : Bench}

namespace Bench

theorem paired_onMachine {α : Type} {x x' : Action Machine α}
    (hx : Paired t.elsewhere t.held x x' b.machine b'.machine) (hb : t.beside b b') :
    Paired t.beside t.heldOn (onMachine x) (onMachine x') b b' :=
  .within hx (fun _ _ hafter => ⟨hb.session, hafter⟩) fun _ hheld => hheld

theorem paired_context (hb : t.beside b b') :
    Paired t.beside t.heldOn Bench.context Bench.context b b' := by
  unfold Bench.context
  refine .get ?_
  rw [← hb.session]
  cases b.session.context with
  | some context => exact .still rfl rfl hb
  | none => exact .still rfl rfl hb

theorem paired_setContext (hb : t.beside b b') (context : Option Context) :
    Paired t.beside t.heldOn (setContext context) (setContext context) b b' :=
  .modify ⟨by rw [hb.session], hb.machine⟩ (t.heldOn.refl b)

theorem paired_register (hb : t.beside b b') (action : Cleanup) :
    Paired t.beside t.heldOn (onRegistry (Registry.register action))
      (onRegistry (Registry.register action)) b b' := by
  have hregister : ∀ b, onRegistry (Registry.register action) b =
      (Logged.note .trace "registered shutdown action" [("action", action.text)],
        b.push action) := fun _ => rfl
  refine .made (hregister b) (hregister b') ?_ (t.heldOn.refl b)
  exact ⟨by rw [push, push, hb.session], hb.machine⟩

end Bench

namespace Session

theorem paired_read (hstands : t.Stands b.machine.files) (hb : t.beside b b')
    (location : Location) (register : UInt16) (width : Width) :
    Paired t.beside t.heldOn (readConfig location register width)
      (readConfig location register width) b b' := by
  unfold readConfig
  refine .bind (Bench.paired_context hb) fun context _ hb hheld => ?_
  refine .get ?_
  have hread := context.read_eq location register width (hstands.of_inside hheld) hb.machine
  exact .still rfl (by rw [hread]; rfl) hb

/-- The value that is to be written back is the same, too. -/
theorem paired_write (hstands : t.Stands b.machine.files) (hb : t.beside b b')
    (location : Location) (register : UInt16) (value : Value) :
    Paired t.beside t.heldOn (writeConfig location register value)
      (writeConfig location register value) b b' := by
  unfold writeConfig
  refine .bind (Bench.paired_context hb) fun context _ hb hheld => ?_
  have hstands := hstands.of_inside hheld
  refine .get ?_
  dsimp only
  rw [← Undo.capture_eq hstands hb.machine]
  refine .lift rfl hb fun undo _ => ?_
  refine .bind (Bench.paired_register hb _) fun _ _ hb hheld => ?_
  exact Bench.paired_onMachine
    (context.paired_write location register value.width (hstands.of_inside hheld) hb.machine _) hb

theorem paired_release (hb : t.beside b b') :
    Paired t.beside t.heldOn release release b b' := by
  unfold release
  refine .get ?_
  refine .bind (Bench.paired_setContext hb none) fun _ _ hafter _ => ?_
  exact .still rfl (by rw [hb.session]; rfl) hafter

/-! ## Turns of a drain -/

theorem paired_run (hstands : t.Stands b.machine.files) (hb : t.beside b b') {action : Cleanup}
    (haction : AllStayOut t [action]) :
    Paired t.beside t.heldOn (run action) (run action) b b' := by
  cases action with
  | release =>
      unfold run
      refine .get ?_
      rw [← hb.session]
      dsimp only
      split
      · exact .note hb (Bench.paired_setContext hb none)
      · exact Bench.paired_setContext hb none
  | restore undo =>
      unfold run
      refine .get ?_
      rw [← hb.session]
      exact Bench.paired_onMachine (undo.paired_restore hstands hb.machine _) hb
  | callback name effect =>
      have heffect : StaysOut t effect := haction name effect (List.mem_singleton_self _)
      unfold run
      have hnamed : Paired t.elsewhere t.held
          (Action.modify fun m : Machine => { m with called := m.called ++ [name] })
          (Action.modify fun m : Machine => { m with called := m.called ++ [name] })
          b.machine b'.machine :=
        .modify ⟨hb.machine.buses, hb.machine.locked, by rw [hb.machine.called],
          hb.machine.files⟩ (t.held.refl b.machine)
      refine .bind (Bench.paired_onMachine hnamed hb) fun _ _ hb hheld => ?_
      have hcalled := heffect _ _ (hstands.of_inside hheld) hb.machine
      refine .bind (Bench.paired_onMachine hcalled hb).attempt fun result _ hafter _ => ?_
      cases result with
      | ok u => exact .still rfl rfl hafter
      | error e => exact .note hafter (.still rfl rfl hafter)

/-- A drain cannot tell the two machines apart, nor does it show inside: each
turn leaves the territory marked off for the next. -/
theorem paired_runAll {due : List Cleanup} (hdue : AllStayOut t due)
    (hstands : t.Stands b.machine.files) (hb : t.beside b b') :
    Paired t.beside t.heldOn (runAll due) (runAll due) b b' := by
  induction due generalizing b b' with
  | nil => exact .still rfl rfl hb
  | cons action rest ih =>
      have haction : AllStayOut t [action] := fun name effect hmem =>
        hdue name effect (List.mem_singleton.mp hmem ▸ List.mem_cons_self)
      have hrest : AllStayOut t rest := fun name effect hmem =>
        hdue name effect (List.mem_cons_of_mem action hmem)
      unfold runAll
      refine .bind (paired_run hstands hb haction).attempt fun result _ hb hheld => ?_
      refine .bind (ih hrest (hstands.of_inside hheld) hb) fun report _ hafter _ => ?_
      exact .still rfl rfl hafter

theorem paired_shutdown (hdue : AllStayOut t b.session.registry.due)
    (hstands : t.Stands b.machine.files) (hb : t.beside b b') :
    Paired t.beside t.heldOn shutdown shutdown b b' := by
  unfold shutdown
  refine .get ?_
  dsimp only
  rw [← hb.session]
  have hcleared : Paired t.beside t.heldOn
      (Action.modify fun bench : Bench => { bench with session.registry := {} })
      (Action.modify fun bench : Bench => { bench with session.registry := {} }) b b' :=
    .modify ⟨by rw [hb.session], hb.machine⟩ (t.heldOn.refl b)
  refine .bind hcleared fun _ _ hb hheld => ?_
  refine .bind (paired_runAll hdue (hstands.of_inside hheld) hb) fun report _ hafter _ => ?_
  exact .noted hafter

theorem paired_drop (hdue : AllStayOut t b.session.registry.due)
    (hstands : t.Stands b.machine.files) (hb : t.beside b b') :
    Paired t.beside t.heldOn drop drop b b' := by
  unfold drop
  refine .get ?_
  rw [← hb.session]
  split
  · exact .bind (paired_shutdown hdue hstands hb) fun _ _ hafter _ => .still rfl rfl hafter
  · exact .still rfl rfl hb

end Session

/-! ## Calls -/

/-- A call on a session that is at work. -/
inductive SessionCall where
  | read (location : Location) (register : UInt16) (width : Width)
  | write (location : Location) (register : UInt16) (value : Value)
  | callback (name : String) (effect : Action Machine Unit)
  | release
  | shutdown
  | drop

/-- What a call on a session answers. -/
inductive Reply where
  | number (value : UInt32)
  /-- Whether there was a context. -/
  | released (held : Bool)
  | report (report : ShutdownReport)
  | done
  deriving DecidableEq

namespace SessionCall

def run : SessionCall → Action Bench Reply
  | .read location register width => do
      return .number (← Session.readConfig location register width)
  | .write location register value => do
      Session.writeConfig location register value
      return .done
  | .callback name effect => do
      Session.registerCallback name effect
      return .done
  | .release => do return .released (← Session.release)
  | .shutdown => do return .report (← Session.shutdown)
  | .drop => do
      Session.drop
      return .done

/-- The call as a step of a run. -/
def step : SessionCall → Step
  | .read location register width => .read location register width
  | .write location register value => .write location register value
  | .callback name effect => .callback name effect
  | .release => .release
  | .shutdown => .shutdown
  | .drop => .drop

theorem run_state (call : SessionCall) (b : Bench) : (call.run b).2 = call.step.perform b := by
  cases call <;> exact Action.state_return _ _ b

/-- If the call registers a callback, it keeps off the territory. -/
def StaysOut (t : Territory) : SessionCall → Prop
  | .callback _ effect => PciBus.StaysOut t effect
  | _ => True

variable {call : SessionCall}

/-- **A call on a session keeps off the territory.** -/
theorem paired (hdue : AllStayOut t b.session.registry.due) (hstands : t.Stands b.machine.files)
    (hb : t.beside b b') (call : SessionCall) :
    Paired t.beside t.heldOn call.run call.run b b' := by
  have hreturn : ∀ {α : Type} {x : Action Bench α} {f : α → Reply},
      Paired t.beside t.heldOn x x b b' →
      Paired t.beside t.heldOn (do return f (← x)) (do return f (← x)) b b' :=
    fun hx => .bind hx fun _ _ hafter _ => .still rfl rfl hafter
  cases call with
  | read location register width =>
      exact hreturn (Session.paired_read hstands hb location register width)
  | write location register value =>
      exact hreturn (Session.paired_write hstands hb location register value)
  | callback name effect => exact hreturn (Bench.paired_register hb _)
  | release => exact hreturn (Session.paired_release hb)
  | shutdown => exact hreturn (Session.paired_shutdown hdue hstands hb)
  | drop => exact hreturn (Session.paired_drop hdue hstands hb)

/-- What is due after a call was due before, or the call has registered it. -/
theorem allStayOut_run (hdue : AllStayOut t b.session.registry.due) (hcall : call.StaysOut t) :
    AllStayOut t (call.run b).2.session.registry.due := by
  intro name effect hmem
  rw [run_state] at hmem
  by_cases hdrains : call.step.Drains
  · rw [(Step.due_of_drains hdrains b).2] at hmem
    cases hmem
  · obtain ⟨more, hadds⟩ := Step.adds hdrains b
    rw [hadds.due] at hmem
    rcases List.mem_append.mp hmem with hnew | hold
    · have hstep := hadds.callback name effect hnew
      cases call with
      | callback =>
          obtain ⟨rfl, rfl⟩ := Step.callback.inj hstep
          exact hcall
      | _ => cases hstep
    · exact hdue name effect hold

end SessionCall

end PciBus

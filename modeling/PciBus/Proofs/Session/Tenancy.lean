import PciBus.Proofs.Scan.Enumeration
import PciBus.Proofs.Session.Pending
import PciBus.Proofs.Session.Rollback

/-!
# Hot-plug under a session

Functions come and go while a session is at work on their bus. An undo knows
its function by the location only, so what matters is which of the functions
that were ever plugged in there is the tenant when it was captured, and which
one when it has its turn (`Machine.tenant?`).

- Only plugging and unplugging change who is where: calls of the session do
  not (`Step.perform_unmoved`), and neither do the turns of a drain
  (`Unmoved.drained`).
- So who is at a location after a run is read off the run
  (`played_present`), and without an arrival there is nobody but the one who
  was there before (`housed_of_no_arrival`).

Every write of a shutdown is a restore that goes through
(`shutdown_journal`). It reaches the function that it was captured from
exactly if none was plugged in there since (`rollback_reaches_its_tenant`).
-/

namespace PciBus

variable {id : Nat} {location : Location} {b : Bench}

/-! ## Incidents -/

/-- One thing that happens while a session is at work on a bus: a call, a
function plugged in or taken off, a write of another handle, a new lock. -/
inductive Incident where
  | call (step : Step)
  | plug (location : Location) (card : Card)
  | unplug (location : Location)
  | write (location : Location) (offset : UInt16) (width : Width) (value : UInt32)
  | lock (locations : List Location)

def KeepsBuses (effect : Action Machine Unit) : Prop := ∀ m, (effect m).2.buses = m.buses

/-- The step is a call that installs no context but one on the bus. -/
def Step.KeepsTo (id : Nat) : Step → Prop
  | .outside _ => False
  | .callback _ effect => KeepsBuses effect
  | step => ∀ context, step.installs? = some context → context.busId? = some id

namespace Incident

/-- The step of a run that the incident is, on a bus. -/
def step (id : Nat) : Incident → Step
  | .call step => step
  | .plug location card => .outside fun m => m.setBus id ((m.bus id).plug location card)
  | .unplug location => .outside fun m => m.setBus id ((m.bus id).unplug location)
  | .write location offset width value =>
      .outside fun m => ((Context.bus id).write m location offset width value).toOption.getD m
  | .lock locations => .outside fun m => { m with locked := locations }

def KeepsTo (id : Nat) : Incident → Prop
  | .call step => step.KeepsTo id
  | _ => True

def plugsAt (location : Location) : Incident → Bool
  | .plug other _ => other = location
  | _ => false

def unplugsAt (location : Location) : Incident → Bool
  | .unplug other => other = location
  | _ => false

/-- Whether there is a function at the location after the incident. -/
def houses (location : Location) (present : Bool) (incident : Incident) : Bool :=
  incident.plugsAt location || (present && !incident.unplugsAt location)

@[simp] theorem houses_call (location : Location) (present : Bool) (step : Step) :
    houses location present (.call step) = present := by simp [houses, plugsAt, unplugsAt]

end Incident

def played (id : Nat) (run : List Incident) (b : Bench) : Bench :=
  after (run.map (Incident.step id)) b

/-- How many functions the run plugs in at a location. -/
def arrivals (location : Location) (run : List Incident) : Nat :=
  run.countP (·.plugsAt location)

/-- The run takes a function off at the location. -/
def departs (location : Location) (run : List Incident) : Bool :=
  run.any (·.unplugsAt location)

/-- Which function is at a location after a run: the one that the run plugged
in there as its `n`th, or, for `n = 0`, the one that was there before. -/
def Machine.tenant? (m : Machine) (id : Nat) (location : Location) (run : List Incident) :
    Option Nat :=
  (m.slot? id location).map fun _ => arrivals location run

@[simp] theorem Machine.isSome_tenant? (m : Machine) (id : Nat) (location : Location)
    (run : List Incident) : (m.tenant? id location run).isSome = (m.slot? id location).isSome :=
  Option.isSome_map

theorem Machine.tenant?_eq_none_iff {m : Machine} {run : List Incident} :
    m.tenant? id location run = none ↔ (m.slot? id location).isSome = false := by
  rw [← m.isSome_tenant? id location run, Option.isSome_eq_false_iff, Option.isNone_iff_eq_none]

/-- Without an arrival there is nobody but the one who was there before. -/
theorem housed_of_no_arrival {run : List Incident} (h : arrivals location run = 0)
    (present : Bool) : run.foldl (Incident.houses location) present =
      (present && !departs location run) := by
  induction run generalizing present with
  | nil => simp [departs]
  | cons incident rest ih =>
      rw [arrivals, List.countP_cons, Nat.add_eq_zero_iff] at h
      obtain ⟨hrest, hfirst⟩ := h
      have hplugs : incident.plugsAt location = false := by simpa using hfirst
      rw [List.foldl_cons, ih hrest, Incident.houses, hplugs, departs, departs, List.any_cons,
        Bool.not_or, Bool.false_or, Bool.and_assoc]

/-! ## Who is where -/

/-- The same places of the bus are taken. -/
structure Unmoved (id : Nat) (m m' : Machine) : Prop where
  made : m'.buses.length = m.buses.length
  present : ∀ location, (m'.slot? id location).isSome = (m.slot? id location).isSome

namespace Unmoved

variable {m m' m'' : Machine} {context : Context}

theorem refl (m : Machine) : Unmoved id m m := ⟨rfl, fun _ => rfl⟩

theorem trans (h : Unmoved id m m') (h' : Unmoved id m' m'') : Unmoved id m m'' :=
  ⟨h'.made.trans h.made, fun location => (h'.present location).trans (h.present location)⟩

theorem of_buses (h : m'.buses = m.buses) : Unmoved id m m' := by
  refine ⟨by rw [h], fun location => ?_⟩
  rw [Machine.slot?, Machine.bus, h]
  rfl

theorem write {target : Location} {offset : UInt16} {width : Width} {value : UInt32}
    (hbus : context.busId? = some id)
    (h : context.write m target offset width value = .ok m') : Unmoved id m m' := by
  refine ⟨?_, fun location => by rw [Context.slot?_write hbus h, Option.isSome_map]⟩
  obtain ⟨-, bus, -, rfl⟩ := (Context.write_eq_ok_iff hbus).mp h
  exact List.length_set

theorem attempted {target : Location} {offset : UInt16} {width : Width} {value : UInt32}
    (hbus : context.busId? = some id) :
    Unmoved id m ((context.write m target offset width value).toOption.getD m) := by
  cases h : context.write m target offset width value with
  | error e => exact refl m
  | ok after => exact write hbus h

theorem written (hon : b.OnBus id) (target : Location) (offset : UInt16) (width : Width)
    (value : UInt32) :
    Unmoved id b.machine (Session.written target offset width value b) := by
  rw [Session.written]
  split
  · exact refl b.machine
  · rename_i context hcontext
    exact attempted (hon context hcontext)

/-- What a turn does with a bus is at most a write. -/
theorem turn (turn : Turn) (hon : turn.bench.OnBus id)
    (hkeeps : ∀ name effect, turn.action = .callback name effect → KeepsBuses effect) :
    Unmoved id turn.bench.machine turn.left.machine := by
  obtain ⟨action, b⟩ := turn
  cases action with
  | release =>
      rw [Turn.left_release]
      exact refl b.machine
  | restore undo =>
      rw [Turn.left_restore, Turn.restored]
      split
      · exact refl b.machine
      · rename_i context hcontext
        split
        · exact attempted (hon context hcontext)
        · exact refl b.machine
  | callback name effect =>
      rw [Turn.left_callback]
      exact of_buses (hkeeps name effect rfl _)

end Unmoved

def AllKeepBuses (due : List Cleanup) : Prop :=
  ∀ name effect, .callback name effect ∈ due → KeepsBuses effect

theorem Unmoved.drained {due : List Cleanup} (hon : b.OnBus id) (hkeeps : AllKeepBuses due) :
    Unmoved id b.machine (drained due b).machine ∧ (PciBus.drained due b).OnBus id := by
  induction due generalizing b with
  | nil => exact ⟨refl b.machine, hon⟩
  | cons action rest ih =>
      have hturn : Unmoved id b.machine (Turn.left ⟨action, b⟩).machine :=
        Unmoved.turn ⟨action, b⟩ hon fun name effect h =>
          hkeeps name effect (h ▸ List.mem_cons_self)
      have hleft : (Turn.left ⟨action, b⟩).OnBus id := Turn.left_onBus ⟨action, b⟩ hon
      obtain ⟨hrest, hlast⟩ := ih hleft fun name effect h =>
        hkeeps name effect (List.mem_cons_of_mem _ h)
      exact ⟨hturn.trans hrest, hlast⟩

/-! ## A session that keeps to its bus -/

/-- The bus of the session exists, its context is there, and what is due will
leave the buses to the restores. -/
structure Tidy (id : Nat) (b : Bench) : Prop where
  made : id < b.machine.buses.length
  onBus : b.OnBus id
  keeps : AllKeepBuses b.session.registry.due

/-- A call changes nothing about who is where. -/
theorem Step.perform_unmoved {step : Step} (hstep : step.KeepsTo id) (h : Tidy id b) :
    Unmoved id b.machine (step.perform b).machine := by
  have hdrain : Unmoved id b.machine (Session.shutdown b).2.machine := by
    rw [Session.shutdown_state]
    exact (Unmoved.drained (b := b.cleared) h.onBus h.keeps).1
  cases hinstalls : step.installs? with
  | some context =>
      cases hcontext : b.session.context with
      | none =>
          obtain ⟨files, hperform⟩ := perform_of_installs hinstalls hcontext
          rw [hperform]
          exact .of_buses rfl
      | some old =>
          rw [perform_of_refused hinstalls hcontext]
          exact .refl b.machine
  | none =>
      cases step with
      | install | find | openDevice => cases hinstalls
      | outside => exact hstep.elim
      | release | callback => exact .refl b.machine
      | shutdown => exact hdrain
      | drop =>
          rw [perform, Session.drop_state]
          exact hdrain
      | read target register width =>
          rw [perform, Session.readConfig_state]
          exact .refl b.machine
      | writeThrough target offset width value =>
          rw [perform, Session.writeThrough_state]
          exact .written h.onBus target offset width value
      | write target register value =>
          cases hcaptured : Session.captured? target register value.width b with
          | none =>
              rw [perform, Session.writeConfig_refused hcaptured]
              exact .refl b.machine
          | some undo =>
              rw [perform, Session.writeConfig_captured hcaptured]
              exact .written h.onBus target register value.width value.raw

theorem Step.perform_tidy {step : Step} (hstep : step.KeepsTo id) (h : Tidy id b) :
    Tidy id (step.perform b) := by
  have hmade : id < (step.perform b).machine.buses.length := by
    rw [(Step.perform_unmoved hstep h).made]
    exact h.made
  by_cases hdrains : step.Drains
  · obtain ⟨hperform, hdue⟩ := Step.due_of_drains hdrains b
    refine ⟨hmade, ?_, by rw [hdue]; intro _ _ hmem; cases hmem⟩
    rw [hperform, Session.shutdown_state]
    exact (Unmoved.drained (b := b.cleared) h.onBus h.keeps).2
  · obtain ⟨more, hadds⟩ := Step.adds hdrains b
    refine ⟨hmade, fun context hcontext => ?_, fun name effect hmem => ?_⟩
    · rcases hadds.context with ⟨-, hinstalls⟩ | hnone | hsame
      · rw [hinstalls] at hcontext
        cases step with
        | install | find | openDevice => exact hstep context hcontext
        | _ => cases hcontext
      · rw [hnone] at hcontext
        cases hcontext
      · exact h.onBus context (hsame ▸ hcontext)
    · rw [hadds.due] at hmem
      rcases List.mem_append.mp hmem with hmore | hold
      · obtain rfl := hadds.callback name effect hmore
        exact hstep
      · exact h.keeps name effect hold

theorem Incident.unmoved_write (target : Location) (offset : UInt16) (width : Width)
    (value : UInt32) : Unmoved id b.machine
      (((Incident.write target offset width value).step id).perform b).machine :=
  .attempted rfl

/-- Outside the calls, only plugging and unplugging change who is where. -/
theorem Incident.perform_present {incident : Incident} (hincident : incident.KeepsTo id)
    (h : Tidy id b) (location : Location) :
    (((incident.step id).perform b).machine.slot? id location).isSome =
      incident.houses location (b.machine.slot? id location).isSome := by
  cases incident with
  | call step =>
      rw [show Incident.step id (.call step) = step from rfl,
        (Step.perform_unmoved hincident h).present, houses_call]
  | plug other card =>
      show ((b.machine.setBus id _).slot? id location).isSome = _
      rw [Machine.slot?, Machine.bus_setBus_self _ h.made, Bus.find?_plug]
      by_cases hsame : other = location <;> simp [houses, plugsAt, unplugsAt, hsame, Machine.slot?]
  | unplug other =>
      show ((b.machine.setBus id _).slot? id location).isSome = _
      rw [Machine.slot?, Machine.bus_setBus_self _ h.made, Bus.find?_unplug]
      by_cases hsame : other = location <;> simp [houses, plugsAt, unplugsAt, hsame, Machine.slot?]
  | write target offset width value =>
      rw [(unmoved_write target offset width value).present]
      simp [houses, plugsAt, unplugsAt]
  | lock locations =>
      have hlock : Unmoved id b.machine (((Incident.lock locations).step id).perform b).machine :=
        .of_buses rfl
      rw [hlock.present]
      simp [houses, plugsAt, unplugsAt]

theorem Incident.perform_tidy {incident : Incident} (hincident : incident.KeepsTo id)
    (h : Tidy id b) : Tidy id ((incident.step id).perform b) := by
  have hlength : ∀ bus, id < (b.machine.setBus id bus).buses.length := fun bus => by
    rw [Machine.setBus, List.length_set]
    exact h.made
  cases incident with
  | call step => exact Step.perform_tidy hincident h
  | plug other card => exact ⟨hlength _, h.onBus, h.keeps⟩
  | unplug other => exact ⟨hlength _, h.onBus, h.keeps⟩
  | lock locations => exact ⟨h.made, h.onBus, h.keeps⟩
  | write target offset width value =>
      refine ⟨?_, h.onBus, h.keeps⟩
      rw [(unmoved_write target offset width value).made]
      exact h.made

/-- Who is where after a run is read off the run. -/
theorem played_present {run : List Incident} (hrun : ∀ incident ∈ run, incident.KeepsTo id)
    (h : Tidy id b) : Tidy id (played id run b) ∧ ∀ location,
      ((played id run b).machine.slot? id location).isSome =
        run.foldl (Incident.houses location) (b.machine.slot? id location).isSome := by
  induction run generalizing b with
  | nil => exact ⟨h, fun _ => rfl⟩
  | cons incident rest ih =>
      have hfirst := hrun incident List.mem_cons_self
      obtain ⟨htidy, hpresent⟩ := ih (fun i hi => hrun i (List.mem_cons_of_mem _ hi))
        (Incident.perform_tidy hfirst h)
      refine ⟨htidy, fun location => ?_⟩
      rw [List.foldl_cons, ← Incident.perform_present hfirst h location]
      exact hpresent location

theorem played_append (run more : List Incident) (b : Bench) :
    played id (run ++ more) b = played id more (played id run b) := by
  rw [played, List.map_append, after_append]
  rfl

/-! ## The writes of a shutdown -/

/-- The write that the journal has of a turn. -/
def Turn.wrote? (turn : Turn) : Option ConfigWrite :=
  match turn.action with
  | .restore undo =>
      if turn.failed then none
      else some ⟨undo.location, undo.register, undo.previous.width, undo.previous.raw⟩
  | _ => none

theorem Turn.left_journal (turn : Turn) (hon : turn.bench.OnBus id)
    (hkeeps : ∀ name effect, turn.action = .callback name effect → KeepsBuses effect) :
    (turn.left.machine.bus id).journal =
      (turn.bench.machine.bus id).journal ++ turn.wrote?.toList := by
  obtain ⟨action, b⟩ := turn
  cases action with
  | release => simp [left_release, wrote?]
  | callback name effect =>
      rw [left_callback, Machine.bus, hkeeps name effect rfl]
      simp [wrote?, calledOn, Machine.bus]
  | restore undo =>
      cases hfailed : (Turn.mk (.restore undo) b).failed with
      | true => simp [left_of_failed hfailed, wrote?, hfailed]
      | false =>
          obtain ⟨context, m, hcontext, hfind, hwrite⟩ := through_iff.mp hfailed
          obtain ⟨-, bus, hbus, rfl⟩ :=
            (Context.write_eq_ok_iff (hon context hcontext)).mp hwrite
          obtain ⟨-, hpresent, hafter⟩ := Bus.write_eq_ok_iff.mp hbus
          have hplace : (b.machine.slot? id undo.location).isSome := hpresent
          rw [left_restore, restored_of_through hcontext hfind hwrite,
            Machine.bus_setBus_self bus (Context.lt_of_slot? hplace), hafter]
          simp [wrote?, hfailed]

/-- The journal grows in a drain by the restores that go through. -/
theorem drained_journal {due : List Cleanup} (hon : b.OnBus id) (hkeeps : AllKeepBuses due) :
    ((drained due b).machine.bus id).journal =
      (b.machine.bus id).journal ++ (course due b).filterMap Turn.wrote? := by
  induction due generalizing b with
  | nil => simp [course]
  | cons action rest ih =>
      have hleft : (Turn.left ⟨action, b⟩).OnBus id := Turn.left_onBus ⟨action, b⟩ hon
      have hturn := Turn.left_journal ⟨action, b⟩ hon fun name effect h =>
        hkeeps name effect (h ▸ List.mem_cons_self)
      rw [drained_cons, ih hleft fun name effect h => hkeeps name effect (List.mem_cons_of_mem _ h),
        hturn, course, List.append_assoc]
      cases hwrote : Turn.wrote? ⟨action, b⟩ <;> simp [hwrote]

theorem shutdown_journal (h : Tidy id b) :
    ((Session.shutdown b).2.machine.bus id).journal =
      (b.machine.bus id).journal ++ b.turns.filterMap Turn.wrote? := by
  rw [Session.shutdown_state]
  exact drained_journal (b := b.cleared) h.onBus h.keeps

/-- A turn of a drain, with what had its turn before and what comes after. -/
theorem course_split {due : List Cleanup} {first last : List Turn} {turn : Turn}
    (h : course due b = first ++ turn :: last) :
    due = first.map Turn.action ++ turn.action :: last.map Turn.action ∧
      turn.bench = drained (first.map Turn.action) b := by
  refine ⟨by rw [← course_actions due b, h, List.map_append, List.map_cons], ?_⟩
  induction first generalizing due b with
  | nil =>
      cases due with
      | nil => cases h
      | cons action rest =>
          rw [← (List.cons.inj h).1]
          rfl
  | cons earlier first ih =>
      cases due with
      | nil => cases h
      | cons action rest =>
          obtain ⟨rfl, hrest⟩ := List.cons.inj h
          exact ih hrest

/-! ## Whom a restore reaches -/

theorem Turn.present_of_through {turn : Turn} (hon : turn.bench.OnBus id) {undo : Undo}
    (haction : turn.action = .restore undo) (h : turn.failed = false) :
    (turn.bench.machine.slot? id undo.location).isSome := by
  obtain ⟨action, b⟩ := turn
  subst haction
  obtain ⟨context, -, hcontext, hfind, -⟩ := through_iff.mp h
  rw [Context.find?_of_busId? (hon context hcontext), Option.isSome_map] at hfind
  exact hfind

theorem Turn.skipped_of_absent {turn : Turn} (hon : turn.bench.OnBus id) {undo : Undo}
    (haction : turn.action = .restore undo)
    (h : (turn.bench.machine.slot? id undo.location).isSome = false) : turn.skipped = true := by
  obtain ⟨action, b⟩ := turn
  subst haction
  cases hcontext : b.session.context with
  | none => simp [skipped, hcontext]
  | some context =>
      have hnone : b.machine.slot? id undo.location = none := by simpa using h
      simp [skipped, hcontext, Context.find?_of_busId? (hon context hcontext), hnone]

theorem target_of_captured {target : Location} {register : UInt16} {width : Width} {undo : Undo}
    (h : Session.captured? target register width b = some undo) : undo.location = target := by
  cases hcontext : b.session.context with
  | none => simp [Session.captured?, hcontext] at h
  | some context =>
      exact (Undo.target_of_capture ((Session.captured?_eq_some_iff hcontext).mp h)).1

theorem arrivals_append_call (location : Location) (before rest : List Incident) (step : Step) :
    arrivals location (before ++ .call step :: rest) =
      arrivals location before + arrivals location rest := by
  simp [arrivals, Incident.plugsAt]

/-- Who is met later is the one who was there at first, if none was plugged in
since. -/
theorem Machine.tenant?_eq_iff {m m' : Machine} {before rest : List Incident} (step : Step)
    (hhoused : (m'.slot? id location).isSome =
      rest.foldl (Incident.houses location) (m.slot? id location).isSome)
    (hmet : (m'.slot? id location).isSome) :
    m.tenant? id location before = m'.tenant? id location (before ++ .call step :: rest) ↔
      arrivals location rest = 0 := by
  obtain ⟨slot', hslot'⟩ := Option.isSome_iff_exists.mp hmet
  rw [tenant?, tenant?, hslot', arrivals_append_call, Option.map_some]
  constructor
  · intro h
    obtain ⟨slot, -, hcount⟩ := Option.map_eq_some_iff.mp h
    omega
  · intro h
    rw [housed_of_no_arrival h, hmet] at hhoused
    obtain ⟨hpresent, -⟩ := Bool.and_eq_true_iff.mp hhoused.symm
    obtain ⟨slot, hslot⟩ := Option.isSome_iff_exists.mp hpresent
    rw [hslot, h, Option.map_some, Nat.add_zero]

/-- **Whom a rollback reaches.** A session is at work on a bus on which
functions come and go, and it is shut down. The writes of the shutdown are the
restores that go through, all others count as failed. Each restore was
captured for a write of the run, at the same location. If it goes through it
reaches a function, and that is the one that was there at the capture exactly
if none was plugged in there since. If none was, and there was none at the
capture or it was taken off, there is nobody; and where there is nobody in its
turn, it is skipped. -/
theorem rollback_reaches_its_tenant (root : String) (machine : Machine) {run : List Incident}
    (hmade : id < machine.buses.length) (hrun : ∀ incident ∈ run, incident.KeepsTo id) :
    let start := Bench.fresh root machine
    let ended := played id run start
    ((Session.shutdown ended).2.machine.bus id).journal =
        (ended.machine.bus id).journal ++ ended.turns.filterMap Turn.wrote? ∧
      (Session.shutdown ended).1.result =
        .ok ⟨ended.turns.length, ended.turns.countP Turn.failed⟩ ∧
      ∀ first turn last undo, ended.turns = first ++ turn :: last →
        turn.action = .restore undo → ∃ before register value rest,
          run = before ++ .call (.write undo.location register value) :: rest ∧
          let found := played id before start
          let captured := found.machine.tenant? id undo.location before
          let met := turn.bench.machine.tenant? id undo.location run
          found.session.registry.due = last.map Turn.action ∧
          Session.captured? undo.location register value.width found = some undo ∧
          (turn.failed = false → met.isSome ∧
            (captured = met ↔ arrivals undo.location rest = 0)) ∧
          (arrivals undo.location rest = 0 →
            captured = none ∨ departs undo.location rest → met = none) ∧
          (met = none → turn.skipped = true ∧ turn.failed = true) := by
  intro start ended
  have hstart : Tidy id start :=
    ⟨hmade, fun context hcontext => (by cases hcontext), fun name effect hmem => (by cases hmem)⟩
  have hended : Tidy id ended := (played_present hrun hstart).1
  refine ⟨shutdown_journal hended, ?_, fun first turn last undo hturns haction => ?_⟩
  · have hlength : ended.turns.length = ended.session.registry.size := by
      rw [Registry.size, ← course_actions ended.session.registry.due ended.cleared, List.length_map]
      rfl
    rw [hlength, Session.shutdown_result]
  obtain ⟨hdue, hbench⟩ := course_split hturns
  rw [haction] at hdue
  -- where it was captured
  obtain ⟨steps, target, register, value, others, hsteps, -, hcaptured, hlast⟩ :=
    exists_write_of_due rfl hdue
  obtain ⟨before, later, rfl, rfl, hlater⟩ := List.map_eq_append_iff.mp hsteps
  obtain ⟨incident, rest, rfl, hincident, rfl⟩ := List.map_eq_cons_iff.mp hlater
  obtain rfl : incident = .call (.write target register value) := by
    cases incident <;> simp_all [Incident.step]
  have hbefore : ∀ incident ∈ before, incident.KeepsTo id :=
    fun incident hmem => hrun incident (List.mem_append_left _ hmem)
  have hlaterKeeps : ∀ incident ∈ .call (.write target register value) :: rest,
      incident.KeepsTo id := fun incident hmem => hrun incident (List.mem_append_right _ hmem)
  have hfound := (played_present hbefore hstart).1
  obtain rfl : undo.location = target := target_of_captured hcaptured
  -- who is there in its turn is who is there at the end of the run
  have hkeeps : AllKeepBuses (first.map Turn.action) := fun name effect hmem =>
    hended.keeps name effect (hdue ▸ List.mem_append_left _ hmem)
  obtain ⟨hunmoved, hon⟩ := Unmoved.drained (b := ended.cleared) hended.onBus hkeeps
  rw [← hbench] at hunmoved hon
  have hhoused : (turn.bench.machine.slot? id undo.location).isSome =
      rest.foldl (Incident.houses undo.location)
        ((played id before start).machine.slot? id undo.location).isSome := by
    have hplayed := (played_present hlaterKeeps hfound).2 undo.location
    rw [← played_append, List.foldl_cons, Incident.houses_call] at hplayed
    rw [hunmoved.present]
    exact hplayed
  refine ⟨before, register, value, rest, rfl, hlast, hcaptured, fun hthrough => ?_,
    fun hnone hgone => ?_, fun hnobody => ?_⟩
  · have hmet := turn.present_of_through hon haction hthrough
    exact ⟨by rw [Machine.isSome_tenant?, hmet], Machine.tenant?_eq_iff _ hhoused hmet⟩
  · rw [Machine.tenant?_eq_none_iff, hhoused, housed_of_no_arrival hnone]
    rcases hgone with habsent | hdeparts
    · rw [Machine.tenant?_eq_none_iff.mp habsent, Bool.false_and]
    · rw [hdeparts, Bool.not_true, Bool.and_false]
  · have hskipped := turn.skipped_of_absent hon haction (Machine.tenant?_eq_none_iff.mp hnobody)
    exact ⟨hskipped, by rw [Turn.failed, hskipped, Bool.or_true, Bool.true_or]⟩

/-- The session writes to two functions, and the second is taken off. -/
def vacatedSlot : List Incident :=
  [.call (.install (.bus 0)), .call (.write ⟨0, 0, 1, 0⟩ 0x40 (.byte 1)),
   .call (.write ⟨0, 0, 2, 0⟩ 0x40 (.byte 1)), .unplug ⟨0, 0, 2, 0⟩]

/-- The restore of the function that is gone is skipped; that of the other one
is the only write of the shutdown. -/
theorem vacatedSlot_skipped :
    let ended := played 0 vacatedSlot (Bench.fresh "/" twoCards)
    (∃ turn ∈ ended.turns, ∃ previous,
      turn.action = .restore ⟨⟨0, 0, 2, 0⟩, 0x40, previous⟩ ∧ turn.skipped = true) ∧
    (Session.shutdown ended).1.result = .ok ⟨3, 1⟩ ∧
    ((Session.shutdown ended).2.machine.bus 0).journal =
      (ended.machine.bus 0).journal ++ [⟨⟨0, 0, 1, 0⟩, 0x40, .byte, 0⟩] := by
  intro ended
  have hrun : ∀ incident ∈ vacatedSlot, incident.KeepsTo 0 := by
    simp [vacatedSlot, Incident.KeepsTo, Step.KeepsTo, Step.installs?, Context.busId?]
  obtain ⟨hjournal, hresult, hturns⟩ :=
    rollback_reaches_its_tenant "/" twoCards (by decide) hrun
  obtain ⟨previous, hsplit⟩ : ∃ previous, ended.turns = [] ++
      ⟨.restore ⟨⟨0, 0, 2, 0⟩, 0x40, previous⟩, ended.cleared⟩ :: ended.turns.tail := ⟨_, rfl⟩
  obtain ⟨before, register, value, rest, -, -, -, -, -, hskips⟩ := hturns [] _ _ _ hsplit rfl
  have hcount : ended.turns.countP Turn.failed = 1 := by decide +kernel
  have hwrote : ended.turns.filterMap Turn.wrote? = [⟨⟨0, 0, 1, 0⟩, 0x40, .byte, 0⟩] := by
    decide +kernel
  have hgone : ended.cleared.machine.tenant? 0 ⟨0, 0, 2, 0⟩ vacatedSlot = none := by
    decide +kernel
  refine ⟨⟨_, ?_, previous, rfl, (hskips hgone).1⟩, ?_, hjournal.trans (by rw [hwrote])⟩
  · rw [hsplit]
    exact List.mem_cons_self
  · rw [hresult, hcount]
    rfl

/-- The session writes to an empty place, and a function is plugged in there. -/
def lateArrival : List Incident :=
  [.call (.install (.bus 0)), .call (.write ⟨0, 0, 3, 0⟩ 0x40 (.byte 1)),
   .plug ⟨0, 0, 3, 0⟩ (.new 0x8086 0x9999)]

/-- A restore may go through and reach a function that it was not captured
from: one that was plugged in after the capture. -/
theorem rollback_into_stranger :
    ¬ ∀ (machine : Machine) (run : List Incident), 0 < machine.buses.length →
        (∀ incident ∈ run, incident.KeepsTo 0) →
        let start := Bench.fresh "/" machine
        ∀ turn ∈ (played 0 run start).turns, ∀ before register value rest undo,
          turn.action = .restore undo → turn.failed = false →
          run = before ++ .call (.write undo.location register value) :: rest →
          (played 0 before start).machine.tenant? 0 undo.location before =
            turn.bench.machine.tenant? 0 undo.location run := by
  intro h
  have hrun : ∀ incident ∈ lateArrival, incident.KeepsTo 0 := by
    simp [lateArrival, Incident.KeepsTo, Step.KeepsTo, Step.installs?, Context.busId?]
  have hturns : (played 0 lateArrival (Bench.fresh "/" twoCards)).turns =
      ⟨.restore ⟨⟨0, 0, 3, 0⟩, 0x40, .byte 0xff⟩,
        (played 0 lateArrival (Bench.fresh "/" twoCards)).cleared⟩ ::
      (played 0 lateArrival (Bench.fresh "/" twoCards)).turns.tail := by rfl
  have hsame := h twoCards lateArrival (by decide) hrun _ (hturns ▸ List.mem_cons_self)
    [.call (.install (.bus 0))] 0x40 (.byte 1) [.plug ⟨0, 0, 3, 0⟩ (.new 0x8086 0x9999)] _ rfl
    (by decide +kernel) rfl
  revert hsame
  decide +kernel

end PciBus

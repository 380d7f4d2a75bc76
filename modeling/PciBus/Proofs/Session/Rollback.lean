import PciBus.Proofs.Bus.Access
import PciBus.Proofs.Session.Drain

/-!
# Rolling writes back

A session that ends puts back what its writes have found. This is a fact
about each byte of each function on its own: an action that is due puts a
byte there or leaves the one that is there, and since the last registered
action runs first, the oldest undo that covers the byte decides (`replayed`).

- In a run under one context that undo holds what the byte was just before
  the first write that touched it (`run_pushes`). Refused writes push an undo
  like any other, and what others write in between makes no difference.
- A drain leaves the byte that the oldest undo holds, if the function is
  there and not locked (`drained_writable`). Restores of other functions may
  fail as they please.

Together they are the rollback law, `shutdown_rolls_back`.
-/

namespace PciBus

variable {id : Nat} {location : Location} {context : Context} {b : Bench}

/-! ## The run -/

/-- A callback leaves the function alone, and whether it is locked. -/
structure Spares (id : Nat) (location : Location) (effect : Action Machine Unit) : Prop where
  slot : ∀ m, (effect m).2.slot? id location = m.slot? id location
  locked : ∀ m, location ∈ (effect m).2.locked ↔ location ∈ m.locked

/-- All callbacks among the actions leave the function alone. -/
def AllSpare (id : Nat) (location : Location) (due : List Cleanup) : Prop :=
  ∀ name effect, .callback name effect ∈ due → Spares id location effect

namespace Step

/-- The step keeps the context, registers no callback that does something to
the function, and nobody puts a function at the location in it. -/
def Undisturbing (id : Nat) (location : Location) (b : Bench) : Step → Prop
  | .release | .shutdown | .drop => False
  | .callback _ effect => Spares id location effect
  | .outside change =>
      ((change b.machine).slot? id location).isSome → (b.machine.slot? id location).isSome
  | _ => True

/-- The step is a write of the session to byte `i` of a function, and the
capture for it succeeds. -/
def touches (location : Location) (i : Nat) (b : Bench) : Step → Bool
  | .write target register value =>
      target = location ∧ Covers register value.width i ∧
        (Session.captured? target register value.width b).isSome
  | _ => false

end Step

/-- No step of the run disturbs what is due for a function. -/
def Undisturbed (id : Nat) (location : Location) : List Step → Bench → Prop
  | [], _ => True
  | step :: steps, b =>
      step.Undisturbing id location b ∧ Undisturbed id location steps (step.perform b)

/-- The bench that the first write to touch the byte has found. -/
def firstTouched (location : Location) (i : Nat) : List Step → Bench → Option Bench
  | [], _ => none
  | step :: steps, b =>
      if step.touches location i b then some b
      else firstTouched location i steps (step.perform b)

/-! ## What actions put at a byte -/

/-- What an action puts at byte `i` of a function. -/
def Cleanup.byteAt? (location : Location) (i : Nat) : Cleanup → Option UInt8
  | .restore undo => undo.byteAt? location i
  | _ => none

/-- What is at a byte when all actions have run, if any of them covers it. The
oldest one has the last word. -/
def replayed (location : Location) (i : Nat) (due : List Cleanup) : Option UInt8 :=
  due.reverse.findSome? (·.byteAt? location i)

@[simp] theorem replayed_append (first rest : List Cleanup) (i : Nat) :
    replayed location i (first ++ rest) =
      (replayed location i rest).or (replayed location i first) := by
  unfold replayed
  rw [List.reverse_append, List.findSome?_append]

@[simp] theorem replayed_singleton (action : Cleanup) (i : Nat) :
    replayed location i [action] = action.byteAt? location i := by
  simp [replayed]

/-! ## What a run pushes -/

/-- Between two benches the actions `new` were registered under one context,
and they put back what `first` tells of each byte of the function. -/
structure Pushes (id : Nat) (location : Location) (b b' : Bench) (new : List Cleanup)
    (first : Nat → Option Bench) : Prop where
  session : b'.session = { b.session with registry := ⟨new ++ b.session.registry.due⟩ }
  kept : ∀ action ∈ new, action.isRelease = false
  spare : AllSpare id location new
  present : (b'.machine.slot? id location).isSome → (b.machine.slot? id location).isSome
  found : (b'.machine.slot? id location).isSome → ∀ i bench, first i = some bench →
    (bench.machine.slot? id location).isSome
  replayed : (b'.machine.slot? id location).isSome → ∀ i,
    replayed location i new = (first i).bind fun bench => bench.machine.byteAt? id location i

/-- A step that registers nothing and puts no function at the location. -/
theorem Pushes.of_session {b' : Bench} (hsession : b'.session = b.session)
    (hpresent : (b'.machine.slot? id location).isSome → (b.machine.slot? id location).isSome) :
    Pushes id location b b' [] fun _ => none :=
  ⟨hsession, by simp, by simp [AllSpare], hpresent, by simp, fun _ _ => rfl⟩

/-- Writing puts no function anywhere. -/
theorem slot?_written (hbus : context.busId? = some id)
    (hcontext : b.session.context = some context) (location target : Location)
    (offset : UInt16) (width : Width) (value : UInt32) :
    ((Session.written target offset width value b).slot? id location).isSome =
      (b.machine.slot? id location).isSome := by
  simp only [Session.written, hcontext]
  cases hwrite : context.write b.machine target offset width value with
  | error e => rfl
  | ok m =>
      simp only [Except.toOption, Option.getD_some, Context.slot?_write hbus hwrite,
        Option.isSome_map]

theorem write_pushes (hbus : context.busId? = some id)
    (hcontext : b.session.context = some context) (target : Location) (register : UInt16)
    (value : Value) :
    ∃ new, Pushes id location b (Step.perform (.write target register value) b) new fun i =>
      if Step.touches location i b (.write target register value) then some b else none := by
  cases hcaptured : Session.captured? target register value.width b with
  | none =>
      refine ⟨[], ?_⟩
      simp only [Step.perform, Session.writeConfig_refused hcaptured, Step.touches, hcaptured]
      simpa using Pushes.of_session rfl fun h => h
  | some undo =>
      have hcapture := (Session.captured?_eq_some_iff hcontext).mp hcaptured
      refine ⟨[.restore undo], ?_⟩
      simp only [Step.perform, Session.writeConfig_captured hcaptured]
      have hslot := slot?_written hbus hcontext location target register value.width value.raw
      refine ⟨rfl, by simp [Cleanup.isRelease], by simp [AllSpare], fun h => hslot ▸ h,
        fun h i bench hbench => ?_, fun h i => ?_⟩
      · obtain rfl : b = bench := Option.some.inj (Option.ite_none_right_eq_some.mp hbench).2
        exact hslot ▸ h
      rw [replayed_singleton, Cleanup.byteAt?]
      obtain ⟨hlocation, hregister, hwidth⟩ := Undo.target_of_capture hcapture
      by_cases htouch : target = location ∧ Covers register value.width i
      · obtain ⟨rfl, hcovers⟩ := htouch
        rw [Undo.byteAt?_of_capture hbus hcapture (hslot ▸ h) hcovers]
        simp [Step.touches, hcovers, hcaptured]
      · have hfalse : Step.touches location i b (.write target register value) = false := by
          simp only [Step.touches, hcaptured]
          simpa using htouch
        rw [hfalse, Undo.byteAt?, hlocation, hregister, hwidth,
          if_neg fun hc => htouch ⟨hc.2.1, hc.2.2⟩]
        rfl

/-- What one step pushes. -/
theorem step_pushes (hbus : context.busId? = some id)
    (hcontext : b.session.context = some context) {step : Step} (hstep : step.Undisturbing id location b) :
    ∃ new, Pushes id location b (step.perform b) new fun i =>
      if step.touches location i b then some b else none := by
  cases hinstalls : step.installs? with
  | some other =>
      rw [Step.perform_of_refused hinstalls hcontext]
      refine ⟨[], ?_⟩
      cases step with
      | install | find | openDevice => exact Pushes.of_session rfl fun h => h
      | _ => cases hinstalls
  | none =>
      cases step with
      | install | find | openDevice => cases hinstalls
      | release | shutdown | drop => exact hstep.elim
      | write target register value => exact write_pushes hbus hcontext target register value
      | read target register width =>
          refine ⟨[], ?_⟩
          rw [Step.perform, Session.readConfig_state]
          exact Pushes.of_session rfl fun h => h
      | writeThrough target offset width value =>
          refine ⟨[], ?_⟩
          rw [Step.perform, Session.writeThrough_state]
          refine Pushes.of_session rfl fun h => ?_
          rwa [slot?_written hbus hcontext] at h
      | callback name effect =>
          refine ⟨[.callback name effect], ?_⟩
          rw [Step.perform, Session.registerCallback_state]
          refine ⟨rfl, by simp [Cleanup.isRelease], fun other effect' h => ?_, fun h => h,
            by simp [Step.touches], fun _ _ => replayed_singleton _ _⟩
          obtain ⟨rfl, rfl⟩ := Cleanup.callback.inj (List.mem_singleton.mp h)
          exact hstep
      | outside change => exact ⟨[], Pushes.of_session rfl hstep⟩

/-- What a run pushes: for each byte, the oldest undo that covers it holds
what the first write to touch the byte has found. -/
theorem run_pushes (hbus : context.busId? = some id) (steps : List Step) (b : Bench)
    (hcontext : b.session.context = some context) (hsteps : Undisturbed id location steps b) :
    ∃ new, Pushes id location b (after steps b) new fun i => firstTouched location i steps b := by
  induction steps generalizing b with
  | nil => exact ⟨[], Pushes.of_session rfl fun h => h⟩
  | cons step rest ih =>
      obtain ⟨hfirst, hrest⟩ := hsteps
      obtain ⟨new, hstep⟩ := step_pushes hbus hcontext hfirst
      obtain ⟨newer, hafter⟩ := ih (step.perform b) (by rw [hstep.session, hcontext]) hrest
      refine ⟨newer ++ new, ?_, ?_, ?_, fun h => hstep.present (hafter.present h),
        fun h i bench hbench => ?_, fun h i => ?_⟩
      · rw [after_cons, hafter.session, hstep.session, List.append_assoc]
      · intro action haction
        rcases List.mem_append.mp haction with h | h
        · exact hafter.kept action h
        · exact hstep.kept action h
      · intro name effect h
        rcases List.mem_append.mp h with h | h
        · exact hafter.spare name effect h
        · exact hstep.spare name effect h
      · have hpresent := hafter.present h
        rw [firstTouched] at hbench
        split at hbench
        · rename_i htouches
          exact hstep.found hpresent i bench (by rw [if_pos htouches, hbench])
        · exact hafter.found h i bench hbench
      · have hpresent := hafter.present h
        rw [replayed_append, hstep.replayed hpresent, hafter.replayed h, firstTouched]
        split
        · -- the step is the first to touch the byte, so later undos do not matter
          obtain ⟨byte, hbyte⟩ := Machine.exists_byteAt? (hstep.present hpresent) i
          rw [Option.bind_some, hbyte, Option.some_or]
        · simp

/-! ## What a drain leaves -/

/-- The function is there and the context does not refuse to write to it. -/
def Writable (context : Context) (id : Nat) (location : Location) (m : Machine) : Prop :=
  (m.slot? id location).isSome ∧ ¬ context.Refuses m location

theorem Writable.of_eq {m m' : Machine} (h : Writable context id location m)
    (hslot : (m'.slot? id location).isSome = (m.slot? id location).isSome)
    (hlocked : location ∈ m'.locked ↔ location ∈ m.locked) : Writable context id location m' := by
  obtain ⟨hpresent, hrefuses⟩ := h
  constructor
  · rw [hslot]
    exact hpresent
  · cases context with
    | guarded other =>
        intro hrefused
        exact hrefuses (hlocked.mp hrefused)
    | bus other => exact hrefuses
    | tree scan => exact hrefuses

/-- A restore puts back what it holds: at its own function it is not refused,
and other functions are not its concern. -/
theorem restored_writable (hbus : context.busId? = some id)
    (hcontext : b.session.context = some context)
    (hwritable : Writable context id location b.machine) (undo : Undo) :
    Writable context id location (Turn.restored undo b) ∧ ∀ i,
      (Turn.restored undo b).byteAt? id location i =
        (undo.byteAt? location i).or (b.machine.byteAt? id location i) := by
  obtain ⟨hpresent, hrefuses⟩ := hwritable
  cases hwrite : context.write b.machine undo.location undo.register undo.previous.width
      undo.previous.raw with
  | error e =>
      have hrestored : Turn.restored undo b = b.machine := by
        simp [Turn.restored, hcontext, hwrite, Except.toOption]
      refine ⟨hrestored ▸ ⟨hpresent, hrefuses⟩, fun i => ?_⟩
      -- a write within config space to a function that is there and not locked goes through
      have hnone : undo.byteAt? location i = none := by
        rw [Undo.byteAt?, if_neg]
        rintro ⟨hspace, rfl, -⟩
        obtain ⟨m, hok⟩ := Context.write_isOk hbus hrefuses hpresent hspace undo.previous.raw
        rw [hok] at hwrite
        cases hwrite
      rw [hrestored, hnone, Option.none_or]
  | ok m =>
      obtain ⟨-, bus, hbuswrite, -⟩ := (Context.write_eq_ok_iff hbus).mp hwrite
      obtain ⟨hspace, hfound, -⟩ := Bus.write_eq_ok_iff.mp hbuswrite
      have hrestored : Turn.restored undo b = m := by
        have hfind : (context.find? b.machine undo.location).isSome := by
          rw [Context.find?_of_busId? hbus, Option.isSome_map]
          exact hfound
        simp [Turn.restored, hcontext, hwrite, Except.toOption, hfind]
      rw [hrestored]
      refine ⟨Writable.of_eq ⟨hpresent, hrefuses⟩ ?_ ?_, fun i => ?_⟩
      · rw [Context.slot?_write hbus hwrite, Option.isSome_map]
      · rw [Context.locked_write hbus hwrite]
      · obtain ⟨slot, hslot⟩ := Option.isSome_iff_exists.mp hpresent
        rw [Context.byteAt?_write hbus hwrite, Undo.byteAt?, Machine.byteAt?, hslot]
        by_cases htarget : undo.location = location ∧ Covers undo.register undo.previous.width i
        · rw [if_pos htarget, if_pos ⟨hspace, htarget⟩]
          rfl
        · rw [if_neg htarget, if_neg fun h => htarget h.2, Option.none_or]

/-- What one turn leaves, of a function that is writable. -/
theorem turn_writable (hbus : context.busId? = some id)
    (hcontext : b.session.context = some context)
    (hwritable : Writable context id location b.machine) {action : Cleanup}
    (hkept : action.isRelease = false) (hspares : AllSpare id location [action]) :
    Writable context id location (Turn.left ⟨action, b⟩).machine ∧ ∀ i,
      (Turn.left ⟨action, b⟩).machine.byteAt? id location i =
        (action.byteAt? location i).or (b.machine.byteAt? id location i) := by
  cases action with
  | release => cases hkept
  | restore undo =>
      rw [Turn.left_restore]
      exact restored_writable hbus hcontext hwritable undo
  | callback name effect =>
      have h := hspares name effect (List.mem_singleton.mpr rfl)
      rw [Turn.left_callback]
      have hslot := h.slot (Turn.calledOn ⟨.callback name effect, b⟩ name)
      refine ⟨hwritable.of_eq (congrArg Option.isSome hslot) (h.locked _), fun i => ?_⟩
      rw [Machine.byteAt?, hslot]
      rfl

/-- Until the context is released, a drain leaves at each byte of a writable
function what its actions put there. -/
theorem drained_writable (hbus : context.busId? = some id) (due : List Cleanup) (b : Bench)
    (hcontext : b.session.context = some context)
    (hwritable : Writable context id location b.machine)
    (hkept : ∀ action ∈ due, action.isRelease = false) (hspares : AllSpare id location due)
    (i : Nat) :
    (drained due b).machine.byteAt? id location i =
      (replayed location i due).or (b.machine.byteAt? id location i) := by
  induction due generalizing b with
  | nil => rfl
  | cons action rest ih =>
      have hfirst := hkept action List.mem_cons_self
      obtain ⟨hleft, hbyte⟩ := turn_writable hbus hcontext hwritable hfirst
        fun name effect h => hspares name effect
          (List.mem_singleton.mp h ▸ List.mem_cons_self)
      rw [drained_cons, ih _ (by rw [left_context_of_kept hfirst, hcontext]) hleft
        (fun a ha => hkept a (List.mem_cons_of_mem _ ha))
        (fun name effect h => hspares name effect (List.mem_cons_of_mem _ h)), hbyte,
        ← List.singleton_append, replayed_append, replayed_singleton, Option.or_assoc]

/-- Once the context is gone a drain does not touch the function any more. -/
theorem drained_gone (due : List Cleanup) (b : Bench) (hcontext : b.session.context = none)
    (hspares : AllSpare id location due) :
    (drained due b).machine.slot? id location = b.machine.slot? id location := by
  induction due generalizing b with
  | nil => rfl
  | cons action rest ih =>
      rw [drained_cons, ih _ (left_context_none hcontext)
        fun name effect h => hspares name effect (List.mem_cons_of_mem _ h)]
      cases action with
      | release => rw [Turn.left_release]
      | restore undo => rw [Turn.left_restore, Turn.restored, hcontext]
      | callback name effect =>
          rw [Turn.left_callback]
          exact (hspares name effect List.mem_cons_self).slot _

/-- What the end of a session leaves at a byte of a writable function, when
`new` was registered since the context was installed. -/
theorem ended_byteAt? (hbus : context.busId? = some id)
    (hcontext : b.session.context = some context) {new old : List Cleanup}
    (hdue : b.session.registry.due = new ++ .release :: old)
    (hkept : ∀ action ∈ new, action.isRelease = false)
    (hnew : AllSpare id location new) (hold : AllSpare id location old)
    (hwritable : Writable context id location b.machine) (i : Nat) :
    (Session.shutdown b).2.machine.byteAt? id location i =
      (replayed location i new).or (b.machine.byteAt? id location i) := by
  have hgone := drained_gone old (Turn.left ⟨.release, drained new b.cleared⟩)
    (by rw [Turn.left_release]) hold
  rw [Session.shutdown_state, hdue, drained_append, drained_cons, Machine.byteAt?, hgone,
    Turn.left_release]
  exact drained_writable hbus new b.cleared hcontext hwritable hkept hnew i

/-! ## The rollback law -/

/-- **The rollback law.** A session installs a context on a bus and keeps it
over a run in which nobody puts a function at the location; then it ends. If
the function is there and not locked at that time, each of its bytes is what
the first write to touch it has found, and if none did, what the end has
found. -/
theorem shutdown_rolls_back (hbus : context.busId? = some id) {start : Bench}
    (hfree : start.session.context = none) {first : Step}
    (hfirst : first.installs? = some context) {steps : List Step}
    (hsteps : Undisturbed id location steps (first.perform start))
    (hspares : AllSpare id location start.session.registry.due) {last : Step}
    (hlast : last.Drains)
    (hwritable : Writable context id location (after steps (first.perform start)).machine)
    (i : Nat) :
    let begun := first.perform start
    let ended := after steps begun
    ∃ byte,
      (last.perform ended).machine.byteAt? id location i = some byte ∧
      ((firstTouched location i steps begun).getD ended).machine.byteAt? id location i =
        some byte := by
  intro begun ended
  obtain ⟨files, hbegun⟩ := Step.perform_of_installs hfirst hfree
  have hcontext : begun.session.context = some context := by rw [show begun = _ from hbegun]; rfl
  have hdue : begun.session.registry.due = .release :: start.session.registry.due := by
    rw [show begun = _ from hbegun]
    rfl
  obtain ⟨new, hrun⟩ := run_pushes hbus steps begun hcontext hsteps
  have hsession : ended.session = _ := hrun.session
  have hlastState : last.perform ended = (Session.shutdown ended).2 := by
    cases last with
    | shutdown => rfl
    | drop => exact Session.drop_state ended
    | _ => exact hlast.elim
  have hbyte := ended_byteAt? hbus (by rw [hsession, hcontext])
    (by rw [hsession, hdue]) hrun.kept hrun.spare hspares hwritable i
  rw [hlastState, hbyte, hrun.replayed hwritable.1]
  -- the deciding bench is `ended` or the one found first, and the function is there in both
  cases hfirst : firstTouched location i steps begun with
  | none =>
      obtain ⟨byte, hbyte⟩ : ∃ byte, ended.machine.byteAt? id location i = some byte :=
        Machine.exists_byteAt? hwritable.1 i
      exact ⟨byte, hbyte, hbyte⟩
  | some bench =>
      obtain ⟨byte, hbyte⟩ := Machine.exists_byteAt? (hrun.found hwritable.1 i bench hfirst) i
      exact ⟨byte, by rw [Option.bind_some, hbyte, Option.some_or], hbyte⟩

/-- A bus with two functions on it. -/
def twoCards : Machine where
  buses :=
    [(({} : Bus).plug ⟨0, 0, 1, 0⟩ (.new 0x8086 0x1234)).plug ⟨0, 0, 2, 0⟩ (.new 0x10de 0x5678)]

/-- Writes that overlap, of which one is refused and one finds its function
gone, with others at work in between. -/
def overlappingWrites : List Step :=
  [.outside fun m => ((Context.bus 0).write m ⟨0, 0, 1, 0⟩ 3 .byte 0x77).toOption.getD m,
   .write ⟨0, 0, 1, 0⟩ 0 (.long 0x11223344),
   .outside fun m => { m with locked := [⟨0, 0, 1, 0⟩] },
   .write ⟨0, 0, 1, 0⟩ 2 (.word 0xffff),
   .outside fun m => { m with locked := [] },
   .outside fun m => m.setBus 0 ((m.bus 0).unplug ⟨0, 0, 2, 0⟩),
   .write ⟨0, 0, 2, 0⟩ 0 (.byte 0),
   .callback "quiet" (Action.fail .noContext),
   .writeThrough ⟨0, 0, 1, 0⟩ 3 .byte 0x55]

/-- The session's first write to the byte found what another handle had put
there. -/
theorem overlappingWrites_rolled_back :
    (after ([.install (.guarded 0)] ++ overlappingWrites ++ [.shutdown])
      (Bench.fresh "/" twoCards)).machine.byteAt? 0 ⟨0, 0, 1, 0⟩ 3 = some 0x77 := by
  have hsteps : Undisturbed 0 ⟨0, 0, 1, 0⟩ overlappingWrites
      (Step.perform (.install (.guarded 0)) (Bench.fresh "/" twoCards)) := by
    refine ⟨fun _ => ?_, trivial, fun _ => ?_, trivial, fun _ => ?_, fun _ => ?_, trivial,
      ⟨fun _ => rfl, fun _ => Iff.rfl⟩, trivial, trivial⟩ <;> decide +kernel
  have hlocked : (after overlappingWrites
      (Step.perform (.install (.guarded 0)) (Bench.fresh "/" twoCards))).machine.locked = [] := by
    decide +kernel
  have hwritable : Writable (.guarded 0) 0 ⟨0, 0, 1, 0⟩ (after overlappingWrites
      (Step.perform (.install (.guarded 0)) (Bench.fresh "/" twoCards))).machine :=
    ⟨by decide +kernel, by simp [Context.Refuses, hlocked]⟩
  have hlast : Step.shutdown.Drains := trivial
  obtain ⟨byte, hleft, hfound⟩ :=
    shutdown_rolls_back rfl rfl rfl hsteps (by simp [AllSpare, Bench.fresh]) hlast hwritable 3
  rw [List.singleton_append, List.cons_append, after_cons, after_snoc, hleft, ← hfound]
  decide +kernel

end PciBus

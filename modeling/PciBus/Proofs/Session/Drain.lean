import PciBus.Proofs.Bus.Access
import PciBus.Proofs.Session.Run

/-!
# Draining a session

Ending a session runs what is due, last registered first. `course` writes
such a drain out, turn by turn, each with the bench that it finds; what the
whole drain reports, logs and leaves is read off it (`Session.shutdown_result`,
`Session.shutdown_log`, `Session.shutdown_state`).

A turn fails in one of three ways: a callback answers a fault, a restore is
skipped, or the context refuses it. Each of them is logged once, as an error
of the turn's own (`Turn.own_errors`).
-/

namespace PciBus

/-- The action releases the context. -/
def Cleanup.isRelease : Cleanup → Bool
  | .release => true
  | _ => false

/-! ## Turns -/

/-- One action of a drain, with the bench that it finds. -/
structure Turn where
  action : Cleanup
  bench : Bench

namespace Turn

/-- The bench that the action leaves. -/
def left (turn : Turn) : Bench := (Session.run turn.action turn.bench).2

def result (turn : Turn) : Except Fault Unit := (Session.run turn.action turn.bench).1.result

def log (turn : Turn) : List Event := (Session.run turn.action turn.bench).1.log

/-- The machine on which a callback works; its name is noted already. -/
def calledOn (turn : Turn) (name : String) : Machine :=
  { turn.bench.machine with called := turn.bench.machine.called ++ [name] }

/-- A callback answered a fault. -/
def faulted (turn : Turn) : Bool :=
  match turn.action with
  | .callback name effect => !(effect (turn.calledOn name)).1.result.toBool
  | _ => false

/-- A restore found no context, or its function is not enumerated. -/
def skipped (turn : Turn) : Bool :=
  match turn.action, turn.bench.session.context with
  | .restore _, none => true
  | .restore undo, some context => (context.find? turn.bench.machine undo.location).isNone
  | _, _ => false

/-- The context refused to write what a restore told it to. -/
def refused (turn : Turn) : Bool :=
  match turn.action, turn.bench.session.context with
  | .restore undo, some context =>
      (context.find? turn.bench.machine undo.location).isSome &&
        !(context.write turn.bench.machine undo.location undo.register undo.previous.width
          undo.previous.raw).toBool
  | _, _ => false

def failed (turn : Turn) : Bool := turn.faulted || turn.skipped || turn.refused

end Turn

/-- The turns of a drain. -/
def course : List Cleanup → Bench → List Turn
  | [], _ => []
  | action :: rest, b => ⟨action, b⟩ :: course rest (Turn.left ⟨action, b⟩)

/-- The bench that the last turn leaves. -/
def drained (due : List Cleanup) (b : Bench) : Bench :=
  due.foldl (fun b action => Turn.left ⟨action, b⟩) b

@[simp] theorem drained_nil (b : Bench) : drained [] b = b := rfl

@[simp] theorem drained_cons (action : Cleanup) (rest : List Cleanup) (b : Bench) :
    drained (action :: rest) b = drained rest (Turn.left ⟨action, b⟩) := rfl

theorem drained_append (first rest : List Cleanup) (b : Bench) :
    drained (first ++ rest) b = drained rest (drained first b) := by
  rw [drained, List.foldl_append]
  rfl

/-- A drain gives each action one turn, in the order in which they are due. -/
theorem course_actions (due : List Cleanup) (b : Bench) :
    (course due b).map Turn.action = due := by
  induction due generalizing b with
  | nil => rfl
  | cons action rest ih => rw [course, List.map_cons, ih]

theorem course_append (first rest : List Cleanup) (b : Bench) :
    course (first ++ rest) b = course first b ++ course rest (drained first b) := by
  induction first generalizing b with
  | nil => rfl
  | cons action first ih => rw [List.cons_append, course, ih]; rfl

/-! ## One turn -/

namespace Turn

variable {b : Bench} {undo : Undo} {context : Context}

/-- The machine after a restore: presence first, then the write. -/
def restored (undo : Undo) (b : Bench) : Machine :=
  match b.session.context with
  | none => b.machine
  | some context =>
      if (context.find? b.machine undo.location).isSome then
        (context.write b.machine undo.location undo.register undo.previous.width
          undo.previous.raw).toOption.getD b.machine
      else b.machine

theorem left_release : left ⟨.release, b⟩ = { b with session.context := none } := by
  obtain ⟨⟨context, registry, root⟩, machine⟩ := b
  cases context <;> rfl

theorem left_callback (name : String) (effect : Action Machine Unit) :
    left ⟨.callback name effect, b⟩ =
      { b with machine := (effect (calledOn ⟨.callback name effect, b⟩ name)).2 } := by
  cases h : (effect (calledOn ⟨.callback name effect, b⟩ name)).1.result <;>
    simp_all [left, Session.run, Bench.onMachine, calledOn]

theorem left_restore (undo : Undo) :
    left ⟨.restore undo, b⟩ = { b with machine := restored undo b } := by
  obtain ⟨⟨context, registry, root⟩, machine⟩ := b
  cases context with
  | none => rfl
  | some context =>
      cases hf : context.find? machine undo.location with
      | none => simp [left, Session.run, Bench.onMachine, Undo.restore, restored, hf]
      | some record =>
          cases hw : context.write machine undo.location undo.register undo.previous.width
              undo.previous.raw <;>
            simp [left, Session.run, Bench.onMachine, Undo.restore, restored, Action.change,
              Except.toOption, hf, hw]

/-- A restore goes through where there is a context that enumerates its
function and takes the write. -/
theorem through_iff : (Turn.mk (.restore undo) b).failed = false ↔
    ∃ context after, b.session.context = some context ∧
      (context.find? b.machine undo.location).isSome ∧
      context.write b.machine undo.location undo.register undo.previous.width
        undo.previous.raw = .ok after := by
  obtain ⟨⟨context, registry, root⟩, m⟩ := b
  cases context with
  | none => simp [failed, skipped]
  | some context =>
      cases hfind : context.find? m undo.location with
      | none => simp [failed, skipped, hfind]
      | some record =>
          cases hwrite : context.write m undo.location undo.register undo.previous.width
              undo.previous.raw <;>
            simp [failed, faulted, skipped, refused, hfind, hwrite, Except.toBool]

theorem restored_of_through {after : Machine} (hcontext : b.session.context = some context)
    (hfind : (context.find? b.machine undo.location).isSome)
    (hwrite : context.write b.machine undo.location undo.register undo.previous.width
      undo.previous.raw = .ok after) : restored undo b = after := by
  simp [restored, hcontext, hfind, hwrite, Except.toOption]

/-- A restore that fails leaves everything as it is. -/
theorem left_of_failed (h : (Turn.mk (.restore undo) b).failed = true) :
    (Turn.mk (.restore undo) b).left = b := by
  have hsame : restored undo b = b.machine := by
    obtain ⟨⟨context, registry, root⟩, m⟩ := b
    cases context with
    | none => rfl
    | some context =>
        cases hfind : context.find? m undo.location with
        | none => simp [restored, hfind]
        | some record =>
            cases hwrite : context.write m undo.location undo.register undo.previous.width
                undo.previous.raw with
            | error e => simp [restored, hfind, hwrite, Except.toOption]
            | ok after =>
                rw [through_iff.mpr ⟨context, after, rfl, by rw [hfind]; rfl, hwrite⟩] at h
                cases h
  rw [left_restore, hsame]

/-- Of the session, a turn changes no more than the context, and that only by
releasing it. -/
theorem left_session (turn : Turn) :
    turn.left.session =
      if turn.action.isRelease then { turn.bench.session with context := none }
      else turn.bench.session := by
  obtain ⟨action, b⟩ := turn
  cases action with
  | release => rw [left_release]; rfl
  | restore undo => rw [left_restore]; rfl
  | callback name effect => rw [left_callback]; rfl

/-- A turn answers a fault exactly when it failed in one of the three ways. -/
theorem failed_eq (turn : Turn) : turn.failed = !turn.result.toBool := by
  obtain ⟨action, ⟨⟨context, registry, root⟩, machine⟩⟩ := turn
  cases action with
  | release => cases context <;> rfl
  | callback name effect =>
      cases h : (effect (calledOn ⟨.callback name effect, ⟨⟨context, registry, root⟩, machine⟩⟩
          name)).1.result <;>
        simp_all [failed, faulted, skipped, refused, result, Session.run, Bench.onMachine,
          calledOn, Except.bind, Except.toBool]
  | restore undo =>
      cases context with
      | none => rfl
      | some context =>
          cases hf : context.find? machine undo.location with
          | none =>
              simp [failed, faulted, skipped, refused, result, Session.run, Bench.onMachine,
                Undo.restore, Except.bind, Except.toBool, hf]
          | some record =>
              cases hw : context.write machine undo.location undo.register undo.previous.width
                  undo.previous.raw <;>
                simp [failed, faulted, skipped, refused, result, Session.run, Bench.onMachine,
                  Undo.restore, Action.change, Except.bind, Except.toBool, hf, hw]

end Turn

/-! ## The context during a drain -/

/-- No turn brings a context back. -/
theorem left_context_none {turn : Turn} (h : turn.bench.session.context = none) :
    turn.left.session.context = none := by
  rw [turn.left_session]
  split
  · rfl
  · exact h

theorem left_context_of_kept {turn : Turn} (h : turn.action.isRelease = false) :
    turn.left.session.context = turn.bench.session.context := by
  rw [turn.left_session, if_neg (by simp [h])]

/-- If there is a context, it is on the bus. -/
def Bench.OnBus (id : Nat) (b : Bench) : Prop :=
  ∀ context, b.session.context = some context → context.busId? = some id

theorem Turn.left_onBus {id : Nat} (turn : Turn) (h : turn.bench.OnBus id) :
    turn.left.OnBus id := by
  intro context hcontext
  rw [turn.left_session] at hcontext
  split at hcontext
  · cases hcontext
  · exact h context hcontext

theorem drained_context_none {due : List Cleanup} {b : Bench}
    (h : b.session.context = none) : (drained due b).session.context = none := by
  induction due generalizing b with
  | nil => exact h
  | cons action rest ih => exact ih (left_context_none h)

/-- Once a release has had its turn, there is no context. -/
theorem drained_context_of_release {due : List Cleanup} {b : Bench}
    (h : .release ∈ due) : (drained due b).session.context = none := by
  obtain ⟨first, rest, rfl⟩ := List.append_of_mem h
  rw [drained_append, drained_cons]
  apply drained_context_none
  rw [Turn.left_release]

/-- A drain keeps the root, and it registers nothing. -/
theorem drained_session (due : List Cleanup) (b : Bench) :
    (drained due b).session =
      { b.session with context := (drained due b).session.context } := by
  induction due generalizing b with
  | nil => rfl
  | cons action rest ih =>
      rw [drained_cons, ih, Turn.left_session]
      split <;> rfl

/-! ## The whole drain -/

namespace Session

variable (due : List Cleanup) (b : Bench)

/-- A drain never stops early; it counts every turn and every failure. -/
theorem runAll_result :
    (runAll due b).1.result = .ok ⟨due.length, (course due b).countP Turn.failed⟩ := by
  induction due generalizing b with
  | nil => rfl
  | cons action rest ih =>
      have hrest := ih (Turn.left ⟨action, b⟩)
      have hfailed := Turn.failed_eq ⟨action, b⟩
      simp only [Turn.left, Turn.result] at hrest hfailed
      cases h : (run action b).1.result <;>
        simp_all [runAll, course, Turn.left, Except.bind, Except.toBool]

theorem runAll_state : (runAll due b).2 = drained due b := by
  induction due generalizing b with
  | nil => rfl
  | cons action rest ih =>
      have hok := runAll_result rest (run action b).2
      have hrest := ih (run action b).2
      simp [runAll, Turn.left, hok, hrest]

end Session

/-- The bench with nothing due. -/
def Bench.cleared (b : Bench) : Bench := { b with session.registry := {} }

/-- The turns of the drain that ends the session. -/
def Bench.turns (b : Bench) : List Turn := course b.session.registry.due b.cleared

namespace Session

variable (b : Bench)

theorem shutdown_result :
    (shutdown b).1.result =
      .ok ⟨b.session.registry.size, b.turns.countP Turn.failed⟩ := by
  have hok := runAll_result b.session.registry.due b.cleared
  simp only [Bench.cleared] at hok
  simp [shutdown, hok, Except.bind, Registry.size, Bench.turns, Bench.cleared]

theorem shutdown_state : (shutdown b).2 = drained b.session.registry.due b.cleared := by
  have hok := runAll_result b.session.registry.due b.cleared
  rw [← runAll_state]
  simp only [Bench.cleared] at hok ⊢
  simp [shutdown, hok]

/-- Giving a session up is shutting it down, less one log entry. -/
theorem drop_state : (drop b).2 = (shutdown b).2 := by
  by_cases hdue : b.session.registry.due = []
  · obtain ⟨⟨context, ⟨due⟩, root⟩, machine⟩ := b
    cases hdue
    rfl
  · have hok := shutdown_result b
    have hany : b.session.registry.isEmpty = false := by
      simpa [Registry.isEmpty] using hdue
    simp [drop, hany, hok]

end Session

end PciBus

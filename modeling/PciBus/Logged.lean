import PciBus.Fault

/-!
# Operations that log

An operation answers a value or fails, and either way it has written to the
log. `Logged` is an operation that changes nothing; an `Action` also takes a
state and leaves one, and it leaves one when it fails too. The log of two
operations in sequence is the one log after the other.
-/

namespace PciBus

/-! ## The log -/

/-- How much a log entry matters. -/
inductive Level where
  | trace
  | debug
  | info
  | warn
  | error
  deriving DecidableEq, Repr

def Level.name : Level → String
  | .trace => "TRACE"
  | .debug => "DEBUG"
  | .info => "INFO"
  | .warn => "WARN"
  | .error => "ERROR"

/-- A log entry: a message and named values. -/
structure Event where
  level : Level
  message : String
  fields : List (String × String) := []
  deriving DecidableEq, Repr

/-! ## Operations without a state -/

/-- What an operation answers and what it has logged. -/
structure Logged (α : Type) where
  result : Except Fault α
  log : List Event := []

namespace Logged

instance : Monad Logged where
  pure a := ⟨.ok a, []⟩
  bind x f :=
    match x.result with
    | .error e => ⟨.error e, x.log⟩
    | .ok a => ⟨(f a).result, x.log ++ (f a).log⟩

/-- Fails without a log entry. -/
def fail (e : Fault) : Logged α := ⟨.error e, []⟩

def ofExcept (r : Except Fault α) : Logged α := ⟨r, []⟩

/-- Writes one log entry. -/
def note (level : Level) (message : String) (fields : List (String × String) := []) :
    Logged Unit :=
  ⟨.ok (), [⟨level, message, fields⟩]⟩

/-- Turns a failure into an answer; the log stays. -/
def attempt (x : Logged α) : Logged (Except Fault α) := ⟨.ok x.result, x.log⟩

@[simp] theorem result_pure (a : α) : (pure a : Logged α).result = .ok a := rfl

@[simp] theorem log_pure (a : α) : (pure a : Logged α).log = [] := rfl

/-- The first failure decides the result of a sequence. -/
@[simp] theorem result_bind (x : Logged α) (f : α → Logged β) :
    (x >>= f).result = x.result.bind fun a => (f a).result := by
  cases x with
  | mk result log => cases result <;> rfl

@[simp] theorem result_fail (e : Fault) : (fail e : Logged α).result = .error e := rfl

@[simp] theorem log_fail (e : Fault) : (fail e : Logged α).log = [] := rfl

@[simp] theorem result_ofExcept (r : Except Fault α) : (ofExcept r).result = r := rfl

@[simp] theorem log_ofExcept (r : Except Fault α) : (ofExcept r).log = [] := rfl

@[simp] theorem result_note (level : Level) (message : String)
    (fields : List (String × String)) : (note level message fields).result = .ok () := rfl

@[simp] theorem log_note (level : Level) (message : String)
    (fields : List (String × String)) : (note level message fields).log =
      [⟨level, message, fields⟩] := rfl

@[simp] theorem result_attempt (x : Logged α) : x.attempt.result = .ok x.result := rfl

@[simp] theorem log_attempt (x : Logged α) : x.attempt.log = x.log := rfl

end Logged

/-! ## Operations on a state -/

/-- An operation on a state: what it answers, what it logs and the state it
leaves. -/
def Action (σ α : Type) : Type := σ → Logged α × σ

namespace Action

instance : Monad (Action σ) where
  pure a := fun s => (pure a, s)
  bind x f := fun s =>
    match (x s).1.result with
    | .error e => (⟨.error e, (x s).1.log⟩, (x s).2)
    | .ok a =>
        let (y, s') := f a (x s).2
        (⟨y.result, (x s).1.log ++ y.log⟩, s')

/-- An operation that changes nothing is an action on every state. -/
instance : MonadLift Logged (Action σ) where
  monadLift x := fun s => (x, s)

def get : Action σ σ := fun s => (pure s, s)

def modify (f : σ → σ) : Action σ Unit := fun s => (pure (), f s)

def fail (e : Fault) : Action σ α := fun s => (.fail e, s)

def note (level : Level) (message : String) (fields : List (String × String) := []) :
    Action σ Unit :=
  fun s => (.note level message fields, s)

/-- Replaces the state unless that fails; a failure leaves it alone. -/
def change (f : σ → Except Fault σ) : Action σ Unit := fun s =>
  match f s with
  | .ok s' => (pure (), s')
  | .error e => (.fail e, s)

/-- Turns a failure into an answer; the log and the state stay. -/
def attempt (x : Action σ α) : Action σ (Except Fault α) := fun s =>
  ((x s).1.attempt, (x s).2)

/-- An action on a part of the state. -/
def within (part : τ → σ) (put : τ → σ → τ) (x : Action σ α) : Action τ α := fun t =>
  ((x (part t)).1, put t (x (part t)).2)

@[simp] theorem pure_apply (a : α) (s : σ) : (pure a : Action σ α) s = (pure a, s) := rfl

/-- After a success the second action runs on the state the first one left. -/
theorem bind_apply_ok {x : Action σ α} {s : σ} {a : α} (f : α → Action σ β)
    (h : (x s).1.result = .ok a) :
    (x >>= f) s =
      (⟨(f a (x s).2).1.result, (x s).1.log ++ (f a (x s).2).1.log⟩, (f a (x s).2).2) := by
  simp only [bind, h]

/-- After a failure the second action does not run. -/
theorem bind_apply_error {x : Action σ α} {s : σ} {e : Fault} (f : α → Action σ β)
    (h : (x s).1.result = .error e) :
    (x >>= f) s = (⟨.error e, (x s).1.log⟩, (x s).2) := by
  simp only [bind, h]

/-- The state after a sequence. -/
@[simp] theorem state_bind (x : Action σ α) (f : α → Action σ β) (s : σ) :
    ((x >>= f) s).2 =
      match (x s).1.result with
      | .error _ => (x s).2
      | .ok a => (f a (x s).2).2 := by
  cases h : (x s).1.result with
  | error e => rw [bind_apply_error f h]
  | ok a => rw [bind_apply_ok f h]

/-- The result of a sequence. -/
@[simp] theorem result_bind (x : Action σ α) (f : α → Action σ β) (s : σ) :
    ((x >>= f) s).1.result = (x s).1.result.bind fun a => (f a (x s).2).1.result := by
  cases h : (x s).1.result with
  | error e => rw [bind_apply_error f h, Except.bind]
  | ok a => rw [bind_apply_ok f h, Except.bind]

/-- The log of a sequence. -/
@[simp] theorem log_bind (x : Action σ α) (f : α → Action σ β) (s : σ) :
    ((x >>= f) s).1.log =
      (x s).1.log ++
        match (x s).1.result with
        | .error _ => []
        | .ok a => (f a (x s).2).1.log := by
  cases h : (x s).1.result with
  | error e => rw [bind_apply_error f h]; simp
  | ok a => rw [bind_apply_ok f h]

@[simp] theorem get_apply (s : σ) : (get : Action σ σ) s = (pure s, s) := rfl

@[simp] theorem modify_apply (f : σ → σ) (s : σ) : modify f s = (pure (), f s) := rfl

@[simp] theorem fail_apply (e : Fault) (s : σ) : (fail e : Action σ α) s = (.fail e, s) := rfl

@[simp] theorem note_apply (level : Level) (message : String)
    (fields : List (String × String)) (s : σ) :
    note level message fields s = (.note level message fields, s) := rfl

@[simp] theorem attempt_apply (x : Action σ α) (s : σ) :
    x.attempt s = ((x s).1.attempt, (x s).2) := rfl

@[simp] theorem within_apply (part : τ → σ) (put : τ → σ → τ) (x : Action σ α) (t : τ) :
    within part put x t = ((x (part t)).1, put t (x (part t)).2) := rfl

@[simp] theorem lift_apply (x : Logged α) (s : σ) :
    (liftM x : Action σ α) s = (x, s) := rfl

/-- What is made of the answer does not touch the state. -/
theorem state_return (x : Action σ α) (f : α → β) (s : σ) :
    ((do return f (← x) : Action σ β) s).2 = (x s).2 := by
  rw [state_bind]
  split <;> rfl

theorem result_return (x : Action σ α) (f : α → β) (s : σ) :
    ((do return f (← x) : Action σ β) s).1.result = (x s).1.result.bind fun a => .ok (f a) :=
  result_bind _ _ _

end Action

end PciBus

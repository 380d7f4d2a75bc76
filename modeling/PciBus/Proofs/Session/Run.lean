import PciBus.Session

/-!
# Runs of a session

A run is a list of steps: calls on one session, in any order, and what others
do to the machine in between. Here stands what each call leaves behind, so
that nothing further on opens the operations again.

- A call that installs a context either does so and registers the release, or
  finds one installed and changes nothing (`Step.perform_of_installs`,
  `Step.perform_of_refused`).
- A write registers its undo exactly when the capture succeeds, whatever
  becomes of the write itself (`Session.writeConfig_captured`).
-/

namespace PciBus

/-! ## Steps -/

namespace Session

/-- Writes through the installed context, past the session. -/
def writeThrough (location : Location) (offset : UInt16) (width : Width) (value : UInt32) :
    Action Bench Unit := do
  let context ← Bench.context
  Bench.onMachine (Action.change fun m => context.write m location offset width value)

end Session

/-- One thing that happens to a session at work. -/
inductive Step where
  | install (context : Context)
  | release
  | find (context : Context) (whitelist : Whitelist Names) (wanted : Wanted)
  | openDevice {τ : Type} (context : Context) (whitelist : Whitelist τ) (wanted : Wanted)
  | write (location : Location) (register : UInt16) (value : Value)
  | read (location : Location) (register : UInt16) (width : Width)
  | writeThrough (location : Location) (offset : UInt16) (width : Width) (value : UInt32)
  | callback (name : String) (effect : Action Machine Unit)
  | shutdown
  | drop
  /-- Somebody else changes the machine: other handles on a bus, the lock, the
  system, a device handle. -/
  | outside (change : Machine → Machine)

namespace Step

/-- The bench after a step. -/
def perform : Step → Bench → Bench
  | .install context, b => (Session.install context b).2
  | .release, b => (Session.release b).2
  | .find context whitelist wanted, b => (Session.find context whitelist wanted b).2
  | .openDevice context whitelist wanted, b =>
      (Session.openDevice context whitelist wanted b).2
  | .write location register value, b => (Session.writeConfig location register value b).2
  | .read location register width, b => (Session.readConfig location register width b).2
  | .writeThrough location offset width value, b =>
      (Session.writeThrough location offset width value b).2
  | .callback name effect, b => (Session.registerCallback name effect b).2
  | .shutdown, b => (Session.shutdown b).2
  | .drop, b => (Session.drop b).2
  | .outside change, b => { b with machine := change b.machine }

/-- The context that a step tries to install. -/
def installs? : Step → Option Context
  | .install context | .find context _ _ | .openDevice context _ _ => some context
  | _ => none

/-- The step ends the session and runs what is due. -/
def Drains : Step → Prop
  | .shutdown | .drop => True
  | _ => False

end Step

/-- The bench after a run. -/
def after (steps : List Step) (b : Bench) : Bench :=
  steps.foldl (fun b step => step.perform b) b

@[simp] theorem after_nil (b : Bench) : after [] b = b := rfl

@[simp] theorem after_cons (step : Step) (steps : List Step) (b : Bench) :
    after (step :: steps) b = after steps (step.perform b) := rfl

theorem after_append (steps more : List Step) (b : Bench) :
    after (steps ++ more) b = after more (after steps b) := by
  simp [after]

theorem after_snoc (steps : List Step) (step : Step) (b : Bench) :
    after (steps ++ [step]) b = step.perform (after steps b) := by
  rw [after_append, after_cons, after_nil]

/-- A session that nobody has used yet. -/
def Bench.fresh (root : String) (machine : Machine) : Bench where
  session := { root := root }
  machine := machine

/-! ## What a call leaves behind -/

namespace Bench

/-- The bench with one more action due. -/
def push (action : Cleanup) (b : Bench) : Bench :=
  { b with session.registry := ⟨action :: b.session.registry.due⟩ }

@[simp] theorem push_due (action : Cleanup) (b : Bench) :
    (b.push action).session.registry.due = action :: b.session.registry.due := rfl

/-- The bench with other files. -/
def withFiles (b : Bench) (files : Files) : Bench :=
  { b with machine.files := files }

/-- An action that changes files and nothing else. -/
def OnlyFiles (x : Action Bench α) : Prop :=
  ∀ b, ∃ files, (x b).2 = b.withFiles files

theorem onlyFiles_pure (a : α) : OnlyFiles (pure a) :=
  fun b => ⟨b.machine.files, rfl⟩

theorem onlyFiles_get : OnlyFiles (Action.get : Action Bench Bench) :=
  fun b => ⟨b.machine.files, rfl⟩

theorem onlyFiles_fail (e : Fault) : OnlyFiles (Action.fail e : Action Bench α) :=
  fun b => ⟨b.machine.files, rfl⟩

theorem onlyFiles_note (level : Level) (message : String) (fields : List (String × String)) :
    OnlyFiles (Action.note level message fields) :=
  fun b => ⟨b.machine.files, rfl⟩

theorem onlyFiles_lift (x : Logged α) : OnlyFiles (liftM x) :=
  fun b => ⟨b.machine.files, rfl⟩

theorem onlyFiles_onFiles (x : Action Files α) : OnlyFiles (onFiles x) :=
  fun b => ⟨(x b.machine.files).2, rfl⟩

theorem OnlyFiles.attempt {x : Action Bench α} (hx : OnlyFiles x) : OnlyFiles x.attempt := hx

theorem OnlyFiles.bind {x : Action Bench α} {f : α → Action Bench β} (hx : OnlyFiles x)
    (hf : ∀ a, OnlyFiles (f a)) : OnlyFiles (x >>= f) := by
  intro b
  obtain ⟨files, hfiles⟩ := hx b
  cases h : (x b).1.result with
  | error e =>
      rw [Action.bind_apply_error f h]
      exact ⟨files, hfiles⟩
  | ok a =>
      rw [Action.bind_apply_ok f h, hfiles]
      obtain ⟨files', hfiles'⟩ := hf a (b.withFiles files)
      exact ⟨files', hfiles'⟩

end Bench

namespace Session

variable {b : Bench} {context : Context}

/-- The bench after a context was installed. -/
def installed (context : Context) (b : Bench) : Bench :=
  { b.push .release with session.context := some context }

theorem install_free (context : Context) (h : b.session.context = none) :
    (install context b).1.result = .ok () ∧ (install context b).2 = installed context b := by
  obtain ⟨⟨_, registry, root⟩, machine⟩ := b
  cases h
  exact ⟨rfl, rfl⟩

theorem install_taken (context : Context) {old : Context} (h : b.session.context = some old) :
    (install context b).1.result = .error .contextInstalled ∧ (install context b).2 = b := by
  obtain ⟨⟨_, registry, root⟩, machine⟩ := b
  cases h
  exact ⟨rfl, rfl⟩

/-- Resolving a device changes no more than installing the context does. -/
theorem find_state (whitelist : Whitelist Names) (wanted : Wanted) :
    (find context whitelist wanted b).2 = (install context b).2 := by
  cases h : (install context b).1.result with
  | error e => rw [find, Action.bind_apply_error _ h]
  | ok u =>
      rw [find, Action.bind_apply_ok _ h]
      simp only [bind, Action.get_apply, Logged.result_pure, Action.lift_apply]
      split <;> rfl

/-- Once the context is installed, opening a device touches only files. -/
theorem openDevice_free {τ : Type} (whitelist : Whitelist τ) (wanted : Wanted)
    (h : b.session.context = none) :
    ∃ files, (openDevice context whitelist wanted b).2 =
      (installed context b).withFiles files := by
  obtain ⟨hok, hstate⟩ := install_free context h
  rw [openDevice, Action.bind_apply_ok _ hok, hstate]
  refine (?_ : Bench.OnlyFiles _) (installed context b)
  refine Bench.onlyFiles_get.bind fun bench => ?_
  refine (Bench.onlyFiles_lift _).bind fun (record, entry) => ?_
  refine (Bench.onlyFiles_note _ _ _).bind fun _ => ?_
  refine (Bench.onlyFiles_onFiles _).attempt.bind fun result => ?_
  cases result with
  | ok handle => exact Bench.onlyFiles_pure handle
  | error e => exact (Bench.onlyFiles_onFiles _).bind fun _ => Bench.onlyFiles_fail e

theorem openDevice_taken {τ : Type} {old : Context} (whitelist : Whitelist τ) (wanted : Wanted)
    (h : b.session.context = some old) :
    (openDevice context whitelist wanted b).1.result = .error .contextInstalled ∧
      (openDevice context whitelist wanted b).2 = b := by
  obtain ⟨herror, hstate⟩ := install_taken context h
  rw [openDevice, Action.bind_apply_error _ herror, hstate]
  exact ⟨rfl, rfl⟩

/-- The undo that a write of this width would register. -/
def captured? (location : Location) (register : UInt16) (width : Width) (b : Bench) :
    Option Undo :=
  b.session.context.bind fun context =>
    (Undo.capture context b.machine location register width).toOption

theorem captured?_eq_some_iff {location : Location} {register : UInt16} {width : Width}
    {undo : Undo} (hcontext : b.session.context = some context) :
    captured? location register width b = some undo ↔
      Undo.capture context b.machine location register width = .ok undo := by
  rw [captured?, hcontext, Option.bind_some]
  cases h : Undo.capture context b.machine location register width <;> simp [Except.toOption]

/-- The machine after the installed context was told to write; a refusal
leaves it as it was. -/
def written (location : Location) (offset : UInt16) (width : Width) (value : UInt32)
    (b : Bench) : Machine :=
  match b.session.context with
  | none => b.machine
  | some context => (context.write b.machine location offset width value).toOption.getD b.machine

/-- A write whose capture succeeds is undone later, also if it is refused. -/
theorem writeConfig_captured {location : Location} {register : UInt16} {value : Value}
    {undo : Undo} (h : captured? location register value.width b = some undo) :
    (writeConfig location register value b).2 =
      { b.push (.restore undo) with
        machine := written location register value.width value.raw b } := by
  obtain ⟨⟨context, registry, root⟩, machine⟩ := b
  cases context with
  | none => simp [captured?] at h
  | some context =>
      cases hc : Undo.capture context machine location register value.width with
      | error e => simp [captured?, hc, Except.toOption] at h
      | ok found =>
          obtain rfl : found = undo := by simpa [captured?, hc, Except.toOption] using h
          cases hw : context.write machine location register value.width value.raw <;>
            simp [writeConfig, Bench.context, Bench.onRegistry, Bench.onMachine,
              Registry.register, Action.change, Except.bind, Except.toOption, Bench.push,
              written, hc, hw]

/-- A write whose capture fails changes nothing. -/
theorem writeConfig_refused {location : Location} {register : UInt16} {value : Value}
    (h : captured? location register value.width b = none) :
    (writeConfig location register value b).2 = b := by
  obtain ⟨⟨context, registry, root⟩, machine⟩ := b
  cases context with
  | none => rfl
  | some context =>
      cases hc : Undo.capture context machine location register value.width with
      | error e => simp [writeConfig, Bench.context, Except.bind, hc]
      | ok found => simp [captured?, hc, Except.toOption] at h

theorem readConfig_state (location : Location) (register : UInt16) (width : Width) :
    (readConfig location register width b).2 = b := by
  obtain ⟨⟨context, registry, root⟩, machine⟩ := b
  cases context <;> rfl

theorem writeThrough_state (location : Location) (offset : UInt16) (width : Width)
    (value : UInt32) : (writeThrough location offset width value b).2 =
      { b with machine := written location offset width value b } := by
  obtain ⟨⟨context, registry, root⟩, machine⟩ := b
  cases context with
  | none => rfl
  | some context =>
      cases hw : context.write machine location offset width value <;>
        simp [writeThrough, Bench.context, Bench.onMachine, Action.change, Except.bind,
          Except.toOption, written, hw]

theorem registerCallback_state (name : String) (effect : Action Machine Unit) :
    (registerCallback name effect b).2 = b.push (.callback name effect) := rfl

end Session

namespace Step

variable {step : Step} {b : Bench} {context : Context}

/-- An installing step installs its context where there is none, and beside
that touches files only. -/
theorem perform_of_installs (hstep : step.installs? = some context)
    (h : b.session.context = none) :
    ∃ files, step.perform b = (Session.installed context b).withFiles files := by
  cases step with
  | install c =>
      obtain rfl : c = context := Option.some.inj hstep
      exact ⟨b.machine.files, (Session.install_free _ h).2⟩
  | find c whitelist wanted =>
      obtain rfl : c = context := Option.some.inj hstep
      refine ⟨b.machine.files, ?_⟩
      rw [perform, Session.find_state, (Session.install_free _ h).2]
      rfl
  | openDevice c whitelist wanted =>
      obtain rfl : c = context := Option.some.inj hstep
      exact Session.openDevice_free whitelist wanted h
  | _ => cases hstep

/-- Where a context is installed already, an installing step changes nothing. -/
theorem perform_of_refused {old : Context} (hstep : step.installs? = some context)
    (h : b.session.context = some old) : step.perform b = b := by
  cases step with
  | install c => exact (Session.install_taken _ h).2
  | find c whitelist wanted => rw [perform, Session.find_state, (Session.install_taken _ h).2]
  | openDevice c whitelist wanted => exact (Session.openDevice_taken whitelist wanted h).2
  | _ => cases hstep

end Step

end PciBus

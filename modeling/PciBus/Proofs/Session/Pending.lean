import Mathlib.Data.List.Induction
import PciBus.Proofs.Session.Drain

/-!
# What stays due

Calls add to what is due and never look at it, until the session ends. So what
was due at some time lies unread below everything that is registered later
(`Step.perform_above`), and a run does the same whatever is there
(`after_above`).

It follows when an action has its turn: those that were registered later, the
same in every run that goes on in this way, come first. What it finds is
`reached`, and of the context it finds only what was there at its registration
(`context_of_reached`). What a single step registers is in `Step.adds`.
-/

namespace PciBus

/-! ## Actions below -/

namespace Bench

/-- The bench with more actions due, after all that are due already. -/
def above (below : List Cleanup) (b : Bench) : Bench :=
  { b with session.registry := ⟨b.session.registry.due ++ below⟩ }

@[simp] theorem above_due (below : List Cleanup) (b : Bench) :
    (b.above below).session.registry.due = b.session.registry.due ++ below := rfl

@[simp] theorem cleared_above (below : List Cleanup) (b : Bench) :
    (b.above below).cleared = b.cleared := rfl

theorem above_cleared (b : Bench) : b.cleared.above b.session.registry.due = b := rfl

/-- The action does the same whatever is due below. -/
def Unaware (x : Action Bench α) : Prop :=
  ∀ below b, x (b.above below) = ((x b).1, (x b).2.above below)

theorem unaware_pure (a : α) : Unaware (pure a) := fun _ _ => rfl

theorem unaware_fail (e : Fault) : Unaware (Action.fail e : Action Bench α) := fun _ _ => rfl

theorem unaware_note (level : Level) (message : String) (fields : List (String × String)) :
    Unaware (Action.note level message fields) := fun _ _ => rfl

theorem unaware_lift (x : Logged α) : Unaware (liftM x) := fun _ _ => rfl

theorem unaware_onFiles (x : Action Files α) : Unaware (onFiles x) := fun _ _ => rfl

theorem unaware_onMachine (x : Action Machine α) : Unaware (onMachine x) := fun _ _ => rfl

theorem unaware_setContext (context : Option Context) : Unaware (setContext context) :=
  fun _ _ => rfl

theorem unaware_register (action : Cleanup) : Unaware (onRegistry (Registry.register action)) :=
  fun _ _ => rfl

theorem Unaware.attempt {x : Action Bench α} (hx : Unaware x) : Unaware x.attempt := by
  intro below b
  rw [Action.attempt_apply, hx]
  rfl

theorem Unaware.bind {x : Action Bench α} {f : α → Action Bench β} (hx : Unaware x)
    (hf : ∀ a, Unaware (f a)) : Unaware (x >>= f) := by
  intro below b
  have hresult : (x (b.above below)).1.result = (x b).1.result := by rw [hx]
  cases h : (x b).1.result with
  | error e =>
      rw [Action.bind_apply_error f (hresult.trans h), Action.bind_apply_error f h, hx]
  | ok a =>
      rw [Action.bind_apply_ok f (hresult.trans h), Action.bind_apply_ok f h, hx]
      simp only [hf a below]

/-- Looking at the bench is harmless where nothing is made of what is due. -/
theorem Unaware.get_bind {f : Bench → Action Bench α}
    (hsame : ∀ below b, f (b.above below) = f b) (hf : ∀ b, Unaware (f b)) :
    Unaware (Action.get >>= f) := by
  intro below b
  have hget : (Action.get (b.above below)).1.result = .ok (b.above below) := rfl
  have hget' : (Action.get b).1.result = .ok b := rfl
  rw [Action.bind_apply_ok f hget, Action.bind_apply_ok f hget', hsame]
  simp only [Action.get_apply, hf b below, Logged.log_pure]

theorem unaware_context : Unaware context := by
  refine Unaware.get_bind (fun _ _ => rfl) fun b => ?_
  cases b.session.context with
  | none => exact unaware_fail _
  | some context => exact unaware_pure context

end Bench

open Bench

/-! ## Calls -/

namespace Session

theorem unaware_install (context : Context) : Unaware (install context) := by
  refine Unaware.get_bind (fun _ _ => rfl) fun b => ?_
  cases b.session.context with
  | none => exact (unaware_register .release).bind fun _ => unaware_setContext _
  | some old => exact (unaware_note _ _ _).bind fun _ => unaware_fail _

theorem unaware_find (context : Context) (whitelist : Whitelist Names) (wanted : Wanted) :
    Unaware (find context whitelist wanted) := by
  refine (unaware_install context).bind fun _ => ?_
  refine Unaware.get_bind (fun _ _ => rfl) fun b => ?_
  refine (unaware_lift _).bind fun found => ?_
  exact (unaware_note _ _ _).bind fun _ => unaware_pure _

theorem unaware_openDevice {τ : Type} (context : Context) (whitelist : Whitelist τ)
    (wanted : Wanted) : Unaware (openDevice context whitelist wanted) := by
  refine (unaware_install context).bind fun _ => ?_
  refine Unaware.get_bind (fun _ _ => rfl) fun b => ?_
  refine (unaware_lift _).bind fun (record, entry) => ?_
  refine (unaware_note _ _ _).bind fun _ => ?_
  refine (unaware_onFiles _).attempt.bind fun result => ?_
  cases result with
  | ok handle => exact unaware_pure handle
  | error e => exact (unaware_onFiles _).bind fun _ => unaware_fail e

theorem unaware_writeConfig (location : Location) (register : UInt16) (value : Value) :
    Unaware (writeConfig location register value) := by
  refine unaware_context.bind fun context => ?_
  refine Unaware.get_bind (fun _ _ => rfl) fun b => ?_
  refine (unaware_lift _).bind fun undo => ?_
  exact (unaware_register _).bind fun _ => unaware_onMachine _

end Session

/-- A step that does not end the session does the same whatever is due below. -/
theorem Step.perform_above {step : Step} (hstep : ¬ step.Drains) (below : List Cleanup)
    (b : Bench) : step.perform (b.above below) = (step.perform b).above below := by
  cases step with
  | install context => rw [perform, perform, Session.unaware_install]
  | release => rfl
  | find context whitelist wanted => rw [perform, perform, Session.unaware_find]
  | openDevice context whitelist wanted => rw [perform, perform, Session.unaware_openDevice]
  | write location register value => rw [perform, perform, Session.unaware_writeConfig]
  | read location register width =>
      rw [perform, perform, Session.readConfig_state, Session.readConfig_state]
  | writeThrough location offset width value =>
      rw [perform, perform, Session.writeThrough_state, Session.writeThrough_state]
      rfl
  | callback name effect => rfl
  | shutdown | drop => exact absurd trivial hstep
  | outside change => rfl

/-- No step of the run ends the session. -/
def GoesOn (steps : List Step) : Prop := ∀ step ∈ steps, ¬ step.Drains

theorem after_above {steps : List Step} (hsteps : GoesOn steps) (below : List Cleanup)
    (b : Bench) : after steps (b.above below) = (after steps b).above below := by
  induction steps generalizing b with
  | nil => rfl
  | cons step rest ih =>
      have hfirst := hsteps step List.mem_cons_self
      have hrest : GoesOn rest := fun s hs => hsteps s (List.mem_cons_of_mem _ hs)
      rw [after_cons, Step.perform_above hfirst, ih hrest, after_cons]

/-- What was due at first is still due, and below what the run has added. -/
theorem after_cleared {steps : List Step} (hsteps : GoesOn steps) (b : Bench) :
    after steps b = (after steps b.cleared).above b.session.registry.due := by
  rw [← after_above hsteps, above_cleared]

/-! ## Reaching what was due -/

/-- What the actions of a run leave when all of them have had their turn. What
was due before the run comes next. -/
def reached (steps : List Step) (b : Bench) : Bench :=
  drained (after steps b.cleared).session.registry.due (after steps b.cleared).cleared

/-- The turns of the drain after a run: first those of the actions that the run
has added. -/
theorem turns_after {steps : List Step} (hsteps : GoesOn steps) (b : Bench) :
    (after steps b).turns =
      (after steps b.cleared).turns ++ course b.session.registry.due (reached steps b) := by
  rw [after_cleared hsteps, Bench.turns, above_due, cleared_above, course_append]
  rfl

theorem shutdown_after {steps : List Step} (hsteps : GoesOn steps) (b : Bench) :
    (Session.shutdown (after steps b)).2 = drained b.session.registry.due (reached steps b) := by
  rw [after_cleared hsteps, Session.shutdown_state, above_due, cleared_above, drained_append]
  rfl

/-! One action more that was due at first has its turn there. -/

theorem size_after_push {steps : List Step} (hsteps : GoesOn steps) (b : Bench)
    (action : Cleanup) : (after steps (b.push action)).session.registry.size =
      (after steps b).session.registry.size + 1 := by
  have hcleared : (b.push action).cleared = b.cleared := rfl
  rw [after_cleared hsteps, after_cleared hsteps b, hcleared]
  simp only [Registry.size, above_due, List.length_append, push_due, List.length_cons,
    Nat.add_assoc]

theorem turns_after_push {steps : List Step} (hsteps : GoesOn steps) (b : Bench)
    (action : Cleanup) : (after steps (b.push action)).turns =
      (after steps b.cleared).turns ++ ⟨action, reached steps b⟩ ::
        course b.session.registry.due (Turn.left ⟨action, reached steps b⟩) :=
  turns_after hsteps (b.push action)

theorem shutdown_after_push {steps : List Step} (hsteps : GoesOn steps) (b : Bench)
    (action : Cleanup) : (Session.shutdown (after steps (b.push action))).2 =
      drained b.session.registry.due (Turn.left ⟨action, reached steps b⟩) :=
  shutdown_after hsteps (b.push action)

/-! ## What a step adds -/

/-- What a step registers, and what becomes of the context. -/
structure Step.Adds (step : Step) (b : Bench) (more : List Cleanup) : Prop where
  due : (step.perform b).session.registry.due = more ++ b.session.registry.due
  single : more.length ≤ 1
  context : (.release ∈ more ∧ (step.perform b).session.context = step.installs?) ∨
    (step.perform b).session.context = none ∨
    (step.perform b).session.context = b.session.context
  /-- An undo comes from a write, for which it was captured. -/
  restore : ∀ undo, .restore undo ∈ more → ∃ location register value,
    step = .write location register value ∧
      Session.captured? location register value.width b = some undo
  callback : ∀ name effect, .callback name effect ∈ more → step = .callback name effect

/-- A step that registers nothing and does not change the context. -/
theorem Step.Adds.nothing {step : Step} {b : Bench}
    (h : (step.perform b).session = b.session) : step.Adds b [] where
  due := by rw [h, List.nil_append]
  single := Nat.zero_le _
  context := .inr (.inr (by rw [h]))
  restore := by simp
  callback := by simp

theorem Step.adds_of_installs {step : Step} {context : Context}
    (hinstalls : step.installs? = some context) (b : Bench) : ∃ more, step.Adds b more := by
  cases hcontext : b.session.context with
  | none =>
      obtain ⟨files, hperform⟩ := perform_of_installs hinstalls hcontext
      refine ⟨[.release], by rw [hperform]; rfl, Nat.le_refl _, .inl ⟨List.mem_cons_self, ?_⟩,
        by simp, by simp⟩
      rw [hperform, hinstalls]
      rfl
  | some old => exact ⟨[], .nothing (by rw [perform_of_refused hinstalls hcontext])⟩

theorem Step.adds_write (location : Location) (register : UInt16) (value : Value) (b : Bench) :
    ∃ more, (Step.write location register value).Adds b more := by
  cases hcaptured : Session.captured? location register value.width b with
  | none =>
      have hperform : (write location register value).perform b = b :=
        Session.writeConfig_refused hcaptured
      exact ⟨[], .nothing (by rw [hperform])⟩
  | some undo =>
      have hperform : (write location register value).perform b = _ :=
        Session.writeConfig_captured hcaptured
      refine ⟨[.restore undo], by rw [hperform]; rfl, Nat.le_refl _,
        .inr (.inr (by rw [hperform]; rfl)), fun undo' hmem => ?_, by simp⟩
      obtain rfl := Cleanup.restore.inj (List.mem_singleton.mp hmem)
      exact ⟨location, register, value, rfl, hcaptured⟩

theorem Step.adds {step : Step} (hstep : ¬ step.Drains) (b : Bench) :
    ∃ more, step.Adds b more := by
  cases hinstalls : step.installs? with
  | some context => exact Step.adds_of_installs hinstalls b
  | none =>
      cases step with
      | install | find | openDevice => cases hinstalls
      | shutdown | drop => exact absurd trivial hstep
      | release => exact ⟨[], rfl, Nat.zero_le _, .inr (.inl rfl), by simp, by simp⟩
      | write location register value => exact Step.adds_write location register value b
      | read location register width =>
          have hperform : (read location register width).perform b = b :=
            Session.readConfig_state location register width
          exact ⟨[], .nothing (by rw [hperform])⟩
      | writeThrough location offset width value =>
          have hperform : (writeThrough location offset width value).perform b = _ :=
            Session.writeThrough_state location offset width value
          exact ⟨[], .nothing (by rw [hperform])⟩
      | callback name effect =>
          refine ⟨[.callback name effect], rfl, Nat.le_refl _, .inr (.inr rfl), by simp,
            fun other effect' hmem => ?_⟩
          obtain ⟨rfl, rfl⟩ := Cleanup.callback.inj (List.mem_singleton.mp hmem)
          rfl
      | outside change => exact ⟨[], .nothing rfl⟩

theorem Step.due_of_drains {step : Step} (hstep : step.Drains) (b : Bench) :
    step.perform b = (Session.shutdown b).2 ∧ (step.perform b).session.registry.due = [] := by
  have hdue : (Session.shutdown b).2.session.registry.due = [] := by
    rw [Session.shutdown_state, drained_session]
    rfl
  cases step with
  | shutdown => exact ⟨rfl, hdue⟩
  | drop => exact ⟨Session.drop_state b, by rw [perform, Session.drop_state, hdue]⟩
  | _ => exact hstep.elim

/-- **Where an undo comes from.** An undo that is due after a run was captured
for a write of the run, since which the session was not ended; below it is what
was due at that time. -/
theorem exists_write_of_due {start : Bench} (hstart : start.session.registry.due = [])
    {steps : List Step} {newer older : List Cleanup} {undo : Undo}
    (hdue : (after steps start).session.registry.due = newer ++ .restore undo :: older) :
    ∃ before location register value rest,
      steps = before ++ .write location register value :: rest ∧ GoesOn rest ∧
      Session.captured? location register value.width (after before start) = some undo ∧
      (after before start).session.registry.due = older := by
  induction steps using List.reverseRecOn generalizing newer with
  | nil =>
      rw [after_nil, hstart] at hdue
      cases newer <;> cases hdue
  | append_singleton steps step ih =>
      rw [after_snoc] at hdue
      by_cases hdrains : step.Drains
      · rw [(Step.due_of_drains hdrains _).2] at hdue
        cases newer <;> cases hdue
      obtain ⟨more, hadds⟩ := Step.adds hdrains (after steps start)
      -- the step has registered this undo, or the undo was due before it
      have hearlier : ∀ newer', (after steps start).session.registry.due =
          newer' ++ .restore undo :: older → ∃ before location register value rest,
            steps ++ [step] = before ++ .write location register value :: rest ∧ GoesOn rest ∧
            Session.captured? location register value.width (after before start) = some undo ∧
            (after before start).session.registry.due = older := by
        intro newer' hdue'
        obtain ⟨before, location, register, value, rest, rfl, hrest, hcaptured, holder⟩ :=
          ih hdue'
        refine ⟨before, location, register, value, rest ++ [step], by simp, fun s hs => ?_,
          hcaptured, holder⟩
        rcases List.mem_append.mp hs with h | h
        · exact hrest s h
        · rw [List.mem_singleton.mp h]
          exact hdrains
      rw [hadds.due] at hdue
      match more, hadds with
      | [], _ => exact hearlier newer hdue
      | [action], hadds =>
          cases newer with
          | cons first newer' => exact hearlier newer' (List.cons.inj hdue).2
          | nil =>
              obtain ⟨rfl, holder⟩ := List.cons.inj hdue
              obtain ⟨location, register, value, rfl, hcaptured⟩ :=
                hadds.restore undo List.mem_cons_self
              have hnone : GoesOn [] := fun s hs => by cases hs
              exact ⟨steps, location, register, value, [], rfl, hnone, hcaptured, holder⟩
      | _ :: _ :: _, hadds => exact absurd hadds.single (by simp)

/-- Either the context of the first bench is still held and nothing releases
it, or it is gone for what was due. -/
theorem held_or_released {steps : List Step} (hsteps : GoesOn steps) (b : Bench) :
    ((after steps b.cleared).session.context = b.session.context ∧
        ∀ action ∈ (after steps b.cleared).session.registry.due, action.isRelease = false) ∨
      (after steps b.cleared).session.context = none ∨
      .release ∈ (after steps b.cleared).session.registry.due := by
  induction steps using List.reverseRecOn with
  | nil => exact .inl ⟨rfl, fun _ h => by cases h⟩
  | append_singleton steps step ih =>
      have hbefore := ih fun s hs => hsteps s (List.mem_append_left _ hs)
      have hstep := hsteps step (List.mem_append_right _ (List.mem_singleton.mpr rfl))
      obtain ⟨more, hadds⟩ := Step.adds hstep (after steps b.cleared)
      rw [after_snoc, hadds.due]
      by_cases hrelease : .release ∈ more
      · exact .inr (.inr (List.mem_append_left _ hrelease))
      rcases hadds.context with ⟨h, -⟩ | hnone | hsame
      · exact absurd h hrelease
      · exact .inr (.inl hnone)
      · rw [hsame]
        rcases hbefore with ⟨hheld, hkept⟩ | hnone | hold
        · refine .inl ⟨hheld, fun action haction => ?_⟩
          rcases List.mem_append.mp haction with h | h
          · cases action with
            | release => exact absurd h hrelease
            | restore | callback => rfl
          · exact hkept action h
        · exact .inr (.inl hnone)
        · exact .inr (.inr (List.mem_append_right _ hold))

theorem drained_context_of_kept {due : List Cleanup} {b : Bench}
    (h : ∀ action ∈ due, action.isRelease = false) :
    (drained due b).session.context = b.session.context := by
  induction due generalizing b with
  | nil => rfl
  | cons action rest ih =>
      rw [drained_cons, ih fun a ha => h a (List.mem_cons_of_mem _ ha),
        left_context_of_kept (h action List.mem_cons_self)]

/-- The context that what was due finds in its turn is the one that there was
when it was registered. -/
theorem context_of_reached {steps : List Step} (hsteps : GoesOn steps) {b : Bench}
    {context : Context} (h : (reached steps b).session.context = some context) :
    b.session.context = some context := by
  rw [reached] at h
  rcases held_or_released hsteps b with ⟨hheld, hkept⟩ | hnone | hrelease
  · rw [drained_context_of_kept hkept] at h
    rw [← hheld]
    exact h
  · have hcleared : (after steps b.cleared).cleared.session.context = none := hnone
    rw [drained_context_none hcleared] at h
    cases h
  · rw [drained_context_of_release hrelease] at h
    cases h

end PciBus

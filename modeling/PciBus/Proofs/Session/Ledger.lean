import Mathlib.Data.List.Induction
import PciBus.Proofs.Session.Drain

/-!
# The ledger of a run

A session does not know which of its contexts an undo was captured from; it
only has the order in which things were registered. The ledger is the record
that somebody who watches the run could keep: every installation has a
number, and every registered action is entered with the installation that
the session held at the time.

The ledger agrees with the session after every run (`record_balances`). The
part that carries the weight is `Balances.marker`: what was registered under
the installation that is still held stands after the release of that very
installation, and everything else stands before it.
-/

namespace PciBus

/-! ## Entries -/

/-- An installation: its number in the run and the context it installed. -/
abbrev Installation := Nat × Context

/-- A registered action, and the installation held when it was registered. -/
structure Registered where
  action : Cleanup
  origin : Option Installation

/-- What a run has done to a session. -/
structure Ledger where
  /-- All installations. -/
  made : Nat := 0
  /-- The installation whose context the session still has. -/
  held : Option Installation := none
  /-- What was registered since the last drain, first registered first. -/
  entries : List Registered := []
  /-- Contexts installed since the last drain. -/
  installs : Nat := 0
  /-- Writes whose capture succeeded since the last drain. -/
  captures : Nat := 0
  /-- Callbacks registered since the last drain. -/
  callbacks : Nat := 0

namespace Ledger

/-- The entries in the order in which they are due: last registered first. -/
def due (l : Ledger) : List Cleanup := (l.entries.map Registered.action).reverse

def install (l : Ledger) (context : Context) : Ledger :=
  { l with
    made := l.made + 1
    held := some (l.made, context)
    entries := l.entries ++ [⟨.release, some (l.made, context)⟩]
    installs := l.installs + 1 }

def release (l : Ledger) : Ledger := { l with held := none }

def capture (l : Ledger) (undo : Undo) : Ledger :=
  { l with
    entries := l.entries ++ [⟨.restore undo, l.held⟩]
    captures := l.captures + 1 }

def callback (l : Ledger) (name : String) (effect : Action Machine Unit) : Ledger :=
  { l with
    entries := l.entries ++ [⟨.callback name effect, l.held⟩]
    callbacks := l.callbacks + 1 }

/-- A drain leaves nothing but the count of installations. -/
def drain (l : Ledger) : Ledger := { made := l.made }

end Ledger

/-- What a step adds to the ledger, by what it does to the bench it finds. -/
def Step.enter : Step → Bench → Ledger → Ledger
  | .install context, b, l | .find context _ _, b, l | .openDevice context _ _, b, l =>
      match (Session.install context b).1.result with
      | .ok () => l.install context
      | .error _ => l
  | .release, _, l => l.release
  | .write location register value, b, l =>
      match Session.captured? location register value.width b with
      | some undo => l.capture undo
      | none => l
  | .callback name effect, _, l => l.callback name effect
  | .shutdown, _, l | .drop, _, l => l.drain
  | .read _ _ _, _, l | .writeThrough _ _ _ _, _, l | .outside _, _, l => l

/-- The ledger `l` continued over a run. -/
def continued (l : Ledger) : List Step → Bench → Ledger
  | [], _ => l
  | step :: rest, b => continued (step.enter b l) rest (step.perform b)

/-- The ledger of a run. -/
def record (steps : List Step) (b : Bench) : Ledger := continued {} steps b

theorem record_snoc (steps : List Step) (step : Step) (b : Bench) :
    record (steps ++ [step]) b = step.enter (after steps b) (record steps b) := by
  have gen : ∀ (l : Ledger) (b : Bench),
      continued l (steps ++ [step]) b = step.enter (after steps b) (continued l steps b) := by
    induction steps with
    | nil => intro l b; rfl
    | cons first rest ih => intro l b; exact ih _ _
  exact gen {} b

/-! ## The ledger and the session agree -/

/-- The ledger `l` describes the session of the bench `b`. -/
structure Balances (b : Bench) (l : Ledger) : Prop where
  due : b.session.registry.due = l.due
  context : b.session.context = l.held.map Prod.snd
  length : l.entries.length = l.installs + l.captures + l.callbacks
  /-- Installations are numbered in their order. -/
  held_lt : ∀ p, l.held = some p → p.1 < l.made
  origin_lt : ∀ e ∈ l.entries, ∀ p, e.origin = some p → p.1 < l.made
  /-- An undo is captured from some context. -/
  restore_origin : ∀ e ∈ l.entries, ∀ undo, e.action = .restore undo → ∃ p, e.origin = some p
  /-- The release of the installation that is held divides the entries. -/
  marker : ∀ p, l.held = some p → ∃ older newer,
    l.entries = older ++ ⟨.release, some p⟩ :: newer ∧
    (∀ e ∈ older, e.origin ≠ some p) ∧
    ∀ e ∈ newer, e.action.isRelease = false ∧ e.origin = some p

namespace Balances

variable {b : Bench} {l : Ledger}

theorem fresh (root : String) (machine : Machine) : Balances (Bench.fresh root machine) {} where
  due := rfl
  context := rfl
  length := rfl
  held_lt := fun _ h => by cases h
  origin_lt := fun _ h => by cases h
  restore_origin := fun _ h => by cases h
  marker := fun _ h => by cases h

/-- The ledger says nothing about the machine. -/
theorem withMachine (h : Balances b l) (machine : Machine) :
    Balances { b with machine := machine } l where
  due := h.due
  context := h.context
  length := h.length
  held_lt := h.held_lt
  origin_lt := h.origin_lt
  restore_origin := h.restore_origin
  marker := h.marker

theorem install (h : Balances b l) (context : Context) :
    Balances (Session.installed context b) (l.install context) where
  due := by
    simp [Session.installed, Ledger.install, Ledger.due, h.due]
  context := rfl
  length := by
    have := h.length
    simp only [Ledger.install, List.length_append, List.length_singleton]
    omega
  held_lt := by
    intro p hp
    obtain rfl : (l.made, context) = p := Option.some.inj hp
    exact Nat.lt_succ_self _
  origin_lt := by
    intro e he p hp
    rcases List.mem_append.mp he with he | he
    · exact Nat.lt_succ_of_lt (h.origin_lt e he p hp)
    · obtain rfl := List.mem_singleton.mp he
      obtain rfl : (l.made, context) = p := Option.some.inj hp
      exact Nat.lt_succ_self _
  restore_origin := by
    intro e he undo hundo
    rcases List.mem_append.mp he with he | he
    · exact h.restore_origin e he undo hundo
    · obtain rfl := List.mem_singleton.mp he
      cases hundo
  marker := by
    intro p hp
    obtain rfl : (l.made, context) = p := Option.some.inj hp
    refine ⟨l.entries, [], rfl, ?_, fun _ he => by cases he⟩
    -- all older numbers are smaller than the one just given
    intro e he heq
    exact Nat.lt_irrefl _ (h.origin_lt e he _ heq)

theorem release (h : Balances b l) :
    Balances { b with session.context := none } l.release where
  due := h.due
  context := rfl
  length := h.length
  held_lt := fun _ hp => by cases hp
  origin_lt := h.origin_lt
  restore_origin := h.restore_origin
  marker := fun _ hp => by cases hp

/-- An action that is no release is entered under the installation held. -/
theorem push (h : Balances b l) {action : Cleanup} {installs captures callbacks : Nat}
    (hkind : action.isRelease = false)
    (horigin : ∀ undo, action = .restore undo → ∃ p, l.held = some p)
    (hcount : installs + captures + callbacks = l.installs + l.captures + l.callbacks + 1) :
    Balances (b.push action)
      { l with
        entries := l.entries ++ [⟨action, l.held⟩]
        installs := installs
        captures := captures
        callbacks := callbacks } where
  due := by
    simp [Ledger.due, h.due]
  context := h.context
  length := by
    have := h.length
    simp only [List.length_append, List.length_singleton]
    omega
  held_lt := h.held_lt
  origin_lt := by
    intro e he p hp
    rcases List.mem_append.mp he with he | he
    · exact h.origin_lt e he p hp
    · obtain rfl := List.mem_singleton.mp he
      exact h.held_lt p hp
  restore_origin := by
    intro e he undo hundo
    rcases List.mem_append.mp he with he | he
    · exact h.restore_origin e he undo hundo
    · obtain rfl := List.mem_singleton.mp he
      exact horigin undo hundo
  marker := by
    intro p hp
    obtain ⟨older, newer, hentries, holder, hnewer⟩ := h.marker p hp
    refine ⟨older, newer ++ [⟨action, l.held⟩], by simp [hentries], holder, ?_⟩
    intro e he
    rcases List.mem_append.mp he with he | he
    · exact hnewer e he
    · obtain rfl := List.mem_singleton.mp he
      exact ⟨hkind, hp⟩

/-- A held installation has its release among what is due. -/
theorem release_mem (h : Balances b l) (hcontext : b.session.context.isSome) :
    .release ∈ b.session.registry.due := by
  obtain ⟨p, hp⟩ : ∃ p, l.held = some p := by
    rw [h.context, Option.isSome_map] at hcontext
    exact Option.isSome_iff_exists.mp hcontext
  obtain ⟨older, newer, hentries, -, -⟩ := h.marker p hp
  rw [h.due, Ledger.due, hentries]
  simp

/-- A drain leaves a session as if it were new. -/
theorem drained_session (h : Balances b l) :
    (drained b.session.registry.due b.cleared).session = { root := b.session.root } := by
  have hnone : (drained b.session.registry.due b.cleared).session.context = none := by
    cases hcontext : b.session.context with
    | none => exact drained_context_none hcontext
    | some context =>
        exact drained_context_of_release (h.release_mem (by rw [hcontext]; rfl))
  rw [PciBus.drained_session, hnone]
  rfl

theorem drain (h : Balances b l) : Balances (Session.shutdown b).2 l.drain := by
  have hsession := h.drained_session
  rw [Session.shutdown_state]
  exact {
    due := by rw [hsession]; rfl
    context := by rw [hsession]; rfl
    length := rfl
    held_lt := fun _ hp => by cases hp
    origin_lt := fun _ he => by cases he
    restore_origin := fun _ he => by cases he
    marker := fun _ hp => by cases hp }

/-- **A step keeps the ledger.** -/
theorem step (h : Balances b l) (step : Step) :
    Balances (step.perform b) (step.enter b l) := by
  have installing : ∀ {s : Step} {context : Context}, s.installs? = some context →
      Balances (s.perform b)
        (match (Session.install context b).1.result with
          | .ok () => l.install context
          | .error _ => l) := by
    intro s context hs
    cases hcontext : b.session.context with
    | none =>
        obtain ⟨files, hfiles⟩ := Step.perform_of_installs hs hcontext
        rw [(Session.install_free _ hcontext).1, hfiles]
        exact (h.install context).withMachine _
    | some old =>
        rw [(Session.install_taken _ hcontext).1, Step.perform_of_refused hs hcontext]
        exact h
  cases step with
  | install context => exact installing rfl
  | find context whitelist wanted => exact installing rfl
  | openDevice context whitelist wanted => exact installing rfl
  | release => exact h.release
  | write location register value =>
      simp only [Step.perform, Step.enter]
      cases hundo : Session.captured? location register value.width b with
      | none => rw [Session.writeConfig_refused hundo]; exact h
      | some undo =>
          rw [Session.writeConfig_captured hundo]
          refine (h.push rfl ?_ ?_).withMachine _
          · intro _ _
            -- a capture needs a context, and the ledger knows which one it is
            cases hheld : l.held with
            | some p => exact ⟨p, rfl⟩
            | none =>
                have hnone := h.context
                rw [hheld] at hnone
                simp [Session.captured?, hnone] at hundo
          · omega
  | read location register width =>
      simp only [Step.perform, Session.readConfig_state]
      exact h
  | writeThrough location offset width value =>
      simp only [Step.perform, Session.writeThrough_state]
      exact h.withMachine _
  | callback name effect =>
      exact h.push rfl (fun _ hundo => by cases hundo) (by omega)
  | shutdown => exact h.drain
  | drop =>
      rw [Step.perform, Session.drop_state]
      exact h.drain
  | outside change => exact h.withMachine _

end Balances

/-- **The ledger agrees with the session**, whatever the run. -/
theorem record_balances (root : String) (machine : Machine) (steps : List Step) :
    Balances (after steps (Bench.fresh root machine)) (record steps (Bench.fresh root machine)) := by
  induction steps using List.reverseRecOn with
  | nil => exact Balances.fresh root machine
  | append_singleton steps step ih =>
      rw [after_snoc, record_snoc]
      exact ih.step step

end PciBus

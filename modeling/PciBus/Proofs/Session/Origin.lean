import Mathlib.Data.List.Forall2
import PciBus.Proofs.Session.Ledger

/-!
# Where restores go

An undo carries no mark of the context it was captured from. What keeps a
restore away from any other context is the order of the entries alone: the
release of the installation that is held stands below everything captured
from it and above everything captured earlier, so by the time an older
restore has its turn the context is gone (`restores_go_to_their_origin`).
-/

namespace PciBus

/-- In its turn a restore is handed to `context`: it asks for the function,
and writes if the function is there. -/
structure HandedTo (context : Context) (undo : Undo) (turn : Turn) : Prop where
  installed : turn.bench.session.context = some context
  left : turn.left =
    { turn.bench with
      machine :=
        if (context.find? turn.bench.machine undo.location).isSome then
          (context.write turn.bench.machine undo.location undo.register undo.previous.width
            undo.previous.raw).toOption.getD turn.bench.machine
        else turn.bench.machine }

/-- In its turn a restore finds no context and touches nothing. -/
structure PassedOver (turn : Turn) : Prop where
  gone : turn.bench.session.context = none
  result : turn.result = .error .noContext
  left : turn.left = turn.bench

theorem handedTo {context : Context} {undo : Undo} {turn : Turn}
    (haction : turn.action = .restore undo)
    (hcontext : turn.bench.session.context = some context) : HandedTo context undo turn := by
  obtain ⟨action, b⟩ := turn
  cases haction
  refine ⟨hcontext, ?_⟩
  simp only [Turn.left_restore, Turn.restored]
  simp only at hcontext
  rw [hcontext]

theorem passedOver {undo : Undo} {turn : Turn} (haction : turn.action = .restore undo)
    (hcontext : turn.bench.session.context = none) : PassedOver turn := by
  obtain ⟨action, ⟨⟨context, registry, root⟩, machine⟩⟩ := turn
  cases haction
  cases hcontext
  exact ⟨rfl, rfl, rfl⟩

/-- Above the first release, and where there is no context, all turns find
the same context. -/
theorem course_same_context (entries : List Registered) (b : Bench)
    (h : b.session.context = none ∨ ∀ e ∈ entries, e.action.isRelease = false) :
    List.Forall₂ (fun e turn => turn.action = e.action ∧
        turn.bench.session.context = b.session.context)
      entries (course (entries.map Registered.action) b) := by
  induction entries generalizing b with
  | nil => exact .nil
  | cons entry rest ih =>
      have hleft : (Turn.left ⟨entry.action, b⟩).session.context = b.session.context := by
        rcases h with h | h
        · rw [left_context_none h, h]
        · exact left_context_of_kept (h entry List.mem_cons_self)
      refine .cons ⟨rfl, rfl⟩ ?_
      have hrest := ih (Turn.left ⟨entry.action, b⟩) ?_
      · rwa [hleft] at hrest
      · rw [hleft]
        exact h.imp_right fun h e he => h e (List.mem_cons_of_mem _ he)

/-- What becomes of an entry in its turn, when the session holds `held`: a
restore goes to the context it was captured from if that very installation
is held, and to none if it is not. -/
def Faithful (held : Option Installation) (entry : Registered) (turn : Turn) : Prop :=
  turn.action = entry.action ∧ ∀ undo, entry.action = .restore undo →
    ∃ origin, entry.origin = some origin ∧
      if held = some origin then HandedTo origin.2 undo turn else PassedOver turn

/-- Entries that all come from the installation that their turns still find. -/
theorem faithful_held {entries : List Registered} {p : Installation} {b : Bench}
    (hcontext : b.session.context = some p.2)
    (hentries : ∀ e ∈ entries, e.action.isRelease = false ∧ e.origin = some p) :
    List.Forall₂ (Faithful (some p)) entries (course (entries.map Registered.action) b) := by
  have hsame := course_same_context entries b (.inr fun e he => (hentries e he).1)
  refine ((List.forall₂_and_left _ _).mpr ⟨fun e he => (hentries e he).2, hsame⟩).imp ?_
  rintro e turn ⟨horigin, haction, hturn⟩
  refine ⟨haction, fun undo hundo => ⟨p, horigin, ?_⟩⟩
  rw [if_pos rfl]
  exact handedTo (haction.trans hundo) (hturn.trans hcontext)

/-- Entries from other installations, met when no context is left. -/
theorem faithful_gone {entries : List Registered} {held : Option Installation} {b : Bench}
    (hcontext : b.session.context = none)
    (hentries : ∀ e ∈ entries, (∀ undo, e.action = .restore undo → ∃ p, e.origin = some p) ∧
      (held = none ∨ e.origin ≠ held)) :
    List.Forall₂ (Faithful held) entries (course (entries.map Registered.action) b) := by
  have hsame := course_same_context entries b (.inl hcontext)
  refine ((List.forall₂_and_left _ _).mpr ⟨hentries, hsame⟩).imp ?_
  rintro e turn ⟨⟨hsome, hother⟩, haction, hturn⟩
  refine ⟨haction, fun undo hundo => ?_⟩
  obtain ⟨p, hp⟩ := hsome undo hundo
  refine ⟨p, hp, ?_⟩
  have hne : held ≠ some p := by
    rintro rfl
    rcases hother with h | h
    · cases h
    · exact h hp
  rw [if_neg hne]
  exact passedOver (haction.trans hundo) (hturn.trans hcontext)

theorem Balances.faithful {b : Bench} {l : Ledger} (h : Balances b l) :
    List.Forall₂ (Faithful l.held) l.entries.reverse b.turns := by
  have hdue : b.turns = course (l.entries.reverse.map Registered.action) b.cleared := by
    rw [Bench.turns, h.due, Ledger.due, List.map_reverse]
  have hcontext : b.cleared.session.context = l.held.map Prod.snd := h.context
  rw [hdue]
  cases hheld : l.held with
  | none =>
      rw [hheld] at hcontext
      refine faithful_gone hcontext fun e he => ⟨?_, .inl rfl⟩
      exact h.restore_origin e (List.mem_reverse.mp he)
  | some p =>
      rw [hheld] at hcontext
      obtain ⟨older, newer, hentries, holder, hnewer⟩ := h.marker p hheld
      have hsplit : l.entries.reverse = newer.reverse ++ ⟨.release, some p⟩ :: older.reverse := by
        simp [hentries]
      rw [hsplit, List.map_append, course_append, List.map_cons, course]
      -- newer entries find the context, its release takes it away, older ones find none
      refine List.rel_append ?_ (.cons ?_ ?_)
      · exact faithful_held hcontext fun e he => hnewer e (List.mem_reverse.mp he)
      · exact ⟨rfl, fun undo hundo => by cases hundo⟩
      · refine faithful_gone ?_ fun e he => ⟨?_, .inr ?_⟩
        · rw [Turn.left_release]
        · refine h.restore_origin e ?_
          rw [hentries]
          exact List.mem_append_left _ (List.mem_reverse.mp he)
        · exact holder e (List.mem_reverse.mp he)

/-- **A restore never reaches a context it was not captured from.** Whatever
the run, a shutdown gives every entry one turn, and in it a restore is handed
to the installation it was captured from if the session still holds that one,
and is otherwise passed over. -/
theorem restores_go_to_their_origin (root : String) (machine : Machine) (steps : List Step) :
    let b := after steps (Bench.fresh root machine)
    let l := record steps (Bench.fresh root machine)
    b.session.context = l.held.map Prod.snd ∧
      List.Forall₂ (Faithful l.held) l.entries.reverse b.turns ∧
      (Session.shutdown b).2 = drained (b.turns.map Turn.action) b.cleared ∧
      (Session.drop b).2 = (Session.shutdown b).2 := by
  intro b l
  have h : Balances b l := record_balances root machine steps
  refine ⟨h.context, h.faithful, ?_, Session.drop_state b⟩
  rw [Session.shutdown_state, Bench.turns, course_actions]

end PciBus

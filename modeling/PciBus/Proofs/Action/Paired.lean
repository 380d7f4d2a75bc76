import Mathlib.Data.Setoid.Basic
import PciBus.Logged

/-!
# Two runs side by side

An operation may depend on a part of the state alone and change no more than
that part. To say so, it is run on two states that agree in the part and may
differ in everything else: it answers and logs the same, leaves states that
agree again, and the rest is as it was. `Paired` is this for one pair of
states. It has one rule for each way to put operations together, so that it can
be read off how an operation is written.
-/

namespace PciBus

/-- Two operations on states that agree in `own`: they answer and log the same
and leave states that agree again, and the first one changes nothing in `rest`. -/
structure Paired {σ α : Type} (own rest : Setoid σ) (x x' : Action σ α) (s s' : σ) : Prop where
  answer : (x s).1 = (x' s').1
  agree : own (x s).2 (x' s').2
  spares : rest s (x s).2

namespace Paired

variable {σ ρ α β : Type} {own rest : Setoid σ} {x x' : Action σ α} {f f' : α → Action σ β}
  {s s' : σ}

/-! ## Single operations -/

theorem made {y : Logged α} {p p' : σ} (hx : x s = (y, p)) (hx' : x' s' = (y, p'))
    (hown : own p p') (hrest : rest s p) : Paired own rest x x' s s' := by
  constructor
  · rw [hx, hx']
  · rwa [hx, hx']
  · rwa [hx]

/-- Operations that change nothing. -/
theorem still {y : Logged α} (hx : x s = (y, s)) (hx' : x' s' = (y, s')) (h : own s s') :
    Paired own rest x x' s s' :=
  .made hx hx' h (rest.refl s)

theorem modify {g g' : σ → σ} (hown : own (g s) (g' s')) (hrest : rest s (g s)) :
    Paired own rest (Action.modify g) (Action.modify g') s s' :=
  .made rfl rfl hown hrest

/-- A change that is refused on both states. -/
theorem refused {g g' : σ → Except Fault σ} {e : Fault} (hs : g s = .error e)
    (hs' : g' s' = .error e) (h : own s s') :
    Paired own rest (Action.change g) (Action.change g') s s' := by
  refine .still (y := .fail e) ?_ ?_ h
  · rw [Action.change, hs]
  · rw [Action.change, hs']

/-- And one that goes through on both. -/
theorem changed {g g' : σ → Except Fault σ} {p p' : σ} (hs : g s = .ok p) (hs' : g' s' = .ok p')
    (hown : own p p') (hrest : rest s p) :
    Paired own rest (Action.change g) (Action.change g') s s' := by
  refine .made (y := pure ()) ?_ ?_ hown hrest
  · rw [Action.change, hs]
  · rw [Action.change, hs']

theorem attempt (hx : Paired own rest x x' s s') :
    Paired own rest x.attempt x'.attempt s s' :=
  ⟨congrArg Logged.attempt hx.answer, hx.agree, hx.spares⟩

/-- Two operations on a part of a state are compared on that part. -/
theorem within {part : ρ → σ} {put : ρ → σ → ρ} {wide apart : Setoid ρ} {r r' : ρ}
    (hx : Paired own rest x x' (part r) (part r'))
    (hwide : ∀ p p', own p p' → wide (put r p) (put r' p'))
    (hapart : ∀ p, rest (part r) p → apart r (put r p)) :
    Paired wide apart (x.within part put) (x'.within part put) r r' :=
  ⟨hx.answer, hwide _ _ hx.agree, hapart _ hx.spares⟩

/-! ## Sequences -/

/-- The second operations are compared on what the first ones leave. After a
failure there is no second operation. -/
theorem bind (hx : Paired own rest x x' s s')
    (hf : ∀ a, (x s).1.result = .ok a → own (x s).2 (x' s').2 → rest s (x s).2 →
      Paired own rest (f a) (f' a) (x s).2 (x' s').2) :
    Paired own rest (x >>= f) (x' >>= f') s s' := by
  have hanswer := hx.answer
  cases hresult : (x s).1.result with
  | error e =>
      have hresult' : (x' s').1.result = .error e := hanswer ▸ hresult
      refine .made (Action.bind_apply_error f hresult) ?_ hx.agree hx.spares
      rw [Action.bind_apply_error f' hresult', hanswer]
  | ok a =>
      have hresult' : (x' s').1.result = .ok a := hanswer ▸ hresult
      have hnext := hf a hresult hx.agree hx.spares
      refine .made (Action.bind_apply_ok f hresult) ?_ hnext.agree
        (rest.trans hx.spares hnext.spares)
      rw [Action.bind_apply_ok f' hresult', hanswer, hnext.answer]

/-- Each operation may look at its own state first. -/
theorem get {g g' : σ → Action σ β} (h : Paired own rest (g s) (g' s') s s') :
    Paired own rest (Action.get >>= g) (Action.get >>= g') s s' := by
  have hlooked : ∀ (g : σ → Action σ β) s, (Action.get >>= g) s = g s s := fun _ _ => rfl
  refine .made (hlooked g s) ?_ h.agree h.spares
  rw [hlooked, h.answer]

/-- What does not touch the state answers the same in both runs. -/
theorem lift {y y' : Logged α} (hy : y = y') (h : own s s')
    (hf : ∀ a, y.result = .ok a → Paired own rest (f a) (f' a) s s') :
    Paired own rest (liftM y >>= f) (liftM y' >>= f') s s' := by
  subst hy
  exact .bind (.still rfl rfl h) fun a ha _ _ => hf a ha

theorem value {a : α} (h : own s s') (hf : Paired own rest (f a) (f' a) s s') :
    Paired own rest (pure a >>= f) (pure a >>= f') s s' := by
  show Paired own rest (liftM (pure a : Logged α) >>= f) (liftM (pure a : Logged α) >>= f') s s'
  refine .lift rfl h fun _ ha => ?_
  cases ha
  exact hf

theorem note {f f' : Unit → Action σ β} {level : Level} {message : String}
    {fields : List (String × String)} (h : own s s')
    (hf : Paired own rest (f ()) (f' ()) s s') :
    Paired own rest (Action.note level message fields >>= f)
      (Action.note level message fields >>= f') s s' := by
  show Paired own rest (liftM (Logged.note level message fields) >>= f)
    (liftM (Logged.note level message fields) >>= f') s s'
  exact .lift rfl h fun _ _ => hf

/-- A log entry at the end. -/
theorem noted {a : β} {level : Level} {message : String} {fields : List (String × String)}
    (h : own s s') :
    Paired own rest (do Action.note level message fields; return a)
      (do Action.note level message fields; return a) s s' := by
  refine .note h ?_
  exact .still rfl rfl h

end Paired

end PciBus

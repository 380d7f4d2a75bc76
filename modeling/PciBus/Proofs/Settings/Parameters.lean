import PciBus.Settings

/-!
# What a parameter text does to settings

The parameters of a text are taken in their order, up to the first that is
refused. Those before it are `Accepted`: among them there is one filter at
most. Why a parameter is refused (`refusal?`) depends on it and on whether
there has been a filter.

A filter is set as soon as it is read. So a text that is refused further on
leaves it set, and nothing else (`applySegments_outcome`).
-/

namespace PciBus.Settings

open Text

/-! ## One parameter -/

/-- The key and the value of a parameter, trimmed. -/
def parameter (segment : List Char) : Except Fault (List Char × List Char) :=
  match cutFirst '=' segment with
  | none => .error (.badParameter (.noValueSign (String.ofList segment)))
  | some (key, value) =>
      if trim value = [] then .error (.badParameter (.noValue (String.ofList (trim key))))
      else .ok (trim key, trim value)

/-- Why a parameter is refused, by whether a filter has been `seen` before
it. -/
def refusal? (seen : Bool) (segment : List Char) : Option Fault :=
  match parameter segment with
  | .error e => some e
  | .ok (key, value) =>
      if key ≠ filterKey then none
      else if seen then some (.badParameter .repeatedFilter)
      else
        match readFilter (String.ofList value) with
        | .error e => some e
        | .ok _ => none

/-- Parameters none of which is refused, the filter among them and the
others. -/
inductive Accepted : List (List Char) → Option Filter → List (String × String) → Prop
  | nil : Accepted [] none []
  | other {segment key value rest filter others} :
      parameter segment = .ok (key, value) → key ≠ filterKey → Accepted rest filter others →
      Accepted (segment :: rest) filter ((String.ofList key, String.ofList value) :: others)
  | filter {segment value rest filter others} :
      parameter segment = .ok (filterKey, value) →
      readFilter (String.ofList value) = .ok filter → Accepted rest none others →
      Accepted (segment :: rest) (some filter) others

/-- There is a filter exactly if one of the parameters has its key. -/
theorem Accepted.isSome_iff {segments : List (List Char)} {filter : Option Filter}
    {others : List (String × String)} (h : Accepted segments filter others) :
    filter.isSome ↔ ∃ segment ∈ segments, ∃ value, parameter segment = .ok (filterKey, value) := by
  induction h with
  | nil => simp
  | other hparameter hkey _ ih => simp [ih, hparameter, hkey]
  | filter hparameter _ _ _ => simp [hparameter]

/-! ## Runs of parameters -/

/-- What a parameter comes to, by its key and value. -/
theorem applySegments_cons (seen : Bool) (segment : List Char) (rest : List (List Char)) :
    applySegments seen (segment :: rest) =
      match parameter segment with
      | .error e => Action.fail e
      | .ok (key, value) =>
          if key ≠ filterKey then
            return (String.ofList key, String.ofList value) :: (← applySegments seen rest)
          else if seen then Action.fail (.badParameter .repeatedFilter)
          else (do
            let filter ← Logged.ofExcept (readFilter (String.ofList value))
            Action.modify fun settings => { settings with filter := some filter }
            applySegments true rest) := by
  rw [applySegments, parameter]
  cases cutFirst '=' segment with
  | none => rfl
  | some pair =>
      by_cases hvalue : trim pair.2 = []
      · simp [hvalue]
      · simp [hvalue]

/-- The settings after a filter, if there is one. -/
def holding (settings : Settings) (filter : Option Filter) : Settings :=
  { settings with filter := filter.or settings.filter }

theorem holding_none (settings : Settings) : settings.holding none = settings := rfl

/-- What a run of parameters answers, and the filter that it leaves. With a
filter `seen` before, none is accepted. -/
inductive Outcome (seen : Bool) :
    List (List Char) → Except Fault (List (String × String)) → Option Filter → Prop
  | accepted {segments filter others} :
      Accepted segments filter others → (seen → filter = none) →
      Outcome seen segments (.ok others) filter
  | refused {before bad rest filter others e} :
      Accepted before filter others → (seen → filter = none) →
      refusal? (seen || filter.isSome) bad = some e →
      Outcome seen (before ++ bad :: rest) (.error e) filter

namespace Outcome

variable {seen : Bool} {segment key value : List Char} {segments : List (List Char)}
  {result : Except Fault (List (String × String))} {found : Option Filter}

theorem other (hparameter : parameter segment = .ok (key, value)) (hkey : key ≠ filterKey)
    (h : Outcome seen segments result found) :
    Outcome seen (segment :: segments)
      (result.bind fun others => .ok ((String.ofList key, String.ofList value) :: others))
      found := by
  cases h with
  | accepted h hseen => exact .accepted (h.other hparameter hkey) hseen
  | refused h hseen hbad => exact .refused (h.other hparameter hkey) hseen hbad

theorem filter {filter : Filter} (hparameter : parameter segment = .ok (filterKey, value))
    (hfilter : readFilter (String.ofList value) = .ok filter)
    (h : Outcome true segments result found) :
    found = none ∧ Outcome false (segment :: segments) result (some filter) := by
  cases h with
  | accepted h hseen =>
      obtain rfl := hseen rfl
      exact ⟨rfl, .accepted (h.filter hparameter hfilter) nofun⟩
  | refused h hseen hbad =>
      obtain rfl := hseen rfl
      exact ⟨rfl, .refused (h.filter hparameter hfilter) nofun hbad⟩

end Outcome

/-- By induction on the parameters: only a filter touches the settings, and
stays, whatever comes after it. -/
theorem applySegments_outcome (seen : Bool) (segments : List (List Char)) (settings : Settings) :
    ∃ filter, Outcome seen segments (applySegments seen segments settings).1.result filter ∧
      (applySegments seen segments settings).2 = settings.holding filter := by
  induction segments generalizing seen settings with
  | nil => exact ⟨none, .accepted .nil fun _ => rfl, rfl⟩
  | cons segment segments ih =>
      have hrefused : ∀ {e}, refusal? seen segment = some e →
          Outcome seen ([] ++ segment :: segments) (.error e) none := fun hbad =>
        .refused .nil (fun _ => rfl) (by simpa using hbad)
      rw [applySegments_cons]
      cases hparameter : parameter segment with
      | error e => exact ⟨none, hrefused (by simp [refusal?, hparameter]), rfl⟩
      | ok pair =>
          obtain ⟨key, value⟩ := pair
          by_cases hkey : key ≠ filterKey
          · obtain ⟨filter, houtcome, hstate⟩ := ih seen settings
            refine ⟨filter, ?_, ?_⟩
            · simp only [if_pos hkey, Action.result_return]
              exact houtcome.other hparameter hkey
            · simp only [if_pos hkey, Action.state_return, hstate]
          obtain rfl : key = filterKey := Decidable.not_not.mp hkey
          cases seen with
          | true => exact ⟨none, hrefused (by simp [refusal?, hparameter]), rfl⟩
          | false =>
              cases hfilter : readFilter (String.ofList value) with
              | error e =>
                  refine ⟨none, ?_, ?_⟩
                  · simpa [hfilter, Except.bind] using
                      hrefused (e := e) (by simp [refusal?, hparameter, hfilter])
                  · simp [hfilter, holding_none]
              | ok filter =>
                  obtain ⟨found, houtcome, hstate⟩ :=
                    ih true { settings with filter := some filter }
                  obtain ⟨rfl, hcons⟩ := houtcome.filter hparameter hfilter
                  refine ⟨some filter, ?_, ?_⟩
                  · simpa [hfilter, Except.bind] using hcons
                  · simpa [hfilter, holding] using hstate

/-- A text that is refused has been read up to the parameter that is refused.
The settings are those before, but for the filter among the parameters in
front of it, if there is one. -/
theorem refused_text_keeps_earlier_filter {settings : Settings} {text : String} {e : Fault}
    (h : (apply text settings).1.result = .error e) :
    ∃ before bad rest filter others,
      segments text = before ++ bad :: rest ∧ Accepted before filter others ∧
      refusal? filter.isSome bad = some e ∧
      (apply text settings).2 = { settings with filter := filter.or settings.filter } ∧
      (filter.isSome ↔
        ∃ segment ∈ before, ∃ value, parameter segment = .ok (filterKey, value)) := by
  obtain ⟨filter, houtcome, hstate⟩ := applySegments_outcome false (segments text) settings
  rw [apply] at h ⊢
  rw [h] at houtcome
  generalize segments text = all at houtcome hstate ⊢
  cases houtcome with
  | refused haccepted _ hbad =>
      exact ⟨_, _, _, _, _, rfl, haccepted, by simpa using hbad, hstate, haccepted.isSome_iff⟩

/-- The second parameter has no equals sign; the filter before it has been read. -/
def laterFault : String := "pci=00:01.0,bad"

theorem laterFault_keeps_filter :
    let e := Fault.badParameter (.noValueSign "bad")
    let kept : Filter := { bus := some 0, device := some 1, function := some 0 }
    (apply laterFault {}).1.result = .error e ∧ (apply laterFault {}).2 = { filter := some kept } ∧
    ∃ before bad rest others,
      segments laterFault = before ++ bad :: rest ∧ Accepted before (some kept) others ∧
      refusal? true bad = some e := by
  intro e kept
  have hrefused : (apply laterFault {}).1.result = .error e := by
    have hfault : (match (apply laterFault {}).1.result with
        | .ok _ => none
        | .error found => some found) = some e := by
      decide +kernel
    cases hresult : (apply laterFault {}).1.result with
    | ok others => simp [hresult] at hfault
    | error found => simpa [hresult] using hfault
  have hkept : (apply laterFault {}).2 = { filter := some kept } := by decide +kernel
  obtain ⟨before, bad, rest, filter, others, hsegments, haccepted, hbad, hstate, -⟩ :=
    refused_text_keeps_earlier_filter hrefused
  obtain rfl : filter = some kept := by
    have hfilter := congrArg Settings.filter (hstate.symm.trans hkept)
    exact (Option.or_none (o := filter)).symm.trans hfilter
  exact ⟨hrefused, hkept, before, bad, rest, others, hsegments, haccepted, hbad⟩

/-- So a text that is refused need not leave the settings as they were. -/
theorem laterFault_changes_settings :
    (apply laterFault {}).1.result.toOption = none ∧ (apply laterFault {}).2 ≠ {} := by
  constructor
  · decide +kernel
  · decide +kernel

end PciBus.Settings

import Mathlib.Data.List.Forall2
import PciBus.Proofs.Settings.Parameters
import PciBus.Proofs.Text.Cut

/-!
# What a parameter text asks for

The parameters of a text are its parts between commas (`HasParameters`). Each
has a key and a value, which stand around its first equals sign (`Reads`). What
a text asks for is said here without an order of reading: its parameters
are `Acceptable` if all have values, one of them at most is the filter, and that
one can be read. If they are not, there is a first that offends against this,
and how it does is the fault (`FirstOffence`).

Applying a text comes to just that (`parameters_read`): to the others with their
keys and values, and to the filter, if there is one. The settings it is applied
to have no say in it.
-/

namespace PciBus.Settings

open Text

/-! ## The parameters of a text -/

/-- The parameters of a text are its parts between commas, without the blanks
around them. A part with nothing but blanks is none. -/
def HasParameters (text : String) (parameters : List (List Char)) : Prop :=
  ∃ parts trimmed, (parts ≠ [] ∧ (∀ part ∈ parts, ',' ∉ part) ∧
      [','].intercalate parts = text.toList) ∧
    List.Forall₂ IsTrimmed parts trimmed ∧ parameters = trimmed.filter (· ≠ [])

theorem forall₂_isTrimmed_iff {parts trimmed : List (List Char)} :
    List.Forall₂ IsTrimmed parts trimmed ↔ parts.map trim = trimmed := by
  rw [← List.forall₂_eq_eq_eq, List.forall₂_map_left_iff]
  simp only [trim_eq_iff]

theorem hasParameters_iff {text : String} {parameters : List (List Char)} :
    HasParameters text parameters ↔ parameters = segments text := by
  have hfilter : ∀ trimmed : List (List Char),
      trimmed.filter (· ≠ []) = trimmed.filter (!·.isEmpty) := by
    intro trimmed
    refine List.filter_congr fun part _ => ?_
    cases part <;> rfl
  constructor
  · rintro ⟨parts, trimmed, hparts, htrimmed, rfl⟩
    obtain rfl := pieces_eq_iff.mpr hparts
    obtain rfl := forall₂_isTrimmed_iff.mp htrimmed
    exact hfilter _
  · rintro rfl
    exact ⟨_, _, pieces_eq_iff.mp rfl, forall₂_isTrimmed_iff.mpr rfl, (hfilter _).symm⟩

/-! ## Keys and values -/

/-- The key and the value of a parameter stand around its first equals sign. -/
def Reads (segment key value : List Char) : Prop :=
  ∃ before after, segment = before ++ '=' :: after ∧ '=' ∉ before ∧
    IsTrimmed before key ∧ IsTrimmed after value

/-- What stands before the first equals sign. -/
def keyOf (segment : List Char) : List Char := trim (segment.takeWhile (· ≠ '='))

/-- What stands behind the first equals sign. -/
def valueOf (segment : List Char) : List Char := trim ((segment.dropWhile (· ≠ '=')).drop 1)

theorem takeWhile_dropWhile_of_cut {before : List Char} (after : List Char) (h : '=' ∉ before) :
    (before ++ '=' :: after).takeWhile (· ≠ '=') = before ∧
      (before ++ '=' :: after).dropWhile (· ≠ '=') = '=' :: after := by
  have hbefore : ∀ c ∈ before, decide (c ≠ '=') = true := by
    intro c hc
    exact decide_eq_true fun heq => h (heq ▸ hc)
  rw [List.takeWhile_append_of_pos hbefore, List.dropWhile_append_of_pos hbefore]
  simp

theorem keyOf_valueOf_of_cut {before : List Char} (after : List Char) (h : '=' ∉ before) :
    keyOf (before ++ '=' :: after) = trim before ∧
      valueOf (before ++ '=' :: after) = trim after := by
  obtain ⟨htake, hdrop⟩ := takeWhile_dropWhile_of_cut after h
  rw [keyOf, valueOf, htake, hdrop]
  exact ⟨rfl, rfl⟩

theorem reads_iff {segment key value : List Char} :
    Reads segment key value ↔ '=' ∈ segment ∧ key = keyOf segment ∧ value = valueOf segment := by
  constructor
  · rintro ⟨before, after, rfl, hbefore, hkey, hvalue⟩
    obtain ⟨hkeyOf, hvalueOf⟩ := keyOf_valueOf_of_cut after hbefore
    exact ⟨by simp, hkeyOf ▸ (trim_eq_iff.mpr hkey).symm, hvalueOf ▸ (trim_eq_iff.mpr hvalue).symm⟩
  · rintro ⟨hsign, rfl, rfl⟩
    obtain ⟨before, after, rfl, hbefore⟩ := List.eq_append_cons_of_mem hsign
    obtain ⟨hkeyOf, hvalueOf⟩ := keyOf_valueOf_of_cut after hbefore
    exact ⟨before, after, rfl, hbefore, hkeyOf ▸ isTrimmed_trim before,
      hvalueOf ▸ isTrimmed_trim after⟩

/-- What is the matter with a parameter on its own. -/
theorem parameter_eq (segment : List Char) :
    parameter segment =
      if '=' ∉ segment then .error (.badParameter (.noValueSign (String.ofList segment)))
      else if valueOf segment = [] then
        .error (.badParameter (.noValue (String.ofList (keyOf segment))))
      else .ok (keyOf segment, valueOf segment) := by
  rw [parameter]
  cases hcut : cutFirst '=' segment with
  | none => rw [if_pos (cutFirst_eq_none_iff.mp hcut)]
  | some parts =>
      obtain ⟨before, after⟩ := parts
      obtain ⟨rfl, hbefore⟩ := cutFirst_eq_some_iff.mp hcut
      obtain ⟨hkey, hvalue⟩ := keyOf_valueOf_of_cut after hbefore
      simp [hkey, hvalue]

theorem parameter_eq_ok_iff {segment key value : List Char} :
    parameter segment = .ok (key, value) ↔
      '=' ∈ segment ∧ value ≠ [] ∧ key = keyOf segment ∧ value = valueOf segment := by
  rw [parameter_eq]
  split
  · simp_all
  split
  · simp_all
  · rename_i hsign hvalue
    rw [Except.ok.injEq, Prod.mk.injEq]
    constructor
    · rintro ⟨rfl, rfl⟩
      exact ⟨Decidable.not_not.mp hsign, hvalue, rfl, rfl⟩
    · rintro ⟨-, -, rfl, rfl⟩
      exact ⟨rfl, rfl⟩

/-! ## Parameters that are accepted -/

/-- The parameter is the filter. -/
def IsFilter (segment : List Char) : Prop := keyOf segment = ['p', 'c', 'i']

instance : DecidablePred IsFilter := fun _ => inferInstanceAs (Decidable (_ = _))

/-- Every parameter has a value, one at most is the filter, and its value can be
read as one. -/
structure Acceptable (segments : List (List Char)) : Prop where
  valued : ∀ segment ∈ segments, '=' ∈ segment ∧ valueOf segment ≠ []
  single : segments.Pairwise fun segment other => ¬ (IsFilter segment ∧ IsFilter other)
  understood : ∀ segment ∈ segments, IsFilter segment →
    ∃ filter, readFilter (String.ofList (valueOf segment)) = .ok filter

/-- The parameters that are not the filter, in their order. -/
def remaining (segments : List (List Char)) : List (String × String) :=
  (segments.filter fun segment => ¬ IsFilter segment).map fun segment =>
    (String.ofList (keyOf segment), String.ofList (valueOf segment))

/-- The filter among the parameters. -/
def filterIn? (segments : List (List Char)) : Option Filter :=
  (segments.find? fun segment => IsFilter segment).bind fun segment =>
    (readFilter (String.ofList (valueOf segment))).toOption

theorem filterIn?_eq_none {segments : List (List Char)}
    (h : ∀ segment ∈ segments, ¬ IsFilter segment) : filterIn? segments = none := by
  have hfind : (segments.find? fun segment => decide (IsFilter segment)) = none := by
    simpa using h
  rw [filterIn?, hfind, Option.bind_none]

theorem exists_of_filterIn? {segments : List (List Char)} {filter : Filter}
    (h : filterIn? segments = some filter) : ∃ segment ∈ segments, IsFilter segment := by
  obtain ⟨segment, hfind, -⟩ := Option.bind_eq_some_iff.mp h
  exact ⟨segment, List.mem_of_find?_eq_some hfind, by simpa using List.find?_some hfind⟩

/-- Among acceptable parameters there is no filter only if none is one. -/
theorem Acceptable.filterIn?_eq_none_iff {segments : List (List Char)} (h : Acceptable segments) :
    filterIn? segments = none ↔ ∀ segment ∈ segments, ¬ IsFilter segment := by
  refine ⟨fun hnone => ?_, filterIn?_eq_none⟩
  cases hfind : segments.find? fun segment => decide (IsFilter segment) with
  | none => simpa using hfind
  | some segment =>
      have hfilter : IsFilter segment := by simpa using List.find?_some hfind
      obtain ⟨filter, hread⟩ := h.understood segment (List.mem_of_find?_eq_some hfind) hfilter
      rw [filterIn?, hfind, Option.bind_some, hread] at hnone
      cases hnone

section

variable {segment : List Char} {segments : List (List Char)}

theorem Acceptable.cons_iff :
    Acceptable (segment :: segments) ↔
      ('=' ∈ segment ∧ valueOf segment ≠ []) ∧
      (IsFilter segment → (∀ other ∈ segments, ¬ IsFilter other) ∧
        ∃ filter, readFilter (String.ofList (valueOf segment)) = .ok filter) ∧
      Acceptable segments := by
  constructor
  · rintro ⟨hvalued, hsingle, hunderstood⟩
    rw [List.forall_mem_cons] at hvalued hunderstood
    rw [List.pairwise_cons] at hsingle
    exact ⟨hvalued.1, fun hfilter => ⟨fun other hother hother' =>
      hsingle.1 other hother ⟨hfilter, hother'⟩, hunderstood.1 hfilter⟩,
      hvalued.2, hsingle.2, hunderstood.2⟩
  · rintro ⟨hvalue, hfilter, hrest⟩
    refine ⟨List.forall_mem_cons.mpr ⟨hvalue, hrest.valued⟩,
      List.pairwise_cons.mpr ⟨?_, hrest.single⟩,
      List.forall_mem_cons.mpr ⟨fun h => (hfilter h).2, hrest.understood⟩⟩
    rintro other hother ⟨hsegment, hother'⟩
    exact (hfilter hsegment).1 other hother hother'

theorem remaining_cons (segment : List Char) (segments : List (List Char)) :
    remaining (segment :: segments) =
      if IsFilter segment then remaining segments
      else (String.ofList (keyOf segment), String.ofList (valueOf segment)) ::
        remaining segments := by
  rw [remaining, List.filter_cons]
  by_cases hfilter : IsFilter segment <;> simp [hfilter, remaining]

theorem filterIn?_cons (segment : List Char) (segments : List (List Char)) :
    filterIn? (segment :: segments) =
      if IsFilter segment then (readFilter (String.ofList (valueOf segment))).toOption
      else filterIn? segments := by
  rw [filterIn?, List.find?_cons]
  by_cases hfilter : IsFilter segment <;> simp [hfilter, filterIn?]

/-- The parameters that are taken are those that are acceptable, whatever order
they are read in. -/
theorem accepted_iff {filter : Option Filter} {others : List (String × String)} :
    Accepted segments filter others ↔
      Acceptable segments ∧ filter = filterIn? segments ∧ others = remaining segments := by
  constructor
  · intro h
    induction h with
    | nil => exact ⟨⟨by simp, .nil, by simp⟩, rfl, rfl⟩
    | @other segment key value rest filter others hparameter hkey _ ih =>
        obtain ⟨hrest, rfl, rfl⟩ := ih
        obtain ⟨hsign, hvalue, rfl, rfl⟩ := parameter_eq_ok_iff.mp hparameter
        have hother : ¬ IsFilter segment := hkey
        refine ⟨Acceptable.cons_iff.mpr ⟨⟨hsign, hvalue⟩, fun h => absurd h hother, hrest⟩, ?_, ?_⟩
        · rw [filterIn?_cons, if_neg hother]
        · rw [remaining_cons, if_neg hother]
    | @filter segment value rest filter others hparameter hread _ ih =>
        obtain ⟨hrest, hnone, rfl⟩ := ih
        obtain ⟨hsign, hvalue, hkey, rfl⟩ := parameter_eq_ok_iff.mp hparameter
        have hfilter : IsFilter segment := hkey.symm
        have hothers := hrest.filterIn?_eq_none_iff.mp hnone.symm
        refine ⟨Acceptable.cons_iff.mpr
          ⟨⟨hsign, hvalue⟩, fun _ => ⟨hothers, filter, hread⟩, hrest⟩, ?_, ?_⟩
        · rw [filterIn?_cons, if_pos hfilter, hread]
          rfl
        · rw [remaining_cons, if_pos hfilter]
  · rintro ⟨hacceptable, rfl, rfl⟩
    induction segments with
    | nil => exact .nil
    | cons segment segments ih =>
        obtain ⟨⟨hsign, hvalue⟩, hfilter, hrest⟩ := Acceptable.cons_iff.mp hacceptable
        rw [filterIn?_cons, remaining_cons]
        by_cases hkey : IsFilter segment
        · obtain ⟨hothers, filter, hread⟩ := hfilter hkey
          have hparameter : parameter segment = .ok (filterKey, valueOf segment) :=
            parameter_eq_ok_iff.mpr ⟨hsign, hvalue, hkey.symm, rfl⟩
          rw [if_pos hkey, if_pos hkey, hread]
          refine .filter hparameter hread ?_
          rw [← filterIn?_eq_none hothers]
          exact ih hrest
        · rw [if_neg hkey, if_neg hkey]
          exact .other (parameter_eq_ok_iff.mpr ⟨hsign, hvalue, rfl, rfl⟩) hkey (ih hrest)

end

/-! ## The first offence -/

/-- How a parameter offends behind those `before` it, which do not. -/
inductive Offends (before : List (List Char)) (segment : List Char) : Fault → Prop
  | noSign : '=' ∉ segment →
      Offends before segment (.badParameter (.noValueSign (String.ofList segment)))
  | noValue : '=' ∈ segment → valueOf segment = [] →
      Offends before segment (.badParameter (.noValue (String.ofList (keyOf segment))))
  | repeated : '=' ∈ segment → valueOf segment ≠ [] → IsFilter segment →
      (∃ earlier ∈ before, IsFilter earlier) → Offends before segment (.badParameter .repeatedFilter)
  | unreadable {e : Fault} : '=' ∈ segment → valueOf segment ≠ [] → IsFilter segment →
      (∀ earlier ∈ before, ¬ IsFilter earlier) →
      readFilter (String.ofList (valueOf segment)) = .error e → Offends before segment e

/-- The fault of the first parameter that offends. -/
def FirstOffence (segments : List (List Char)) (e : Fault) : Prop :=
  ∃ before bad rest, segments = before ++ bad :: rest ∧ Acceptable before ∧ Offends before bad e

section

variable {before rest : List (List Char)} {bad : List Char} {e : Fault}

theorem refusal?_eq (seen : Bool) (segment : List Char) :
    refusal? seen segment =
      if '=' ∉ segment then some (.badParameter (.noValueSign (String.ofList segment)))
      else if valueOf segment = [] then
        some (.badParameter (.noValue (String.ofList (keyOf segment))))
      else if ¬ IsFilter segment then none
      else if seen then some (.badParameter .repeatedFilter)
      else
        match readFilter (String.ofList (valueOf segment)) with
        | .error e => some e
        | .ok _ => none := by
  rw [refusal?, parameter_eq]
  by_cases hsign : '=' ∉ segment
  · rw [if_pos hsign, if_pos hsign]
  rw [if_neg hsign, if_neg hsign]
  by_cases hvalue : valueOf segment = []
  · rw [if_pos hvalue, if_pos hvalue]
  · rw [if_neg hvalue, if_neg hvalue]
    simp only [IsFilter, filterKey, ne_eq]
    cases readFilter (String.ofList (valueOf segment)) <;> rfl

theorem offends_of_refusal? (hbefore : Acceptable before)
    (h : refusal? (filterIn? before).isSome bad = some e) : Offends before bad e := by
  rw [refusal?_eq] at h
  split at h
  · rename_i hsign
    exact Option.some.inj h ▸ .noSign hsign
  rename_i hsign
  have hsign := Decidable.not_not.mp hsign
  split at h
  · rename_i hvalue
    exact Option.some.inj h ▸ .noValue hsign hvalue
  rename_i hvalue
  split at h
  · cases h
  rename_i hfilter
  have hfilter := Decidable.not_not.mp hfilter
  split at h
  · rename_i hseen
    obtain ⟨filter, hfound⟩ := Option.isSome_iff_exists.mp hseen
    exact Option.some.inj h ▸ .repeated hsign hvalue hfilter (exists_of_filterIn? hfound)
  · rename_i hseen
    have hfirst := hbefore.filterIn?_eq_none_iff.mp (Option.not_isSome_iff_eq_none.mp hseen)
    split at h
    · rename_i e' hread
      exact Option.some.inj h ▸ .unreadable hsign hvalue hfilter hfirst hread
    · cases h

/-- With one that offends among them, parameters are not acceptable. -/
theorem Offends.not_acceptable (h : Offends before bad e) :
    ¬ Acceptable (before ++ bad :: rest) := by
  rintro ⟨hvalued, hsingle, hunderstood⟩
  have hmem : bad ∈ before ++ bad :: rest := by simp
  cases h with
  | noSign hsign => exact hsign (hvalued bad hmem).1
  | noValue _ hvalue => exact (hvalued bad hmem).2 hvalue
  | repeated _ _ hfilter hearlier =>
      obtain ⟨earlier, hearlier, hfilter'⟩ := hearlier
      have hpair := (List.pairwise_append.mp hsingle).2.2 earlier hearlier bad List.mem_cons_self
      exact hpair ⟨hfilter', hfilter⟩
  | unreadable _ _ hfilter _ hread =>
      obtain ⟨filter, hok⟩ := hunderstood bad hmem hfilter
      rw [hread] at hok
      cases hok

theorem Offends.unique {e' : Fault} (h : Offends before bad e) (h' : Offends before bad e') :
    e = e' := by
  cases h <;> cases h' <;> grind

end

theorem FirstOffence.not_acceptable {segments : List (List Char)} {e : Fault}
    (h : FirstOffence segments e) : ¬ Acceptable segments := by
  obtain ⟨before, bad, rest, rfl, -, hbad⟩ := h
  exact hbad.not_acceptable

/-- There is one first offence at most. -/
theorem FirstOffence.unique {segments : List (List Char)} {e e' : Fault}
    (h : FirstOffence segments e) (h' : FirstOffence segments e') : e = e' := by
  obtain ⟨before, bad, rest, rfl, hbefore, hbad⟩ := h
  obtain ⟨before', bad', rest', heq, hbefore', hbad'⟩ := h'
  -- neither of the two can stand before the other
  rcases List.append_eq_append_iff.mp heq with ⟨mid, rfl, hmid⟩ | ⟨mid, rfl, hmid⟩
  · cases mid with
    | nil =>
        obtain ⟨rfl, -⟩ := List.cons.inj hmid
        rw [List.append_nil] at hbad'
        exact hbad.unique hbad'
    | cons first mid =>
        obtain ⟨rfl, -⟩ := List.cons.inj hmid
        exact absurd hbefore' hbad.not_acceptable
  · cases mid with
    | nil =>
        obtain ⟨rfl, -⟩ := List.cons.inj hmid
        rw [List.append_nil] at hbad
        exact hbad.unique hbad'
    | cons first mid =>
        obtain ⟨rfl, -⟩ := List.cons.inj hmid
        exact absurd hbefore hbad'.not_acceptable

/-! ## Applying a text -/

/-- What applying a text comes to, by whether its parameters are acceptable. -/
theorem apply_cases (settings : Settings) (text : String) :
    Acceptable (segments text) ∧
        (apply text settings).1.result = .ok (remaining (segments text)) ∧
        (apply text settings).2 = settings.holding (filterIn? (segments text)) ∨
      ∃ e, FirstOffence (segments text) e ∧ (apply text settings).1.result = .error e := by
  obtain ⟨filter, houtcome, hstate⟩ := applySegments_outcome false (segments text) settings
  rw [apply]
  generalize hresult : (applySegments false (segments text) settings).1.result = result
  rw [hresult] at houtcome
  generalize segments text = all at houtcome hstate hresult ⊢
  cases houtcome with
  | accepted haccepted _ =>
      obtain ⟨hacceptable, rfl, rfl⟩ := accepted_iff.mp haccepted
      exact .inl ⟨hacceptable, rfl, hstate⟩
  | @refused before bad rest _ others e haccepted _ hbad =>
      obtain ⟨hacceptable, rfl, rfl⟩ := accepted_iff.mp haccepted
      have hoffends := offends_of_refusal? hacceptable (by simpa using hbad)
      exact .inr ⟨e, ⟨before, bad, rest, rfl, hacceptable, hoffends⟩, rfl⟩

section

variable {settings : Settings} {text : String}

theorem apply_eq_ok_iff {others : List (String × String)} :
    (apply text settings).1.result = .ok others ↔
      Acceptable (segments text) ∧ others = remaining (segments text) := by
  rcases apply_cases settings text with ⟨hacceptable, hok, -⟩ | ⟨e, hoffence, herror⟩
  · rw [hok, Except.ok.injEq]
    exact ⟨fun h => ⟨hacceptable, h.symm⟩, fun h => h.2.symm⟩
  · rw [herror]
    exact ⟨nofun, fun h => absurd h.1 hoffence.not_acceptable⟩

theorem apply_eq_error_iff {e : Fault} :
    (apply text settings).1.result = .error e ↔ FirstOffence (segments text) e := by
  rcases apply_cases settings text with ⟨hacceptable, hok, -⟩ | ⟨e', hoffence, herror⟩
  · rw [hok]
    exact ⟨nofun, fun h => absurd hacceptable h.not_acceptable⟩
  · rw [herror, Except.error.injEq]
    exact ⟨fun h => h ▸ hoffence, fun h => hoffence.unique h⟩

theorem apply_state (h : Acceptable (segments text)) :
    (apply text settings).2 = settings.holding (filterIn? (segments text)) := by
  rcases apply_cases settings text with ⟨-, -, hstate⟩ | ⟨e, hoffence, -⟩
  · exact hstate
  · exact absurd h hoffence.not_acceptable

/-- What a text is applied to has no say in what is answered. -/
theorem result_apply_eq (settings other : Settings) (text : String) :
    (apply text settings).1.result = (apply text other).1.result := by
  cases h : (apply text other).1.result with
  | ok others => exact apply_eq_ok_iff.mpr (apply_eq_ok_iff.mp h)
  | error e => exact apply_eq_error_iff.mpr (apply_eq_error_iff.mp h)

theorem ofParameters_eq (settings : Settings) (text : String) :
    ofParameters text = (apply text settings).1.result.map fun others =>
      ({ filter := filterIn? (segments text) }, others) := by
  rw [result_apply_eq settings {} text, ofParameters]
  cases hresult : (apply text {}).1.result with
  | error e =>
      simp only [hresult]
      rfl
  | ok others =>
      simp only [hresult, apply_state (apply_eq_ok_iff.mp hresult).1, holding, Option.or_none]
      rfl

end

/-- **Parameter texts.** A text has its parameters in one way only, and each
that has an equals sign its key and its value. The text is accepted exactly if
its parameters are acceptable, and otherwise refused for the first offence. What
is answered are the parameters that are not the filter. The settings afterwards
are those before, but for the filter among the parameters, if there is one.
Applied to the defaults, a text comes to the same. -/
theorem parameters_read (settings : Settings) (text : String) :
    ∃ parameters, (∀ listed, HasParameters text listed ↔ listed = parameters) ∧
      (∀ parameter key value, Reads parameter key value ↔
        '=' ∈ parameter ∧ key = keyOf parameter ∧ value = valueOf parameter) ∧
      (∀ others, (apply text settings).1.result = .ok others ↔
        Acceptable parameters ∧ others = remaining parameters) ∧
      (∀ e, (apply text settings).1.result = .error e ↔ FirstOffence parameters e) ∧
      (Acceptable parameters → (apply text settings).2 =
        { settings with filter := (filterIn? parameters).or settings.filter }) ∧
      ofParameters text = (apply text settings).1.result.map fun others =>
        ({ filter := filterIn? parameters }, others) :=
  ⟨segments text, fun _ => hasParameters_iff, fun _ _ _ => reads_iff, fun _ => apply_eq_ok_iff,
    fun _ => apply_eq_error_iff, apply_state, ofParameters_eq settings text⟩

/-- A filter between two others, with blanks around it and in it, and with parts
that are blank. -/
def programmerText : String := " spispeed=1M,, pci = 03:00.0 , ,type=a=b\t"

def programmerParameters : List (List Char) :=
  ["spispeed=1M".toList, "pci = 03:00.0".toList, "type=a=b".toList]

theorem programmerText_read :
    HasParameters programmerText programmerParameters ∧ Acceptable programmerParameters ∧
    (apply programmerText {}).1.result = .ok [("spispeed", "1M"), ("type", "a=b")] ∧
    (apply programmerText {}).2 =
      { filter := some { bus := some 3, device := some 0, function := some 0 } } := by
  have hhas : HasParameters programmerText programmerParameters := by
    refine ⟨[" spispeed=1M".toList, [], " pci = 03:00.0 ".toList, [' '], "type=a=b\t".toList],
      ["spispeed=1M".toList, [], "pci = 03:00.0".toList, [], "type=a=b".toList], ?_, ?_, ?_⟩
    · decide +kernel
    · decide +kernel
    · decide +kernel
  have hread : ∀ segment ∈ programmerParameters, IsFilter segment →
      (readFilter (String.ofList (valueOf segment))).toBool := by
    decide +kernel
  have hacceptable : Acceptable programmerParameters := by
    refine ⟨by decide +kernel, by decide +kernel, fun segment hmem hfilter => ?_⟩
    cases h : readFilter (String.ofList (valueOf segment)) with
    | ok filter => exact ⟨filter, rfl⟩
    | error e => exact absurd (hread segment hmem hfilter) (by simp [h, Except.toBool])
  obtain ⟨parameters, hlisted, -, hok, -, hstate, -⟩ := parameters_read {} programmerText
  obtain rfl := (hlisted _).mp hhas
  refine ⟨hhas, hacceptable, (hok _).mpr ⟨hacceptable, by decide +kernel⟩, ?_⟩
  exact (hstate hacceptable).trans (by decide +kernel)

end PciBus.Settings

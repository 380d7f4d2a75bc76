import PciBus.Proofs.Location.Identity
import PciBus.Proofs.Whitelist.Selection

/-!
# Choosing one of several

Where more than one supported function is usable, operators are told to name
the one they mean in the form `bb:dd.f`. The functions that are in each other's
way are the `contenders`, and a filter leaves those of them that it accepts
(`Whitelist.select_filtered`). The form `bb:dd.f` is read as a filter for each
of them, and it selects the one that is meant if no other is written like it
(`Whitelist.operator_form_selects`). It does not say the domain, so functions
that differ in nothing else stay in each other's way
(`Whitelist.twins_not_selected`). The name of the directory, which says it,
selects any of them.
-/

namespace PciBus

namespace Whitelist

variable {τ : Type} {whitelist : Whitelist τ} {records : List Record} {keep : Record → Bool}
  {usable : Record → Logged Bool} {found : Record × Supported τ}

/-! ## Candidates under a filter -/

theorem candidates_cons (whitelist : Whitelist τ) (filter : Filter) (record : Record)
    (rest : List Record) :
    whitelist.candidates filter (record :: rest) =
      (if filter.accepts record.location then ((whitelist.entryFor? record).map (record, ·)).toList
        else []) ++ whitelist.candidates filter rest := by
  unfold candidates
  cases haccepts : filter.accepts record.location with
  | false => simp [haccepts]
  | true => cases hentry : whitelist.entryFor? record <;> simp [haccepts, hentry]

/-- A filter leaves candidates out and does nothing else. -/
theorem candidates_eq_filter (whitelist : Whitelist τ) (filter : Filter) (records : List Record) :
    whitelist.candidates filter records =
      (whitelist.candidates .any records).filter fun found => filter.accepts found.1.location := by
  induction records with
  | nil => rfl
  | cons record rest ih =>
      rw [candidates_cons, candidates_cons, List.filter_append, ← ih,
        if_pos (Filter.accepts_any record.location)]
      cases hentry : whitelist.entryFor? record with
      | none => simp
      | some entry => simp [List.filter_cons]

/-! ## Contenders -/

/-- The usable candidates while no function is named. -/
def contenders (whitelist : Whitelist τ) (keep : Record → Bool) (records : List Record) :
    List (Record × Supported τ) :=
  (whitelist.candidates .any records).filter (keep ∘ Prod.fst)

/-- Where functions are at different places, so are the contenders. -/
theorem nodup_locations (hdistinct : (records.map (·.location)).Nodup) :
    ((whitelist.contenders keep records).map (·.1.location)).Nodup := by
  have hsub : ((whitelist.contenders keep records).map (·.1.location)).Sublist
      (((whitelist.candidates .any records).map Prod.fst).map (·.location)) := by
    rw [List.map_map]
    exact List.filter_sublist.map _
  apply List.Nodup.sublist hsub
  rw [candidates_fst]
  exact hdistinct.sublist (List.filter_sublist.map _)

theorem select_filtered (hall : ∀ record, (usable record).result = .ok (keep record))
    (filter : Filter) :
    (whitelist.select filter usable records).result =
      (theOnly ((whitelist.contenders keep records).filter
        fun found => filter.accepts found.1.location)).result := by
  rw [select_result hall, candidates_eq_filter, contenders, List.filter_filter,
    List.filter_filter]
  simp only [Bool.and_comm]

theorem select_unfiltered (hall : ∀ record, (usable record).result = .ok (keep record)) :
    (whitelist.select .any usable records).result =
      (theOnly (whitelist.contenders keep records)).result :=
  select_result hall

/-- One of several is the only one that is let through if no other is. -/
theorem theOnly_filter_eq_ok_iff {several : List (Record × Supported τ)} (hnodup : several.Nodup)
    (hfound : found ∈ several) {through : Record × Supported τ → Bool}
    (hthrough : through found = true) :
    (theOnly (several.filter through)).result = .ok found ↔
      ∀ other ∈ several, through other = true → other = found := by
  rw [theOnly_eq_ok_iff]
  constructor
  · intro honly other hother hlet
    have hmem : other ∈ several.filter through := List.mem_filter.mpr ⟨hother, hlet⟩
    rw [honly] at hmem
    exact List.mem_singleton.mp hmem
  · intro hsame
    have hrepeat := List.eq_replicate_of_mem fun other hother =>
      hsame other (List.mem_filter.mp hother).1 (List.mem_filter.mp hother).2
    have hle : (several.filter through).length ≤ 1 := by
      rw [← List.nodup_replicate (a := found), ← hrepeat]
      exact hnodup.filter _
    have hpos := List.length_pos_of_mem (List.mem_filter.mpr ⟨hfound, hthrough⟩)
    rw [hrepeat, Nat.le_antisymm hle hpos]
    rfl

/-- Otherwise it is said how many are let through. -/
theorem theOnly_filter_eq_error {several : List (Record × Supported τ)}
    {other : Record × Supported τ} (hfound : found ∈ several) (hother : other ∈ several)
    (hne : other ≠ found) {through : Record × Supported τ → Bool}
    (hthrough : through found = true) (hthrough' : through other = true) :
    (theOnly (several.filter through)).result =
      .error (.manyDevices (several.countP through)) := by
  rw [List.countP_eq_length_filter, theOnly_eq_error_iff]
  refine .inr ⟨?_, rfl⟩
  have hmem := List.mem_filter.mpr ⟨hfound, hthrough⟩
  have hmem' := List.mem_filter.mpr ⟨hother, hthrough'⟩
  by_contra hle
  obtain ⟨only, honly⟩ := List.length_eq_one_iff.mp
    (Nat.le_antisymm (Nat.le_of_not_lt hle) (List.length_pos_of_mem hmem))
  rw [honly, List.mem_singleton] at hmem hmem'
  exact hne (hmem'.trans hmem.symm)

/-! ## Naming the one that is meant -/

/-- **Naming a function.** Without a filter there are too many functions exactly
if there is more than one contender. Each contender is selected by the name of
its directory. In the form `bb:dd.f`, which is understood as well, it is
selected exactly if there is no other contender that is written like it, and
then it is said how many are. -/
theorem operator_form_selects (hall : ∀ record, (usable record).result = .ok (keep record))
    (hdistinct : (records.map (·.location)).Nodup) :
    (∀ count, (whitelist.select .any usable records).result = .error (.manyDevices count) ↔
      1 < (whitelist.contenders keep records).length ∧
        count = (whitelist.contenders keep records).length) ∧
    ∀ found ∈ whitelist.contenders keep records,
      found.1.location.device < 32 → found.1.location.function < 8 →
      (∃ filter, Settings.readFilter found.1.location.short = .ok filter ∧
        ((whitelist.select filter usable records).result = .ok found ↔
          ∀ other ∈ whitelist.contenders keep records,
            other.1.location.short = found.1.location.short → other = found) ∧
        ∀ other ∈ whitelist.contenders keep records,
          other.1.location.short = found.1.location.short → other ≠ found →
          (whitelist.select filter usable records).result =
            .error (.manyDevices ((whitelist.contenders keep records).countP fun other =>
              other.1.location.short = found.1.location.short))) ∧
      (found.1.location.domain ≤ 0x7fffffff →
        ∃ filter, Settings.readFilter found.1.location.name = .ok filter ∧
          (whitelist.select filter usable records).result = .ok found) := by
  have hlocations : ((whitelist.contenders keep records).map (·.1.location)).Nodup :=
    nodup_locations hdistinct
  have hnodup : (whitelist.contenders keep records).Nodup := .of_map _ hlocations
  constructor
  · intro count
    rw [select_unfiltered hall, theOnly_eq_error_iff]
    simp
  · intro found hfound hdevice hfunction
    have haccepts : ∀ other : Record × Supported τ,
        found.1.location.operatorFilter.accepts other.1.location =
          decide (other.1.location.short = found.1.location.short) := by
      intro other
      rw [Bool.eq_iff_iff, Location.accepts_operatorFilter_iff, decide_eq_true_iff]
    refine ⟨⟨found.1.location.operatorFilter, Location.readFilter_short hdevice hfunction, ?_, ?_⟩,
      ?_⟩
    · simp only [select_filtered hall, haccepts]
      rw [theOnly_filter_eq_ok_iff hnodup hfound (decide_eq_true rfl)]
      simp only [decide_eq_true_iff]
    · intro other hother hshort hne
      simp only [select_filtered hall, haccepts]
      exact theOnly_filter_eq_error hfound hother hne (decide_eq_true rfl) (decide_eq_true hshort)
    · intro hdomain
      refine ⟨found.1.location.filter, Location.readFilter_name hdomain hdevice hfunction, ?_⟩
      rw [select_filtered hall,
        theOnly_filter_eq_ok_iff hnodup hfound (Location.accepts_filter_iff.mpr rfl)]
      intro other hother hsame
      exact List.inj_on_of_nodup_map hlocations hother hfound
        (Location.accepts_filter_iff.mp hsame)

/-! ## A card in two domains -/

/-- A network card at a location. -/
def card (location : Location) : Record where
  location := location
  vendor := 0x8086
  device := 0x10d3
  classCode := 0x020000
  header := 0
  command := 0
  bases := .replicate 6 0
  sizes := .replicate 6 0
  romBase := 0
  romSize := 0

/-- Two cards in one slot of two domains, and one in another slot. -/
def cards : List Record := [card ⟨0, 0, 0x1f, 2⟩, card ⟨1, 0, 0x1f, 2⟩, card ⟨0, 0, 3, 0⟩]

/-- The entry for all of them. -/
def cardEntry : Supported Unit := ⟨0x8086, 0x10d3, .works, ()⟩

/-- The card in the other slot is selected by what operators write, and one of
the two by the name of its directory. -/
theorem cards_selected :
    (∃ filter, Settings.readFilter (Location.short ⟨0, 0, 3, 0⟩) = .ok filter ∧
      (select [cardEntry] filter (fun _ => pure true) cards).result =
        .ok (card ⟨0, 0, 3, 0⟩, cardEntry)) ∧
    ∃ filter, Settings.readFilter (Location.name ⟨1, 0, 0x1f, 2⟩) = .ok filter ∧
      (select [cardEntry] filter (fun _ => pure true) cards).result =
        .ok (card ⟨1, 0, 0x1f, 2⟩, cardEntry) := by
  have hall : ∀ record : Record, (pure true : Logged Bool).result = .ok ((fun _ => true) record) :=
    fun _ => rfl
  have hdistinct : (cards.map (·.location)).Nodup := by decide
  obtain ⟨-, hselects⟩ := @operator_form_selects _ [cardEntry] _ _ _ hall hdistinct
  obtain ⟨⟨filter, hread, hiff, -⟩, -⟩ :=
    hselects (card ⟨0, 0, 3, 0⟩, cardEntry) (by decide +kernel) (by decide) (by decide)
  obtain ⟨-, hname⟩ :=
    hselects (card ⟨1, 0, 0x1f, 2⟩, cardEntry) (by decide +kernel) (by decide) (by decide)
  exact ⟨⟨filter, hread, hiff.mpr (by decide +kernel)⟩, hname (by decide)⟩

/-- What operators are told to write does not select a function that sits in the
slot of another in a second domain. -/
theorem twins_not_selected :
    ¬ ∀ (whitelist : Whitelist Unit) (keep : Record → Bool) (records : List Record),
      (records.map (·.location)).Nodup →
      (∀ record ∈ records, record.location.device < 32 ∧ record.location.function < 8) →
      ∀ count, (whitelist.select .any (fun record => pure (keep record)) records).result =
        .error (.manyDevices count) →
      ∀ found ∈ whitelist.contenders keep records,
        ∃ filter, Settings.readFilter found.1.location.short = .ok filter ∧
          (whitelist.select filter (fun record => pure (keep record)) records).result =
            .ok found := by
  intro h
  have hall : ∀ record : Record, (pure true : Logged Bool).result = .ok ((fun _ => true) record) :=
    fun _ => rfl
  have hmany : (select [cardEntry] .any (fun _ => pure true) cards).result =
      .error (.manyDevices 3) := by
    rw [select_unfiltered hall, theOnly_eq_error_iff]
    decide +kernel
  obtain ⟨filter, hread, hselected⟩ := h [cardEntry] (fun _ => true) cards (by decide) (by decide)
    3 hmany (card ⟨0, 0, 0x1f, 2⟩, cardEntry) (by decide +kernel)
  obtain rfl : Location.operatorFilter ⟨0, 0, 0x1f, 2⟩ = filter :=
    Except.ok.inj ((Location.readFilter_short (by decide) (by decide)).symm.trans hread)
  rw [select_filtered hall, theOnly_eq_ok_iff] at hselected
  exact absurd hselected (by decide +kernel)

end Whitelist

end PciBus

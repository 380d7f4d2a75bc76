import PciBus.Whitelist

/-!
# Choosing among the enumerated functions

A function counts if an entry with its numbers stands before the first one with
vendor number zero (`Whitelist.isSome_entryFor?_iff`), and it counts once: the
entry is the first of those (`Whitelist.entryFor?_eq_some_iff`). So neither what
follows the end of a list nor an entry that repeats an earlier one makes a
difference (`Whitelist.entryFor?_ended`, `Whitelist.entryFor?_repeated`).

Selecting answers the only candidate that is usable, and says how many there
are if there are more (`Whitelist.select_result`, `Whitelist.theOnly_eq_ok_iff`,
`Whitelist.theOnly_eq_error_iff`).
-/

namespace PciBus

variable {τ : Type}

/-- The entry has the numbers of the function. -/
def Supported.IsFor (entry : Supported τ) (record : Record) : Prop :=
  entry.vendor = record.vendor ∧ entry.device = record.device

instance (entry : Supported τ) (record : Record) : Decidable (entry.IsFor record) :=
  inferInstanceAs (Decidable (_ ∧ _))

namespace Whitelist

variable {whitelist : Whitelist τ} {record : Record} {entry : Supported τ}

/-! ## Entries -/

/-- The function is listed before the first entry with vendor number zero. -/
def Lists (whitelist : Whitelist τ) (record : Record) : Prop :=
  ∃ before entry after, whitelist = before ++ entry :: after ∧
    (∀ other ∈ before ++ [entry], other.vendor ≠ 0) ∧ entry.IsFor record

/-- The entry is the first for the function, and the list has not ended by
then. -/
def FirstFor (whitelist : Whitelist τ) (record : Record) (entry : Supported τ) : Prop :=
  ∃ before after, whitelist = before ++ entry :: after ∧ entry.vendor ≠ 0 ∧
    entry.IsFor record ∧ ∀ other ∈ before, other.vendor ≠ 0 ∧ ¬ other.IsFor record

theorem entryFor?_cons (entry : Supported τ) (rest : Whitelist τ) (record : Record) :
    entryFor? (entry :: rest) record =
      if entry.vendor = 0 then none
      else if entry.IsFor record then some entry
      else entryFor? rest record := by
  have hnumbers : (entry.vendor == record.vendor && entry.device == record.device) =
      decide (entry.IsFor record) := by
    rw [Bool.eq_iff_iff, Bool.and_eq_true, beq_iff_eq, beq_iff_eq, decide_eq_true_iff]
    rfl
  unfold entryFor? active
  by_cases hend : entry.vendor = 0
  · simp [hend]
  · rw [List.takeWhile_cons_of_pos (by simpa using hend), List.find?_cons, hnumbers, if_neg hend]
    by_cases hfor : entry.IsFor record
    · rw [decide_eq_true hfor, if_pos hfor]
    · rw [decide_eq_false hfor, if_neg hfor]

/-- The rest of a list counts where the part before it leaves off. -/
theorem entryFor?_append (before after : Whitelist τ) (record : Record) :
    entryFor? (before ++ after) record =
      if ∃ other ∈ before, other.vendor = 0 ∨ other.IsFor record then entryFor? before record
      else entryFor? after record := by
  induction before with
  | nil => simp
  | cons entry rest ih =>
      rw [List.cons_append, entryFor?_cons, entryFor?_cons, ih]
      by_cases hend : entry.vendor = 0
      · simp [hend]
      · by_cases hfor : entry.IsFor record
        · simp [hend, hfor]
        · simp [hend, hfor]

theorem entryFor?_ended {listed unread : Whitelist τ} {last : Supported τ}
    (hlast : last.vendor = 0) (record : Record) :
    entryFor? (listed ++ last :: unread) record = entryFor? listed record := by
  have hnothing : entryFor? (last :: unread) record = entryFor? [] record := by
    rw [entryFor?_cons, if_pos hlast]
    rfl
  rw [entryFor?_append, hnothing, ← entryFor?_append, List.append_nil]

theorem entryFor?_repeated {before after : Whitelist τ} {entry earlier : Supported τ}
    (hearlier : earlier ∈ before) (hvendor : earlier.vendor = entry.vendor)
    (hdevice : earlier.device = entry.device) (record : Record) :
    entryFor? (before ++ entry :: after) record = entryFor? (before ++ after) record := by
  rw [entryFor?_append, entryFor?_append]
  split
  · rfl
  · rename_i hopen
    -- what holds of the earlier entry holds of this one
    have hend : ¬ entry.vendor = 0 := fun h => hopen ⟨earlier, hearlier, .inl (hvendor ▸ h)⟩
    have hfor : ¬ entry.IsFor record := fun h =>
      hopen ⟨earlier, hearlier, .inr ⟨hvendor ▸ h.1, hdevice ▸ h.2⟩⟩
    rw [entryFor?_cons, if_neg hend, if_neg hfor]

theorem entryFor?_eq_some_iff :
    whitelist.entryFor? record = some entry ↔ whitelist.FirstFor record entry := by
  constructor
  · intro h
    induction whitelist with
    | nil => cases h
    | cons head rest ih =>
        rw [entryFor?_cons] at h
        by_cases hend : head.vendor = 0
        · rw [if_pos hend] at h
          cases h
        rw [if_neg hend] at h
        by_cases hfor : head.IsFor record
        · rw [if_pos hfor] at h
          obtain rfl := Option.some.inj h
          exact ⟨[], rest, rfl, hend, hfor, by simp⟩
        · rw [if_neg hfor] at h
          obtain ⟨before, after, rfl, hvendor, hentry, hbefore⟩ := ih h
          refine ⟨head :: before, after, rfl, hvendor, hentry, ?_⟩
          intro other hother
          rcases List.mem_cons.mp hother with rfl | hother
          · exact ⟨hend, hfor⟩
          · exact hbefore other hother
  · rintro ⟨before, after, rfl, hvendor, hentry, hbefore⟩
    rw [entryFor?_append, if_neg, entryFor?_cons, if_neg hvendor, if_pos hentry]
    rintro ⟨other, hother, hend | hfor⟩
    · exact (hbefore other hother).1 hend
    · exact (hbefore other hother).2 hfor

theorem isSome_entryFor?_iff : (whitelist.entryFor? record).isSome ↔ whitelist.Lists record := by
  constructor
  · intro h
    obtain ⟨entry, hentry⟩ := Option.isSome_iff_exists.mp h
    obtain ⟨before, after, hsplit, hvendor, hfor, hbefore⟩ := entryFor?_eq_some_iff.mp hentry
    refine ⟨before, entry, after, hsplit, ?_, hfor⟩
    intro other hother
    rcases List.mem_append.mp hother with hother | hother
    · exact (hbefore other hother).1
    · rw [List.mem_singleton.mp hother]
      exact hvendor
  · rintro ⟨before, entry, after, rfl, hopen, hfor⟩
    induction before with
    | nil => simp [entryFor?_cons, hfor, hopen entry]
    | cons head rest ih =>
        have hrest : ∀ other ∈ rest ++ [entry], other.vendor ≠ 0 :=
          fun other hother => hopen other (List.mem_cons_of_mem head hother)
        have hhead : ¬ head.vendor = 0 := hopen head List.mem_cons_self
        rw [List.cons_append, entryFor?_cons, if_neg hhead]
        split
        · rfl
        · exact ih hrest

instance (whitelist : Whitelist τ) (record : Record) : Decidable (whitelist.Lists record) :=
  decidable_of_iff _ isSome_entryFor?_iff

/-! ## Candidates -/

variable {filter : Filter} {records : List Record}

theorem candidates_fst (whitelist : Whitelist τ) (filter : Filter) (records : List Record) :
    (whitelist.candidates filter records).map Prod.fst =
      records.filter fun record =>
        filter.accepts record.location && (whitelist.entryFor? record).isSome := by
  induction records with
  | nil => rfl
  | cons record rest ih =>
      rw [candidates] at ih ⊢
      rw [List.filter_cons, List.filter_cons]
      cases haccepts : filter.accepts record.location with
      | false => simpa using ih
      | true =>
          cases hentry : whitelist.entryFor? record <;> simpa [hentry] using ih

theorem firstFor_of_mem_candidates
    (h : (record, entry) ∈ whitelist.candidates filter records) :
    whitelist.FirstFor record entry := by
  obtain ⟨other, -, hother⟩ := List.mem_filterMap.mp h
  obtain ⟨found, hfound, hpair⟩ := Option.map_eq_some_iff.mp hother
  obtain ⟨rfl, rfl⟩ := Prod.mk.inj hpair
  exact entryFor?_eq_some_iff.mp hfound

/-- Lists with the same first entries have the same candidates. -/
theorem candidates_congr {whitelist' : Whitelist τ}
    (h : ∀ record, whitelist.entryFor? record = whitelist'.entryFor? record) (filter : Filter)
    (records : List Record) :
    whitelist.candidates filter records = whitelist'.candidates filter records := by
  unfold candidates
  simp only [h]

/-! ## Selecting -/

@[simp] theorem announce_result (candidate : Record × Supported τ) :
    (announce candidate).result = .ok () := by
  simp only [announce, Logged.result_bind, Logged.result_note, Except.bind]
  split <;> rfl

theorem keepUsable_result {usable : Record → Logged Bool} {keep : Record → Bool}
    (hall : ∀ record, (usable record).result = .ok (keep record))
    (found : List (Record × Supported τ)) :
    (keepUsable usable found).result = .ok (found.filter (keep ∘ Prod.fst)) := by
  induction found with
  | nil => rfl
  | cons candidate rest ih =>
      simp only [keepUsable, Logged.result_bind, announce_result, Except.bind, hall, ih,
        Logged.result_pure, List.filter_cons, Function.comp_apply]

theorem theOnly_eq_ok_iff {candidates : List (Record × Supported τ)}
    {found : Record × Supported τ} :
    (theOnly candidates).result = .ok found ↔ candidates = [found] := by
  match candidates with
  | [] => simp [theOnly, Except.bind]
  | [candidate] => simp [theOnly]
  | first :: second :: rest => simp [theOnly, Except.bind]

theorem theOnly_eq_error_iff {candidates : List (Record × Supported τ)} {e : Fault} :
    (theOnly candidates).result = .error e ↔
      candidates = [] ∧ e = .noDevice ∨
      1 < candidates.length ∧ e = .manyDevices candidates.length := by
  match candidates with
  | [] => simp [theOnly, Except.bind, eq_comm]
  | [candidate] => simp [theOnly]
  | first :: second :: rest => simp [theOnly, Except.bind, eq_comm]

theorem select_result {usable : Record → Logged Bool} {keep : Record → Bool}
    (hall : ∀ record, (usable record).result = .ok (keep record)) :
    (whitelist.select filter usable records).result =
      (theOnly ((whitelist.candidates filter records).filter (keep ∘ Prod.fst))).result := by
  rw [select, Logged.result_bind, keepUsable_result hall]
  rfl

/-- Where every function is usable, the candidates decide. -/
theorem select_eq_ok_iff {usable : Record → Logged Bool}
    (hall : ∀ record, (usable record).result = .ok true) {found : Record × Supported τ} :
    (whitelist.select filter usable records).result = .ok found ↔
      whitelist.candidates filter records = [found] := by
  have hsame : (whitelist.candidates filter records).filter ((fun _ => true) ∘ Prod.fst) =
      whitelist.candidates filter records := List.filter_eq_self.mpr fun _ _ => rfl
  rw [select_result hall, hsame, theOnly_eq_ok_iff]

end Whitelist

end PciBus

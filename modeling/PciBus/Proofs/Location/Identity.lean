import PciBus.Proofs.Location.FilterText
import PciBus.Proofs.Location.Name

/-!
# A name stands for its location

The name of a location is a directory name and a filter text at once. No other
location has it, and what it is read as is that location or the filter for it
(`Location.name_understood`). Either reader refuses what is out of its range: a
directory name has a device below 32 and a function below 8, and a filter a
domain of at most 31 bits.

The form that operators write leaves the domain out. It is read as a filter all
the same (`Location.readFilter_short`), for every location that is written like
this one (`Location.accepts_operatorFilter_iff`).
-/

namespace PciBus

open Text

namespace Location

variable {l : Location}

/-- The filter for one location. -/
def filter (l : Location) : Filter where
  domain := some l.domain
  bus := some l.bus
  device := some l.device
  function := some l.function

theorem accepts_filter_iff {other : Location} : l.filter.accepts other = true ↔ other = l := by
  cases l
  cases other
  simp only [filter, Filter.accepts, Option.all_some, Bool.and_eq_true, beq_iff_eq, mk.injEq]
  constructor
  · rintro ⟨⟨⟨rfl, rfl⟩, rfl⟩, rfl⟩
    exact ⟨rfl, rfl, rfl, rfl⟩
  · rintro ⟨rfl, rfl, rfl, rfl⟩
    exact ⟨⟨⟨rfl, rfl⟩, rfl⟩, rfl⟩

/-- The filter for a location, written out, is its name. -/
theorem ofList_filter_layout (l : Location) : String.ofList l.filter.layout.text = l.name := by
  rw [← String.ofList_toList (s := l.name), toList_name]
  simp [filter, Filter.layout, Filter.Layout.text, Filter.Layout.tail, Filter.Front.text,
    Filter.fieldText, Filter.number?, Fields.text, fields]

/-- A name is read back exactly if there can be such a device and function. -/
theorem ofName?_name_eq (l : Location) :
    ofName? l.name = if l.device < 32 ∧ l.function < 8 then some l else none := by
  split
  · rename_i hrange
    exact ofName?_name hrange.1 hrange.2
  · rename_i hrange
    cases hread : ofName? l.name with
    | none => rfl
    | some other =>
        obtain rfl := eq_of_ofName?_name hread
        exact absurd (range_of_ofName? hread) hrange

theorem inRange_filter (hdomain : l.domain ≤ 0x7fffffff) (hdevice : l.device < 32)
    (hfunction : l.function < 8) : l.filter.InRange where
  domain := by
    rintro n ⟨⟩
    exact UInt32.le_iff_toNat_le.mp hdomain
  bus := by
    rintro n ⟨⟩
    exact Nat.le_of_lt_succ l.bus.toNat_lt
  device := by
    rintro n ⟨⟩
    exact Nat.le_of_lt_succ (UInt8.lt_iff_toNat_lt.mp hdevice)
  function := by
    rintro n ⟨⟩
    exact Nat.le_of_lt_succ (UInt8.lt_iff_toNat_lt.mp hfunction)

/-- A name with a domain of 32 bits is refused for it. -/
theorem firstBad_filter_layout (hdomain : 0x7fffffff < l.domain) :
    l.filter.layout.FirstBad ⟨.domain, hex 4 l.domain.toNat⟩ where
  bad :=
    Filter.bad_of_spells (spells_hexDigits 4 l.domain.toNat) (UInt32.lt_iff_toNat_lt.mp hdomain)
  text := rfl
  before := by simp [Filter.Field.before]

/-- **A name stands for its location.** No two locations have one name. As the
name of a directory it is read back, if there can be such a device and
function. As a filter it accepts its location and no other, if its domain has
31 bits; otherwise the domain number is what is wrong with it. -/
theorem name_understood :
    Function.Injective name ∧
    (∀ l : Location, ofName? l.name = if l.device < 32 ∧ l.function < 8 then some l else none) ∧
    ∀ l : Location, l.device < 32 → l.function < 8 →
      (l.domain ≤ 0x7fffffff → ∃ f, Settings.readFilter l.name = .ok f ∧
        ∀ other, f.accepts other = true ↔ other = l) ∧
      (0x7fffffff < l.domain → ∃ e : Filter.BadField,
        Settings.readFilter l.name = .error (.badFilter e) ∧
        e.message = "Invalid domain number: " ++ quote (hex 4 l.domain.toNat)) := by
  refine ⟨name_injective, ofName?_name_eq, fun l hdevice hfunction => ⟨?_, ?_⟩⟩
  · intro hdomain
    have hread := Filter.read_of_renders (inRange_filter hdomain hdevice hfunction)
      l.filter.layout_renders
    rw [ofList_filter_layout] at hread
    exact ⟨l.filter, by rw [Settings.readFilter, hread]; rfl, fun _ => accepts_filter_iff⟩
  · intro hdomain
    have hread := (Filter.read_eq_error_iff l.filter.layout_renders.wellCut).mpr
      (firstBad_filter_layout hdomain)
    rw [ofList_filter_layout] at hread
    exact ⟨_, by rw [Settings.readFilter, hread]; rfl, rfl⟩

/-- The greatest domain that a filter can name, and the one after it. -/
theorem wideDomains_understood :
    (∃ f, Settings.readFilter (name ⟨0x7fffffff, 0xe0, 0x1f, 7⟩) = .ok f ∧
      f.accepts ⟨0x7fffffff, 0xe0, 0x1f, 7⟩ = true ∧
      f.accepts ⟨0x7fffffff, 0xe0, 0x1f, 6⟩ = false) ∧
    ∃ e : Filter.BadField, Settings.readFilter (name ⟨0x80000000, 0xe0, 0x1f, 7⟩) =
      .error (.badFilter e) ∧ e.message = "Invalid domain number: \"80000000\"" := by
  obtain ⟨-, -, hfilter⟩ := name_understood
  obtain ⟨f, hread, haccepts⟩ :=
    (hfilter ⟨0x7fffffff, 0xe0, 0x1f, 7⟩ (by decide) (by decide)).1 (by decide)
  obtain ⟨e, hread', hmessage⟩ :=
    (hfilter ⟨0x80000000, 0xe0, 0x1f, 7⟩ (by decide) (by decide)).2 (by decide)
  refine ⟨⟨f, hread, (haccepts _).mpr rfl, ?_⟩, e, hread', hmessage.trans (by decide +kernel)⟩
  rw [← Bool.not_eq_true, haccepts]
  decide

/-! ## The operators' form -/

/-- The filter for the locations that are written alike. -/
def operatorFilter (l : Location) : Filter where
  bus := some l.bus
  device := some l.device
  function := some l.function

theorem name_eq_append_short (l : Location) : l.name = hex 4 l.domain.toNat ++ ":" ++ l.short := by
  apply String.toList_inj.mp
  simp [name, short, toString]

theorem short_eq_iff {other : Location} :
    other.short = l.short ↔
      other.bus = l.bus ∧ other.device = l.device ∧ other.function = l.function := by
  constructor
  · intro h
    -- put into one domain, the two have one name
    have hname : name { other with domain := l.domain } = l.name := by
      rw [name_eq_append_short, name_eq_append_short]
      exact congrArg (hex 4 l.domain.toNat ++ ":" ++ ·) h
    obtain ⟨-, hbus, hdevice, hfunction⟩ := Location.mk.inj (name_injective hname)
    exact ⟨hbus, hdevice, hfunction⟩
  · rintro ⟨hbus, hdevice, hfunction⟩
    unfold short
    rw [hbus, hdevice, hfunction]

theorem accepts_operatorFilter_iff {other : Location} :
    l.operatorFilter.accepts other = true ↔ other.short = l.short := by
  rw [short_eq_iff]
  simp only [operatorFilter, Filter.accepts, Option.all_none, Option.all_some, Bool.true_and,
    Bool.and_eq_true, beq_iff_eq]
  constructor
  · rintro ⟨⟨hbus, hdevice⟩, hfunction⟩
    exact ⟨hbus.symm, hdevice.symm, hfunction.symm⟩
  · rintro ⟨hbus, hdevice, hfunction⟩
    exact ⟨⟨hbus.symm, hdevice.symm⟩, hfunction.symm⟩

/-- The operators' form, in its parts. -/
def shortLayout (l : Location) : Filter.Layout where
  front := .onBus (hexDigits 2 l.bus.toNat)
  device := hexDigits 2 l.device.toNat
  function := some (hexDigits 1 l.function.toNat)

theorem ofList_shortLayout (l : Location) : String.ofList l.shortLayout.text = l.short := by
  apply String.toList_inj.mp
  simp [shortLayout, short, hex, toString, Filter.Layout.text, Filter.Layout.tail,
    Filter.Front.text]

theorem shortLayout_renders (l : Location) : l.shortLayout.Renders l.operatorFilter := by
  intro field
  cases field with
  | domain => exact .empty
  | bus => exact .number (spells_hexDigits 2 l.bus.toNat)
  | device => exact .number (spells_hexDigits 2 l.device.toNat)
  | function => exact .number (spells_hexDigits 1 l.function.toNat)

theorem inRange_operatorFilter (hdevice : l.device < 32) (hfunction : l.function < 8) :
    l.operatorFilter.InRange where
  domain := nofun
  bus := by
    rintro n ⟨⟩
    exact Nat.le_of_lt_succ l.bus.toNat_lt
  device := by
    rintro n ⟨⟩
    exact Nat.le_of_lt_succ (UInt8.lt_iff_toNat_lt.mp hdevice)
  function := by
    rintro n ⟨⟩
    exact Nat.le_of_lt_succ (UInt8.lt_iff_toNat_lt.mp hfunction)

/-- The name of the directory is understood as the filter for that location. -/
theorem readFilter_name (hdomain : l.domain ≤ 0x7fffffff) (hdevice : l.device < 32)
    (hfunction : l.function < 8) : Settings.readFilter l.name = .ok l.filter := by
  have hread := Filter.read_of_renders (inRange_filter hdomain hdevice hfunction)
    l.filter.layout_renders
  rw [ofList_filter_layout] at hread
  rw [Settings.readFilter, hread]
  rfl

/-- What operators write is understood as a filter. -/
theorem readFilter_short (hdevice : l.device < 32) (hfunction : l.function < 8) :
    Settings.readFilter l.short = .ok l.operatorFilter := by
  have hread := Filter.read_of_renders (inRange_operatorFilter hdevice hfunction)
    l.shortLayout_renders
  rw [ofList_shortLayout] at hread
  rw [Settings.readFilter, hread]
  rfl

end Location

end PciBus

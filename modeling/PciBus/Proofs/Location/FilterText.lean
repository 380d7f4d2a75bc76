import PciBus.Proofs.Text.Cut
import PciBus.Proofs.Text.Numeral
import PciBus.Settings

/-!
# Filter texts

A filter text `[[domain:]bus:]device[.function]` is laid out in parts, some of
which may be missing (`Filter.Layout`). Every text has a layout whose
separators stand where it is cut (`Filter.exists_layout`), and reading looks at
its fields and nothing else: it gives the filter that they name
(`Filter.read_eq_ok_iff`), or the first of them that names nothing
(`Filter.read_eq_error_iff`).

So a filter is read from every way of writing its fields
(`Filter.read_as_written`): in digits of either case, with zeros in front, and
empty, left out or `*` where it names nothing.
-/

namespace PciBus

open Text

namespace Filter

/-! ## Fields -/

/-- The number that a filter wants in a field, if any. -/
def number? (f : Filter) : Field → Option Nat
  | .domain => f.domain.map UInt32.toNat
  | .bus => f.bus.map UInt8.toNat
  | .device => f.device.map UInt8.toNat
  | .function => f.function.map UInt8.toNat

theorem eq_of_number? {f g : Filter} (h : ∀ field, f.number? field = g.number? field) : f = g := by
  have hdomain := Option.map_injective (fun _ _ => UInt32.toNat_inj.mp) (h .domain)
  have hbus := Option.map_injective (fun _ _ => UInt8.toNat_inj.mp) (h .bus)
  have hdevice := Option.map_injective (fun _ _ => UInt8.toNat_inj.mp) (h .device)
  have hfunction := Option.map_injective (fun _ _ => UInt8.toNat_inj.mp) (h .function)
  cases f
  cases g
  simp_all

theorem Field.bound_pos (field : Field) : 0 < field.bound := by cases field <;> decide

/-- The ways of writing a field: nothing is left empty or a star, and a number
is spelled. -/
inductive Writes : Option Nat → List Char → Prop
  | empty : Writes none []
  | star : Writes none ['*']
  | number {n digits} : Spells n digits → Writes (some n) digits

/-- The text of a field is understood: it is a way of writing it, or one with a
plus sign in front, and the number is in range. -/
inductive Names (field : Field) : Option Nat → List Char → Prop
  | plain {value cs} : Writes value cs → (∀ n ∈ value, n < field.bound) → Names field value cs
  | signed {n digits} : Spells n digits → n < field.bound → Names field (some n) ('+' :: digits)

/-- The text of a field names neither a number nor nothing. -/
def Bad (field : Field) (cs : List Char) : Prop := ∀ value, ¬ Names field value cs

section

variable {field : Field} {cs : List Char} {value other : Option Nat}

theorem Names.lt_bound (h : Names field value cs) : ∀ n ∈ value, n < field.bound := by
  cases h with
  | plain _ hbound => exact hbound
  | signed _ hbound => simpa using hbound

theorem Writes.not_mem (h : Writes value cs) {c : Char} (hc : digitValue? 16 c = none)
    (hstar : c ≠ '*') : c ∉ cs := by
  cases h with
  | empty => exact List.not_mem_nil
  | star => simpa using hstar
  | number hspells => exact hspells.not_mem hc

theorem readField_of_spells {digits : List Char} {n : Nat} (hspells : Spells n digits)
    (hbound : n < field.bound) (hcs : cs = digits ∨ cs = '+' :: digits) :
    readField field cs = .ok (some n) := by
  have hread := (readHex?_eq_some_iff field.bound_pos).mpr ⟨hbound, digits, hcs, hspells⟩
  have hstar : '*' ∉ digits := hspells.not_mem (by decide)
  have hwritten : ¬ (cs = [] ∨ cs = ['*']) := by
    rcases hcs with rfl | rfl
    · rintro (rfl | rfl)
      · exact hspells.ne_nil rfl
      · simp at hstar
    · simp
  rw [readField, if_neg hwritten, hread]

/-- A field is read as what its text names, and refused if it is bad. -/
theorem readField_cases (field : Field) (cs : List Char) :
    (∃ value, readField field cs = .ok value ∧ Names field value cs) ∨
      readField field cs = .error ⟨field, String.ofList cs⟩ ∧ Bad field cs := by
  by_cases hwritten : cs = [] ∨ cs = ['*']
  · refine .inl ⟨none, if_pos hwritten, .plain ?_ nofun⟩
    rcases hwritten with rfl | rfl
    · exact .empty
    · exact .star
  cases hread : readHex? field.bound cs with
  | some n =>
      obtain ⟨hbound, digits, hcs, hspells⟩ := (readHex?_eq_some_iff field.bound_pos).mp hread
      refine .inl ⟨some n, readField_of_spells hspells hbound hcs, ?_⟩
      rcases hcs with rfl | rfl
      · exact .plain (.number hspells) (by simpa using hbound)
      · exact .signed hspells hbound
  | none =>
      refine .inr ⟨by rw [readField, if_neg hwritten, hread], ?_⟩
      have hunread : ∀ n, readHex? field.bound cs ≠ some n := by simp [hread]
      intro value h
      cases h with
      | plain h hbound =>
          cases h with
          | empty => exact hwritten (.inl rfl)
          | star => exact hwritten (.inr rfl)
          | number hspells =>
              exact hunread _ <| (readHex?_eq_some_iff field.bound_pos).mpr
                ⟨hbound _ rfl, _, .inl rfl, hspells⟩
      | signed hspells hbound =>
          exact hunread _ <| (readHex?_eq_some_iff field.bound_pos).mpr
            ⟨hbound, _, .inr rfl, hspells⟩

theorem readField_of_names (h : Names field value cs) : readField field cs = .ok value := by
  cases h with
  | plain hwrites hbound =>
      cases hwrites with
      | empty => rfl
      | star => rfl
      | number hspells => exact readField_of_spells hspells (hbound _ rfl) (.inl rfl)
  | signed hspells hbound => exact readField_of_spells hspells hbound (.inr rfl)

theorem Names.unique (h : Names field value cs) (h' : Names field other cs) : value = other :=
  Except.ok.inj ((readField_of_names h).symm.trans (readField_of_names h'))

/-- A number is named by no more than its range. -/
theorem bad_of_spells {n : Nat} (hspells : Spells n cs) (hbound : field.bound ≤ n) :
    Bad field cs := by
  intro value h
  have hvalue : value = some n := by
    cases h with
    | plain hwrites _ =>
        cases hwrites with
        | empty => exact absurd rfl hspells.ne_nil
        | star => exact absurd List.mem_cons_self (hspells.not_mem (c := '*') (by decide))
        | number hspells' => exact congrArg some (hspells'.unique hspells)
    | signed _ _ => exact absurd List.mem_cons_self (hspells.not_mem (c := '+') (by decide))
  exact absurd (h.lt_bound n hvalue) (Nat.not_lt.mpr hbound)

end

/-! ## Layouts -/

/-- What stands in front of the device. -/
inductive Front where
  | nothing
  | onBus (bus : List Char)
  | inDomain (domain bus : List Char)

namespace Front

def text : Front → List Char
  | .nothing => []
  | .onBus bus => bus ++ [':']
  | .inDomain domain bus => domain ++ ':' :: (bus ++ [':'])

/-- The separator behind the first part is the first one. -/
def WellCut : Front → Prop
  | .nothing => True
  | .onBus bus => ':' ∉ bus
  | .inDomain domain _ => ':' ∉ domain

end Front

/-- A filter text in its parts. -/
structure Layout where
  front : Front
  device : List Char
  function : Option (List Char)

namespace Layout

def tail (layout : Layout) : List Char := layout.device ++ layout.function.elim [] ('.' :: ·)

def text (layout : Layout) : List Char := layout.front.text ++ layout.tail

/-- The text of a field, empty if its part is missing. -/
def field (layout : Layout) : Field → List Char
  | .domain =>
      match layout.front with
      | .nothing | .onBus _ => []
      | .inDomain domain _ => domain
  | .bus =>
      match layout.front with
      | .nothing => []
      | .onBus bus | .inDomain _ bus => bus
  | .device => layout.device
  | .function => layout.function.getD []

/-- The separators are those at which the text is cut: the last colon ends the
bus, the first colon before it the domain, and the first dot after it the
device. -/
structure WellCut (layout : Layout) : Prop where
  front : layout.front.WellCut
  device : ':' ∉ layout.device
  function : ':' ∉ layout.field .function
  dot : '.' ∉ layout.device

variable {layout : Layout}

theorem WellCut.tail (h : layout.WellCut) : ':' ∉ layout.tail := by
  have hfunction := h.function
  rw [field] at hfunction
  rw [Layout.tail]
  cases hpart : layout.function with
  | none => simpa using h.device
  | some function => simpa [hpart, h.device] using hfunction

theorem WellCut.cutFirst_tail (h : layout.WellCut) :
    (cutFirst '.' layout.tail).getD (layout.tail, []) =
      (layout.device, layout.field .function) := by
  rw [Layout.tail, field]
  cases layout.function with
  | none =>
      rw [Option.elim_none, List.append_nil, cutFirst_eq_none_iff.mpr h.dot]
      rfl
  | some function =>
      rw [Option.elim_some, cutFirst_eq_some_iff.mpr ⟨rfl, h.dot⟩]
      rfl

/-- Every text is laid out. -/
theorem exists_layout (cs : List Char) : ∃ layout : Layout, layout.WellCut ∧ layout.text = cs := by
  obtain ⟨front, rest, hfront, hrest, rfl⟩ : ∃ (front : Front) (rest : List Char),
      front.WellCut ∧ ':' ∉ rest ∧ front.text ++ rest = cs := by
    cases hlast : cutLast ':' cs with
    | none => exact ⟨.nothing, cs, trivial, cutLast_eq_none_iff.mp hlast, rfl⟩
    | some cut =>
        obtain ⟨rfl, hrest⟩ := cutLast_eq_some_iff.mp hlast
        cases hfirst : cutFirst ':' cut.1 with
        | none =>
            refine ⟨.onBus cut.1, cut.2, cutFirst_eq_none_iff.mp hfirst, hrest, ?_⟩
            simp [Front.text]
        | some parts =>
            obtain ⟨hparts, hdomain⟩ := cutFirst_eq_some_iff.mp hfirst
            refine ⟨.inDomain parts.1 parts.2, cut.2, hdomain, hrest, ?_⟩
            simp [Front.text, hparts]
  cases hdot : cutFirst '.' rest with
  | none =>
      refine ⟨⟨front, rest, none⟩, ?_, by simp [text, Layout.tail]⟩
      exact ⟨hfront, hrest, List.not_mem_nil, cutFirst_eq_none_iff.mp hdot⟩
  | some parts =>
      obtain ⟨rfl, hdevice⟩ := cutFirst_eq_some_iff.mp hdot
      simp only [List.mem_append, List.mem_cons, not_or] at hrest
      refine ⟨⟨front, parts.1, some parts.2⟩, ?_, by simp [text, Layout.tail]⟩
      exact ⟨hfront, hrest.1, hrest.2.2, hdevice⟩

end Layout

/-- The text of a layout is cut into its fields. -/
theorem cutFields_text {layout : Layout} (h : layout.WellCut) :
    cutFields layout.text = (layout.field .domain, layout.field .bus, layout.field .device,
      layout.field .function) := by
  have hfunction := h.cutFirst_tail
  have htail := h.tail
  have hfront := h.front
  rw [Layout.text]
  cases hpart : layout.front with
  | nothing =>
      simp only [cutFields, Front.text, List.nil_append, cutLast_eq_none_iff.mpr htail,
        Option.getD_none, cutFirst, hfunction, Layout.field, hpart]
  | onBus bus =>
      rw [hpart] at hfront
      have hcut : cutLast ':' (Front.text (.onBus bus) ++ layout.tail) = some (bus, layout.tail) :=
        cutLast_eq_some_iff.mpr ⟨by simp [Front.text], htail⟩
      simp only [cutFields, hcut, Option.getD_some, cutFirst_eq_none_iff.mpr hfront,
        Option.getD_none, hfunction, Layout.field, hpart]
  | inDomain domain bus =>
      rw [hpart] at hfront
      have hcut : cutLast ':' (Front.text (.inDomain domain bus) ++ layout.tail) =
          some (domain ++ ':' :: bus, layout.tail) :=
        cutLast_eq_some_iff.mpr ⟨by simp [Front.text], htail⟩
      have hdomain : cutFirst ':' (domain ++ ':' :: bus) = some (domain, bus) :=
        cutFirst_eq_some_iff.mpr ⟨rfl, hfront⟩
      simp only [cutFields, hcut, Option.getD_some, hdomain, hfunction, Layout.field, hpart]

/-! ## Reading -/

theorem toNat_ofNat_domain {value : Option Nat} (h : ∀ n ∈ value, n < UInt32.size) :
    (value.map UInt32.ofNat).map UInt32.toNat = value := by
  cases value with
  | none => rfl
  | some n => simp [UInt32.toNat_ofNat_of_lt' (h n rfl)]

theorem toNat_ofNat_byte {value : Option Nat} (h : ∀ n ∈ value, n < UInt8.size) :
    (value.map UInt8.ofNat).map UInt8.toNat = value := by
  cases value with
  | none => rfl
  | some n => simp [UInt8.toNat_ofNat_of_lt' (h n rfl)]

/-- The fields that are read before a field. -/
def Field.before : Field → List Field
  | .domain => []
  | .bus => [.domain]
  | .device => [.domain, .bus]
  | .function => [.domain, .bus, .device]

/-- The first of the fields that is bad, and its text. -/
structure Layout.FirstBad (layout : Layout) (e : BadField) : Prop where
  bad : Bad e.field (layout.field e.field)
  text : e.text = String.ofList (layout.field e.field)
  before : ∀ field ∈ e.field.before, ¬ Bad field (layout.field field)

section

variable {layout : Layout} {f : Filter} {e : BadField}

/-- A text gives the filter that its fields name, unless one of them is bad. -/
theorem read_cases (h : layout.WellCut) :
    (∃ f, read (String.ofList layout.text) = .ok f ∧
      ∀ field, Names field (f.number? field) (layout.field field)) ∨
    ∃ e, read (String.ofList layout.text) = .error e ∧ layout.FirstBad e := by
  have hnamed : ∀ {field value}, Names field value (layout.field field) →
      ¬ Bad field (layout.field field) := fun hnames hbad => hbad _ hnames
  rw [read, String.toList_ofList, cutFields_text h]
  rcases readField_cases .domain (layout.field .domain) with
    ⟨domain, hdomain, hd⟩ | ⟨hdomain, hbad⟩
  rotate_left
  · exact .inr ⟨_, by simp only [hdomain]; rfl, hbad, rfl, by simp [Field.before]⟩
  rcases readField_cases .bus (layout.field .bus) with ⟨bus, hbus, hb⟩ | ⟨hbus, hbad⟩
  rotate_left
  · exact .inr ⟨_, by simp only [hdomain, hbus]; rfl, hbad, rfl, by simp [Field.before, hnamed hd]⟩
  rcases readField_cases .device (layout.field .device) with
    ⟨device, hdevice, hv⟩ | ⟨hdevice, hbad⟩
  rotate_left
  · exact .inr ⟨_, by simp only [hdomain, hbus, hdevice]; rfl, hbad, rfl,
      by simp [Field.before, hnamed hd, hnamed hb]⟩
  rcases readField_cases .function (layout.field .function) with
    ⟨function, hfunction, hf⟩ | ⟨hfunction, hbad⟩
  rotate_left
  · exact .inr ⟨_, by simp only [hdomain, hbus, hdevice, hfunction]; rfl, hbad, rfl,
      by simp [Field.before, hnamed hd, hnamed hb, hnamed hv]⟩
  · refine .inl ⟨_, by simp only [hdomain, hbus, hdevice, hfunction]; rfl, ?_⟩
    intro field
    cases field with
    | domain =>
        rw [number?, toNat_ofNat_domain fun n hn => Nat.lt_trans (hd.lt_bound n hn) (by decide)]
        exact hd
    | bus =>
        rw [number?, toNat_ofNat_byte hb.lt_bound]
        exact hb
    | device =>
        rw [number?, toNat_ofNat_byte fun n hn => Nat.lt_trans (hv.lt_bound n hn) (by decide)]
        exact hv
    | function =>
        rw [number?, toNat_ofNat_byte fun n hn => Nat.lt_trans (hf.lt_bound n hn) (by decide)]
        exact hf

theorem Layout.FirstBad.unique {e' : BadField} (h : layout.FirstBad e) (h' : layout.FirstBad e') :
    e = e' := by
  -- of two fields one is before the other
  have horder : ∀ a b : Field, a = b ∨ a ∈ b.before ∨ b ∈ a.before := by
    intro a b
    cases a <;> cases b <;> decide
  have hfield : e.field = e'.field := by
    rcases horder e.field e'.field with heq | hbefore | hbefore
    · exact heq
    · exact absurd h.bad (h'.before _ hbefore)
    · exact absurd h'.bad (h.before _ hbefore)
  have htext : e.text = e'.text := by rw [h.text, h'.text, hfield]
  cases e
  cases e'
  simp_all

/-- A filter is read exactly from the texts whose fields name its numbers. -/
theorem read_eq_ok_iff (h : layout.WellCut) :
    read (String.ofList layout.text) = .ok f ↔
      ∀ field, Names field (f.number? field) (layout.field field) := by
  rcases read_cases h with ⟨g, hread, hg⟩ | ⟨e, hread, he⟩
  · constructor
    · intro hok
      obtain rfl := Except.ok.inj (hread.symm.trans hok)
      exact hg
    · intro hf
      rw [hread, eq_of_number? fun field => (hg field).unique (hf field)]
  · constructor
    · intro hok
      rw [hread] at hok
      cases hok
    · intro hf
      exact absurd (hf e.field) (he.bad _)

/-- A text is refused for the first of its fields that is bad. -/
theorem read_eq_error_iff (h : layout.WellCut) :
    read (String.ofList layout.text) = .error e ↔ layout.FirstBad e := by
  rcases read_cases h with ⟨g, hread, hg⟩ | ⟨e', hread, he⟩
  · constructor
    · intro herror
      rw [hread] at herror
      cases herror
    · intro hbad
      exact absurd (hg e.field) (hbad.bad _)
  · constructor
    · intro herror
      obtain rfl := Except.error.inj (hread.symm.trans herror)
      exact he
    · intro hbad
      rw [hread, he.unique hbad]

end

/-! ## Writing -/

/-- A filter that wants numbers which there can be. -/
structure InRange (f : Filter) : Prop where
  domain : ∀ n ∈ f.number? .domain, n ≤ 0x7fffffff
  bus : ∀ n ∈ f.number? .bus, n ≤ 0xff
  device : ∀ n ∈ f.number? .device, n ≤ 0x1f
  function : ∀ n ∈ f.number? .function, n ≤ 7

theorem inRange_iff {f : Filter} :
    f.InRange ↔ ∀ field, ∀ n ∈ f.number? field, n < field.bound := by
  constructor
  · intro h field n hn
    cases field with
    | domain => exact Nat.lt_succ_of_le (h.domain n hn)
    | bus => exact Nat.lt_succ_of_le (h.bus n hn)
    | device => exact Nat.lt_succ_of_le (h.device n hn)
    | function => exact Nat.lt_succ_of_le (h.function n hn)
  · intro h
    constructor
    · exact fun n hn => Nat.le_of_lt_succ (h .domain n hn)
    · exact fun n hn => Nat.le_of_lt_succ (h .bus n hn)
    · exact fun n hn => Nat.le_of_lt_succ (h .device n hn)
    · exact fun n hn => Nat.le_of_lt_succ (h .function n hn)

/-- A layout writes the numbers of a filter, each in one of its ways. A number
that is not wanted may be left out with its separator. -/
def Layout.Renders (layout : Layout) (f : Filter) : Prop :=
  ∀ field, Writes (f.number? field) (layout.field field)

theorem Layout.Renders.wellCut {layout : Layout} {f : Filter} (h : layout.Renders f) :
    layout.WellCut := by
  have hcolon : ∀ field, ':' ∉ layout.field field :=
    fun field => (h field).not_mem (by decide) (by decide)
  have hdot : '.' ∉ layout.device := (h .device).not_mem (by decide) (by decide)
  refine ⟨?_, hcolon .device, hcolon .function, hdot⟩
  have hdomain := hcolon .domain
  have hbus := hcolon .bus
  simp only [Layout.field] at hdomain hbus
  cases hfront : layout.front with
  | nothing => trivial
  | onBus bus =>
      simp only [hfront] at hbus
      exact hbus
  | inDomain domain bus =>
      simp only [hfront] at hdomain
      exact hdomain

/-- The text of one field in a full rendering. -/
def fieldText (width : Nat) : Option Nat → List Char
  | none => ['*']
  | some n => hexDigits width n

theorem writes_fieldText (width : Nat) (value : Option Nat) :
    Writes value (fieldText width value) := by
  cases value with
  | none => exact .star
  | some n => exact .number (spells_hexDigits width n)

/-- The filter with all its fields written out. -/
def layout (f : Filter) : Layout where
  front := .inDomain (fieldText 4 (f.number? .domain)) (fieldText 2 (f.number? .bus))
  device := fieldText 2 (f.number? .device)
  function := some (fieldText 1 (f.number? .function))

theorem layout_renders (f : Filter) : f.layout.Renders f := by
  intro field
  cases field <;> exact writes_fieldText _ _

/-- A filter in range is read from every text that renders it. -/
theorem read_of_renders {f : Filter} {layout : Layout} (hrange : f.InRange)
    (h : layout.Renders f) : read (String.ofList layout.text) = .ok f :=
  (read_eq_ok_iff h.wellCut).mpr fun field => .plain (h field) (inRange_iff.mp hrange field)

theorem inRange_of_read {f : Filter} {text : String} (h : read text = .ok f) : f.InRange := by
  obtain ⟨layout, hcut, htext⟩ := Layout.exists_layout text.toList
  rw [← String.ofList_toList (s := text), ← htext, read_eq_ok_iff hcut] at h
  exact inRange_iff.mpr fun field => (h field).lt_bound

/-- **Reading filter texts.** A filter in range is read from every text that
renders it, whichever of its optional parts are there and however its numbers
are spelled. What is read is in range, so that writing it out and reading it
again gives it back. Every text is laid out, and it is refused exactly if one
of its fields is bad, for the first that is. -/
theorem read_as_written :
    (∀ (f : Filter) (layout : Layout), f.InRange → layout.Renders f →
      Settings.readFilter (String.ofList layout.text) = .ok f) ∧
    (∀ text f, Settings.readFilter text = .ok f →
      f.InRange ∧ Settings.readFilter (String.ofList f.layout.text) = .ok f) ∧
    (∀ text : String, ∃ layout : Layout, layout.WellCut ∧ layout.text = text.toList) ∧
    ∀ (layout : Layout) (fault : Fault), layout.WellCut →
      (Settings.readFilter (String.ofList layout.text) = .error fault ↔
        ∃ e, fault = .badFilter e ∧ layout.FirstBad e) := by
  have hok : ∀ {text f}, Settings.readFilter text = .ok f ↔ read text = .ok f := by
    intro text f
    rw [Settings.readFilter]
    cases read text <;> simp [Except.mapError]
  refine ⟨?_, ?_, fun text => Layout.exists_layout text.toList, ?_⟩
  · intro f layout hrange hrenders
    exact hok.mpr (read_of_renders hrange hrenders)
  · intro text f h
    have hrange := inRange_of_read (hok.mp h)
    exact ⟨hrange, hok.mpr (read_of_renders hrange f.layout_renders)⟩
  · intro layout fault hcut
    have herror : Settings.readFilter (String.ofList layout.text) = .error fault ↔
        ∃ e, fault = .badFilter e ∧ read (String.ofList layout.text) = .error e := by
      rw [Settings.readFilter]
      cases read (String.ofList layout.text) <;> simp [Except.mapError, eq_comm]
    simp only [herror, read_eq_error_iff hcut]

/-- Any device on a bus in a domain past the fourth digit, but function 7 only. -/
def anyDevice : Filter where
  domain := some 0x10000
  bus := some 0xe0
  function := some 7

/-- Upper case, zeros in front and a star do not matter, and neither does a
star that is left out. -/
theorem anyDevice_read :
    Settings.readFilter "0010000:E0:*.07" = .ok anyDevice ∧
      Settings.readFilter "10000:e0:.7" = .ok anyDevice := by
  have hrange : anyDevice.InRange := by constructor <;> decide
  constructor
  · refine read_as_written.1 anyDevice
      ⟨.inDomain "0010000".toList "E0".toList, ['*'], some "07".toList⟩ hrange ?_
    intro field
    cases field with
    | domain => exact .number ⟨2, by decide +kernel⟩
    | bus => exact .number ⟨0, by decide +kernel⟩
    | device => exact .star
    | function => exact .number ⟨1, by decide +kernel⟩
  · refine read_as_written.1 anyDevice
      ⟨.inDomain "10000".toList "e0".toList, [], some "7".toList⟩ hrange ?_
    intro field
    cases field with
    | domain => exact .number ⟨0, by decide +kernel⟩
    | bus => exact .number ⟨0, by decide +kernel⟩
    | device => exact .empty
    | function => exact .number ⟨0, by decide +kernel⟩

end Filter

end PciBus

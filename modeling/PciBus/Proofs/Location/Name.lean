import PciBus.Location
import PciBus.Proofs.Files.Names
import PciBus.Proofs.Text.Numeral

/-!
# Names of locations

A name has four fields with separators between them, and no two ways of
cutting it into fields without separators (`Location.Fields.text_inj`). It is
read as a location exactly if its fields are read as the numbers of that
location and have the lengths of a name (`Location.ofName?_eq_some_iff`).

The name of a function's directory has the numbers of its location, so no two
locations have one name (`Location.name_injective`), and the name gives its
location back if there can be such a device and function
(`Location.ofName?_name`).
-/

namespace PciBus

open Text

namespace Location

/-! ## Fields of a name -/

/-- The fields of a directory name. -/
structure Fields where
  domain : List Char
  bus : List Char
  device : List Char
  function : List Char

namespace Fields

variable {fields other : Fields} {l : Location}

/-- The name with the given fields. -/
def text (fields : Fields) : List Char :=
  fields.domain ++ ':' :: (fields.bus ++ ':' :: (fields.device ++ '.' :: fields.function))

/-- No field has the separator behind it. -/
structure WellCut (fields : Fields) : Prop where
  domain : ':' ∉ fields.domain
  bus : ':' ∉ fields.bus
  device : '.' ∉ fields.device

theorem text_inj (h : fields.WellCut) (h' : other.WellCut) (heq : fields.text = other.text) :
    fields = other := by
  obtain ⟨hdomain, heq⟩ := append_sep_inj h.domain h'.domain heq
  obtain ⟨hbus, heq⟩ := append_sep_inj h.bus h'.bus heq
  obtain ⟨hdevice, hfunction⟩ := append_sep_inj h.device h'.device heq
  cases fields
  cases other
  simp_all

/-- The fields are read as the numbers of a location. -/
structure Denote (fields : Fields) (l : Location) : Prop where
  domain : readHex? UInt32.size fields.domain = some l.domain.toNat
  bus : readHex? UInt8.size fields.bus = some l.bus.toNat
  device : readHex? 32 fields.device = some l.device.toNat
  function : readHex? 8 fields.function = some l.function.toNat

/-- The fields have the lengths that those of a directory name have. -/
structure Sized (fields : Fields) : Prop where
  domain_ge : 4 ≤ fields.domain.length
  domain_le : fields.domain.length ≤ 8
  bus : fields.bus.length = 2
  device : fields.device.length = 2
  function : fields.function.length = 1

theorem Denote.wellCut (h : fields.Denote l) : fields.WellCut where
  domain := not_mem_of_readHex? (by decide) h.domain (by decide) (by decide)
  bus := not_mem_of_readHex? (by decide) h.bus (by decide) (by decide)
  device := not_mem_of_readHex? (by decide) h.device (by decide) (by decide)

end Fields

/-- What is read as a location. -/
theorem ofName?_eq_some_iff {name : String} {l : Location} :
    ofName? name = some l ↔
      ∃ fields : Fields, name.toList = fields.text ∧ fields.Sized ∧ fields.Denote l := by
  constructor
  · intro h
    rw [ofName?] at h
    obtain ⟨⟨domain, rest⟩, hdomain, h⟩ := Option.bind_eq_some_iff.mp h
    obtain ⟨⟨bus, rest'⟩, hbus, h⟩ := Option.bind_eq_some_iff.mp h
    obtain ⟨⟨device, function⟩, hdevice, h⟩ := Option.bind_eq_some_iff.mp h
    obtain ⟨⟨⟩, hguard, h⟩ := Option.bind_eq_some_iff.mp h
    obtain ⟨n, hn, h⟩ := Option.bind_eq_some_iff.mp h
    obtain ⟨b, hb, h⟩ := Option.bind_eq_some_iff.mp h
    obtain ⟨d, hd, h⟩ := Option.bind_eq_some_iff.mp h
    obtain ⟨f, hf, h⟩ := Option.bind_eq_some_iff.mp h
    obtain rfl := Option.some.inj h
    obtain ⟨hname, -⟩ := cutFirst_eq_some_iff.mp hdomain
    obtain ⟨rfl, -⟩ := cutFirst_eq_some_iff.mp hbus
    obtain ⟨rfl, -⟩ := cutFirst_eq_some_iff.mp hdevice
    have hn' := lt_of_readHex? (by decide) hn
    have hb' := lt_of_readHex? (by decide) hb
    have hd' := Nat.lt_trans (lt_of_readHex? (by decide) hd) (by decide : 32 < UInt8.size)
    have hf' := Nat.lt_trans (lt_of_readHex? (by decide) hf) (by decide : 8 < UInt8.size)
    unfold guard at hguard
    split at hguard
    rotate_left
    · cases hguard
    rename_i hlengths
    obtain ⟨hmin, hmax, htwo, htwo', hone⟩ := hlengths
    refine ⟨⟨domain, bus, device, function⟩, hname, ⟨hmin, hmax, htwo, htwo', hone⟩, ?_⟩
    constructor
    · rw [hn, UInt32.toNat_ofNat_of_lt' hn']
    · rw [hb, UInt8.toNat_ofNat_of_lt' hb']
    · rw [hd, UInt8.toNat_ofNat_of_lt' hd']
    · rw [hf, UInt8.toNat_ofNat_of_lt' hf']
  · rintro ⟨⟨domain, bus, device, function⟩, hname, hsized, hdenote⟩
    have hcut := hdenote.wellCut
    have hguard : (guard (4 ≤ domain.length ∧ domain.length ≤ 8 ∧ bus.length = 2 ∧
        device.length = 2 ∧ function.length = 1) : Option Unit) = some () :=
      if_pos ⟨hsized.domain_ge, hsized.domain_le, hsized.bus, hsized.device, hsized.function⟩
    rw [ofName?, hname, Fields.text, cutFirst_eq_some_iff.mpr ⟨rfl, hcut.domain⟩]
    dsimp only [bind, Option.bind]
    rw [cutFirst_eq_some_iff.mpr ⟨rfl, hcut.bus⟩]
    dsimp only
    rw [cutFirst_eq_some_iff.mpr ⟨rfl, hcut.device⟩]
    dsimp only
    rw [hguard]
    dsimp only
    rw [hdenote.domain, hdenote.bus, hdenote.device, hdenote.function]
    simp

/-- What is read as a location has a device and a function that there can
be. -/
theorem range_of_ofName? {name : String} {l : Location} (h : ofName? name = some l) :
    l.device < 32 ∧ l.function < 8 := by
  obtain ⟨fields, -, -, hdenote⟩ := ofName?_eq_some_iff.mp h
  exact ⟨UInt8.lt_iff_toNat_lt.mpr (lt_of_readHex? (by decide) hdenote.device),
    UInt8.lt_iff_toNat_lt.mpr (lt_of_readHex? (by decide) hdenote.function)⟩

/-- What has fields has a colon in it. -/
theorem Fields.isName {fields : Fields} {name : String} (htext : name.toList = fields.text)
    (hslash : '/' ∉ fields.text) : Files.IsName name := by
  have hcolon : ':' ∈ name.toList := by simp [htext, text]
  constructor
  · rintro rfl
    simp at hcolon
  · rintro rfl
    simp at hcolon
  · rintro rfl
    simp at hcolon
  · rwa [htext]

theorem isName_of_ofName? {name : String} {l : Location} (h : ofName? name = some l) :
    Files.IsName name := by
  obtain ⟨fields, htext, -, hdenote⟩ := ofName?_eq_some_iff.mp h
  apply Fields.isName htext
  have hslash : ∀ {bound cs n}, 0 < bound → readHex? bound cs = some n → '/' ∉ cs :=
    fun hbound hread => not_mem_of_readHex? hbound hread (by decide) (by decide)
  simp [Fields.text, hslash (by decide) hdenote.domain, hslash (by decide) hdenote.bus,
    hslash (by decide) hdenote.device, hslash (by decide) hdenote.function]

/-! ## Names as they are written -/

/-- The fields of the name of a location. -/
def fields (l : Location) : Fields where
  domain := hexDigits 4 l.domain.toNat
  bus := hexDigits 2 l.bus.toNat
  device := hexDigits 2 l.device.toNat
  function := hexDigits 1 l.function.toNat

theorem toList_name (l : Location) : l.name.toList = l.fields.text := by
  simp [name, hex, toString, fields, Fields.text]

theorem wellCut_fields (l : Location) : l.fields.WellCut where
  domain := not_mem_hexDigits (by decide) _ _
  bus := not_mem_hexDigits (by decide) _ _
  device := not_mem_hexDigits (by decide) _ _

/-- No two locations have one name, whether or not there can be such a device
and function. -/
theorem name_injective : Function.Injective name := by
  intro a b h
  have hfields : a.fields = b.fields := by
    apply Fields.text_inj a.wellCut_fields b.wellCut_fields
    rw [← toList_name, ← toList_name, h]
  have hnumber : ∀ {width m n}, hexDigits width m = hexDigits width n → m = n := by
    intro width m n heq
    exact (spells_hexDigits width m).unique (heq ▸ spells_hexDigits width n)
  obtain ⟨hdomain, hbus, hdevice, hfunction⟩ := Fields.mk.inj hfields
  cases a
  cases b
  rw [mk.injEq]
  exact ⟨UInt32.toNat_inj.mp (hnumber hdomain), UInt8.toNat_inj.mp (hnumber hbus),
    UInt8.toNat_inj.mp (hnumber hdevice), UInt8.toNat_inj.mp (hnumber hfunction)⟩

/-- If the name of a location is read back, then as that location. -/
theorem eq_of_ofName?_name {l other : Location} (h : ofName? l.name = some other) :
    other = l := by
  obtain ⟨fields, htext, -, hdenote⟩ := ofName?_eq_some_iff.mp h
  obtain rfl : l.fields = fields := by
    apply Fields.text_inj l.wellCut_fields hdenote.wellCut
    rw [← toList_name, htext]
  cases other
  cases l
  rw [mk.injEq]
  exact ⟨UInt32.toNat_inj.mp (of_readHex?_hexDigits (by decide) hdenote.domain),
    UInt8.toNat_inj.mp (of_readHex?_hexDigits (by decide) hdenote.bus),
    UInt8.toNat_inj.mp (of_readHex?_hexDigits (by decide) hdenote.device),
    UInt8.toNat_inj.mp (of_readHex?_hexDigits (by decide) hdenote.function)⟩

/-- The name of a location is read back, if it has a device and a function
that there can be. -/
theorem ofName?_name {l : Location} (hdevice : l.device < 32) (hfunction : l.function < 8) :
    ofName? l.name = some l := by
  have hbus := l.bus.toNat_lt
  have hdomain := l.domain.toNat_lt
  rw [UInt8.lt_iff_toNat_lt] at hdevice hfunction
  have hdigits := (Nat.length_toDigits_le_iff (by decide : 1 < 16) (by decide : 0 < 8)).mpr
    (show l.domain.toNat < 16 ^ 8 from hdomain)
  have hlength := length_hexDigits 4 l.domain.toNat
  refine ofName?_eq_some_iff.mpr ⟨l.fields, l.toList_name, ?_, ?_⟩
  · constructor
    · change 4 ≤ (hexDigits 4 l.domain.toNat).length
      omega
    · change (hexDigits 4 l.domain.toNat).length ≤ 8
      omega
    · exact length_hexDigits_of_lt (by decide) hbus
    · exact length_hexDigits_of_lt (by decide) (Nat.lt_of_lt_of_le hdevice (by decide))
    · exact length_hexDigits_of_lt (by decide) (Nat.lt_of_lt_of_le hfunction (by decide))
  · constructor
    · exact readHex?_hexDigits 4 hdomain
    · exact readHex?_hexDigits 2 hbus
    · exact readHex?_hexDigits 2 hdevice
    · exact readHex?_hexDigits 1 hfunction

theorem isName_name (l : Location) : Files.IsName l.name := by
  apply Fields.isName l.toList_name
  have hslash : ∀ width n, '/' ∉ hexDigits width n := not_mem_hexDigits (by decide)
  simp [Fields.text, fields, hslash]

end Location

end PciBus

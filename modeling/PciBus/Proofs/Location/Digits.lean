import PciBus.Proofs.Location.FilterText
import PciBus.Proofs.Location.Name

/-!
# The characters of a location

A field of a location is written in hexadecimal digits. A reader takes them
with a plus sign in front as well (`Signed`), in the name of a directory and in
a filter alike, and nothing else (`fields_of_accepted`). So the fields of an
accepted text are all digits exactly if there is no plus sign in it.

The sign counts as one of the characters that a field has: `+3` is a bus of two
characters, and a field of one character has no room for it.
-/

namespace PciBus

open Text

/-! ## Digits -/

/-- A hexadecimal digit, in either case. -/
def IsHexDigit (c : Char) : Prop :=
  '0' ≤ c ∧ c ≤ '9' ∨ 'a' ≤ c ∧ c ≤ 'f' ∨ 'A' ≤ c ∧ c ≤ 'F'

instance (c : Char) : Decidable (IsHexDigit c) := inferInstanceAs (Decidable (_ ∨ _))

/-- Hexadecimal digits and nothing else. -/
def AllDigits (cs : List Char) : Prop := ∀ c ∈ cs, IsHexDigit c

instance (cs : List Char) : Decidable (AllDigits cs) := List.decidableBAll IsHexDigit cs

/-- Hexadecimal digits, at least one, and perhaps a plus sign in front of them. -/
def Signed (cs : List Char) : Prop :=
  ∃ digits, digits ≠ [] ∧ AllDigits digits ∧ (cs = digits ∨ cs = '+' :: digits)

theorem isHexDigit_of_digitValue? {c : Char} {d : Nat} (h : digitValue? 16 c = some d) :
    IsHexDigit c := by
  rcases ascii_or_large c with ⟨n, hn, rfl⟩ | hlarge
  · have hall : ∀ n < 128, (digitValue? 16 (Char.ofNat n)).isSome → IsHexDigit (Char.ofNat n) := by
      decide +kernel
    exact hall n hn (by rw [h]; rfl)
  · rw [digitValue?_of_large hlarge] at h
    cases h

namespace Text

variable {bound n : Nat} {cs : List Char}

theorem Spells.allDigits (h : Spells n cs) : AllDigits cs := by
  intro c hc
  cases hdigit : digitValue? 16 c with
  | none => exact absurd hc (h.not_mem hdigit)
  | some d => exact isHexDigit_of_digitValue? hdigit

theorem signed_of_readHex? (hbound : 0 < bound) (h : readHex? bound cs = some n) : Signed cs := by
  obtain ⟨-, digits, hcs, hspells⟩ := (readHex?_eq_some_iff hbound).mp h
  exact ⟨digits, hspells.ne_nil, hspells.allDigits, hcs⟩

end Text

theorem AllDigits.no_sign {cs : List Char} (h : AllDigits cs) : '+' ∉ cs := by
  intro hmem
  exact absurd (h '+' hmem) (by decide)

namespace Signed

variable {cs : List Char}

/-- The sign is the only character that can be wrong. -/
theorem allDigits_iff (h : Signed cs) : AllDigits cs ↔ '+' ∉ cs := by
  obtain ⟨digits, -, hdigits, rfl | rfl⟩ := h
  · exact ⟨AllDigits.no_sign, fun _ => hdigits⟩
  · exact ⟨AllDigits.no_sign, fun hsign => absurd List.mem_cons_self hsign⟩

/-- There is no room for a sign beside the digit. -/
theorem allDigits_of_length (h : Signed cs) (hlength : cs.length = 1) : AllDigits cs := by
  obtain ⟨digits, hne, hdigits, rfl | rfl⟩ := h
  · exact hdigits
  · exact absurd (List.length_eq_zero_iff.mp (Nat.succ.inj hlength)) hne

end Signed

/-! ## Names -/

namespace Location.Fields

variable {fields : Fields} {l : Location}

/-- Every field is in digits. -/
structure Digital (fields : Fields) : Prop where
  domain : AllDigits fields.domain
  bus : AllDigits fields.bus
  device : AllDigits fields.device
  function : AllDigits fields.function

/-- Every field is in digits with a sign perhaps, but for the last, which is
in digits. -/
structure NearlyDigital (fields : Fields) : Prop where
  domain : Signed fields.domain
  bus : Signed fields.bus
  device : Signed fields.device
  function : AllDigits fields.function

theorem Denote.nearlyDigital (h : fields.Denote l) (hsized : fields.Sized) :
    fields.NearlyDigital where
  domain := signed_of_readHex? (by decide) h.domain
  bus := signed_of_readHex? (by decide) h.bus
  device := signed_of_readHex? (by decide) h.device
  function := (signed_of_readHex? (by decide) h.function).allDigits_of_length hsized.function

theorem mem_sign_text :
    '+' ∈ fields.text ↔
      '+' ∈ fields.domain ∨ '+' ∈ fields.bus ∨ '+' ∈ fields.device ∨ '+' ∈ fields.function := by
  simp [text]

/-- A name is in digits exactly if no plus sign is in it. -/
theorem NearlyDigital.digital_iff (h : fields.NearlyDigital) :
    fields.Digital ↔ '+' ∉ fields.text := by
  rw [mem_sign_text]
  simp only [not_or]
  constructor
  · intro hdigital
    exact ⟨hdigital.domain.no_sign, hdigital.bus.no_sign, hdigital.device.no_sign,
      hdigital.function.no_sign⟩
  · rintro ⟨hdomain, hbus, hdevice, -⟩
    exact ⟨h.domain.allDigits_iff.mpr hdomain, h.bus.allDigits_iff.mpr hbus,
      h.device.allDigits_iff.mpr hdevice, h.function⟩

end Location.Fields

/-! ## Filters -/

namespace Filter

variable {field : Field} {value : Option Nat} {cs : List Char}

theorem Names.empty_or_star_or_signed (h : Names field value cs) :
    cs = [] ∨ cs = ['*'] ∨ Signed cs := by
  cases h with
  | plain hwrites _ =>
      cases hwrites with
      | empty => exact .inl rfl
      | star => exact .inr (.inl rfl)
      | number hspells =>
          exact .inr (.inr ⟨cs, hspells.ne_nil, hspells.allDigits, .inl rfl⟩)
  | signed hspells _ =>
      exact .inr (.inr ⟨_, hspells.ne_nil, hspells.allDigits, .inr rfl⟩)

/-- The bus is where the text is cut for it. -/
theorem field_bus_eq {layout : Layout} (h : layout.WellCut) :
    layout.field .bus = (cutFields layout.text).2.1 := by
  rw [cutFields_text h]

theorem readFilter_eq_ok_iff {text : String} {f : Filter} :
    Settings.readFilter text = .ok f ↔ read text = .ok f := by
  rw [Settings.readFilter]
  cases read text <;> simp [Except.mapError]

end Filter

/-- **The characters of a location.** The fields of a text that is read as the
name of a location have the lengths of a name and are in digits, each with a plus
sign in front perhaps where there is room for one. The fields of a text that is
read as a filter are empty, or `*`, or such digits. Without a plus sign there are
digits only, and with one there are not. -/
theorem fields_of_accepted (text : String) :
    (∀ l, Location.ofName? text = some l → ∃ fields : Location.Fields,
      text.toList = fields.text ∧ fields.WellCut ∧ fields.Sized ∧ fields.NearlyDigital ∧
      (fields.Digital ↔ '+' ∉ text.toList)) ∧
    ∀ f, Settings.readFilter text = .ok f → ∃ layout : Filter.Layout,
      layout.text = text.toList ∧ layout.WellCut ∧ ∀ field,
        layout.field field = [] ∨ layout.field field = ['*'] ∨
          Signed (layout.field field) ∧
            (AllDigits (layout.field field) ↔ '+' ∉ layout.field field) := by
  constructor
  · intro l h
    obtain ⟨fields, hname, hsized, hdenote⟩ := Location.ofName?_eq_some_iff.mp h
    have hnearly := hdenote.nearlyDigital hsized
    refine ⟨fields, hname, hdenote.wellCut, hsized, hnearly, ?_⟩
    rw [hname, hnearly.digital_iff]
  · intro f h
    have hread := Filter.readFilter_eq_ok_iff.mp h
    obtain ⟨layout, hcut, htext⟩ := Filter.Layout.exists_layout text.toList
    rw [← String.ofList_toList (s := text), ← htext, Filter.read_eq_ok_iff hcut] at hread
    refine ⟨layout, htext, hcut, fun field => ?_⟩
    rcases (hread field).empty_or_star_or_signed with hempty | hstar | hsigned
    · exact .inl hempty
    · exact .inr (.inl hstar)
    · exact .inr (.inr ⟨hsigned, hsigned.allDigits_iff⟩)

/-- Upper case in a wide domain, and a filter with a star. -/
theorem shouted_name_digital :
    (∃ fields : Location.Fields, "1000A:E0:1f.7".toList = fields.text ∧ fields.Digital) ∧
    ∃ layout : Filter.Layout, layout.text = "E0:*.7".toList ∧
      AllDigits (layout.field .bus) := by
  constructor
  · obtain ⟨fields, htext, -, -, -, hdigital⟩ :=
      (fields_of_accepted "1000A:E0:1f.7").1 ⟨0x1000a, 0xe0, 0x1f, 7⟩ (by decide +kernel)
    exact ⟨fields, htext, hdigital.mpr (by decide +kernel)⟩
  · obtain ⟨layout, htext, hcut, hfields⟩ :=
      (fields_of_accepted "E0:*.7").2 { bus := some 0xe0, function := some 7 }
        (by decide +kernel)
    have hbus : layout.field .bus = "E0".toList := by
      rw [Filter.field_bus_eq hcut, htext]
      decide +kernel
    refine ⟨layout, htext, ?_⟩
    rcases hfields .bus with hempty | hstar | ⟨-, hdigits⟩
    · rw [hbus] at hempty
      exact absurd hempty (by decide +kernel)
    · rw [hbus] at hstar
      exact absurd hstar (by decide +kernel)
    · exact hdigits.mpr (hbus ▸ by decide +kernel)

/-- A plus sign takes the place of a digit. -/
def signedName : Location.Fields := ⟨"0000".toList, "+3".toList, "00".toList, "0".toList⟩

/-- So a text that is accepted need not be in digits. -/
theorem signs_accepted :
    Location.ofName? "0000:+3:00.0" = some ⟨0, 3, 0, 0⟩ ∧
    (∀ fields : Location.Fields, fields.WellCut → "0000:+3:00.0".toList = fields.text →
      ¬ AllDigits fields.bus) ∧
    Settings.readFilter "+3:00.0" = .ok { bus := some 3, device := some 0, function := some 0 } ∧
    ∀ layout : Filter.Layout, layout.WellCut → layout.text = "+3:00.0".toList →
      layout.field .bus ≠ [] ∧ layout.field .bus ≠ ['*'] ∧ ¬ AllDigits (layout.field .bus) := by
  refine ⟨by decide +kernel, ?_, by decide +kernel, ?_⟩
  · intro fields hcut htext
    have hsigned : signedName.WellCut := by constructor <;> decide +kernel
    obtain rfl : signedName = fields :=
      Location.Fields.text_inj hsigned hcut (htext ▸ by decide +kernel)
    decide +kernel
  · intro layout hcut htext
    have hbus : layout.field .bus = "+3".toList := by
      rw [Filter.field_bus_eq hcut, htext]
      decide +kernel
    rw [hbus]
    decide +kernel

end PciBus

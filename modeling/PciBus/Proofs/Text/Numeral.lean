import Mathlib.Algebra.Group.Nat.Defs
import Mathlib.Data.List.Induction
import PciBus.Text.Numeral

/-!
# Hexadecimal numerals

A text spells a number if it has its hexadecimal digits, in either case and
with any number of zeros in front (`Spells`). It spells no other number
(`Spells.unique`). What is read as a number is a text that spells it, with or
without a plus sign, if the number fits (`readHex?_eq_some_iff`).

A number that is written in hexadecimal is spelled (`spells_hexDigits`), so it
is read back (`readHex?_hexDigits`), and with so many digits as its field has
where it fits (`length_hexDigits_of_lt`).
-/

namespace PciBus.Text

variable {radix bound : Nat}

/-! ## Digits -/

theorem digitValue?_digitChar {n : Nat} (h : n < 16) : digitValue? 16 n.digitChar = some n := by
  have hall : ∀ n < 16, digitValue? 16 n.digitChar = some n := by decide
  exact hall n h

theorem toLower_digitChar {n : Nat} (h : n < 16) : n.digitChar.toLower = n.digitChar := by
  have hall : ∀ n < 16, n.digitChar.toLower = n.digitChar := by decide
  exact hall n h

/-- A character is one of ASCII, or no digit in either case. -/
theorem ascii_or_large (c : Char) : (∃ n < 128, c = Char.ofNat n) ∨ 128 ≤ c.toNat := by
  rcases Nat.lt_or_ge c.toNat 128 with h | h
  · exact .inl ⟨c.toNat, h, (Char.ofNat_toNat c).symm⟩
  · exact .inr h

theorem digitValue?_of_large {c : Char} (h : 128 ≤ c.toNat) : digitValue? 16 c = none := by
  have hdigit : ¬ c.toNat ≤ 0x39 := by omega
  have hlower : ¬ c.toNat ≤ 0x7a := by omega
  have hupper : ¬ c.toNat ≤ 0x5a := by omega
  simp [digitValue?, hdigit, hlower, hupper]

theorem toLower_of_large {c : Char} (h : 128 ≤ c.toNat) : c.toLower = c := by
  have hupper : ¬ c.toNat ≤ 0x5a := by omega
  refine dif_neg ?_
  rintro ⟨-, hle⟩
  exact hupper hle

/-- The case of a digit does not matter. -/
theorem digitValue?_toLower (c : Char) : digitValue? 16 c.toLower = digitValue? 16 c := by
  rcases ascii_or_large c with ⟨n, hn, rfl⟩ | h
  · have hall : ∀ n < 128,
        digitValue? 16 (Char.ofNat n).toLower = digitValue? 16 (Char.ofNat n) := by
      decide +kernel
    exact hall n hn
  · rw [toLower_of_large h]

theorem of_digitValue? {c : Char} {d : Nat} (h : digitValue? 16 c = some d) :
    d < 16 ∧ c.toLower = d.digitChar := by
  rcases ascii_or_large c with ⟨n, hn, rfl⟩ | hlarge
  · have hall : ∀ n < 128, ∀ d ∈ digitValue? 16 (Char.ofNat n),
        d < 16 ∧ (Char.ofNat n).toLower = d.digitChar := by
      decide +kernel
    exact hall n hn d h
  · rw [digitValue?_of_large hlarge] at h
    cases h

/-! ## Reading digits -/

theorem readDigits_append (acc : Nat) (first rest : List Char) :
    readDigits radix bound acc (first ++ rest) =
      (readDigits radix bound acc first).bind fun acc => readDigits radix bound acc rest := by
  induction first generalizing acc with
  | nil => rfl
  | cons c first ih =>
      simp only [List.cons_append, readDigits]
      split
      · rfl
      split
      · exact ih _
      · rfl

theorem readDigits_toDigits {n : Nat} (h : n < bound) :
    readDigits 16 bound 0 (Nat.toDigits 16 n) = .ok n := by
  induction n using Nat.strongRecOn with
  | ind n ih =>
      by_cases hsmall : n < 16
      · rw [Nat.toDigits_of_lt_base hsmall]
        simp [readDigits, digitValue?_digitChar hsmall, h]
      · have hbase : 16 ≤ n := Nat.le_of_not_lt hsmall
        have hlow : n % 16 < 16 := Nat.mod_lt _ (by decide)
        have hrest := ih (n / 16) (by omega) (by omega)
        have hsum : n / 16 * 16 + n % 16 = n := Nat.div_add_mod' n 16
        rw [Nat.toDigits_of_base_le (by decide) hbase, readDigits_append, hrest]
        simp [Except.bind, readDigits, digitValue?_digitChar hlow, hsum, h]

theorem readDigits_replicate_zero (hbound : 0 < bound) (count : Nat) (cs : List Char) :
    readDigits 16 bound 0 (List.replicate count '0' ++ cs) = readDigits 16 bound 0 cs := by
  induction count with
  | zero => rfl
  | succ count ih =>
      have hzero : digitValue? 16 '0' = some 0 := by decide
      simp [List.replicate_succ, readDigits, hzero, hbound, ih]

theorem readDigits_map_toLower (acc : Nat) (cs : List Char) :
    readDigits 16 bound acc (cs.map Char.toLower) = readDigits 16 bound acc cs := by
  induction cs generalizing acc with
  | nil => rfl
  | cons c cs ih => simp only [List.map_cons, readDigits, digitValue?_toLower, ih]

/-! ## Spelling -/

/-- The text has the hexadecimal digits of `n`, in either case and with any
number of zeros in front. -/
def Spells (n : Nat) (cs : List Char) : Prop :=
  ∃ zeros, cs.map Char.toLower = List.replicate zeros '0' ++ Nat.toDigits 16 n

/-- The digit that comes last counts once, and those before it sixteen times. -/
theorem toDigits_snoc {n d : Nat} (hn : n ≠ 0) (hd : d < 16) :
    Nat.toDigits 16 (n * 16 + d) = Nat.toDigits 16 n ++ [d.digitChar] := by
  have hquotient : (n * 16 + d) / 16 = n := by omega
  have hremainder : (n * 16 + d) % 16 = d := by omega
  rw [Nat.toDigits_of_base_le (by decide) (by omega), hquotient, hremainder]

namespace Spells

variable {m n d : Nat} {cs : List Char} {c : Char}

theorem digit (h : digitValue? 16 c = some d) : Spells d [c] := by
  obtain ⟨hd, hc⟩ := of_digitValue? h
  exact ⟨0, by simp [hc, Nat.toDigits_of_lt_base hd]⟩

theorem snoc (h : Spells n cs) (hdigit : digitValue? 16 c = some d) :
    Spells (n * 16 + d) (cs ++ [c]) := by
  obtain ⟨hd, hc⟩ := of_digitValue? hdigit
  obtain ⟨zeros, hzeros⟩ := h
  by_cases hn : n = 0
  · -- the digit of zero is one more zero in front
    subst hn
    refine ⟨zeros + 1, ?_⟩
    rw [List.map_append, hzeros, List.replicate_succ', Nat.zero_mul, Nat.zero_add,
      Nat.toDigits_of_lt_base hd]
    simp [hc]
  · refine ⟨zeros, ?_⟩
    rw [List.map_append, hzeros, toDigits_snoc hn hd]
    simp [hc]

/-- What is read as a number spells it. -/
theorem of_readDigits (hne : cs ≠ []) (h : readDigits 16 bound 0 cs = .ok n) : Spells n cs := by
  induction cs using List.reverseRecOn generalizing n with
  | nil => exact absurd rfl hne
  | append_singleton cs c ih =>
      rw [readDigits_append] at h
      cases hread : readDigits 16 bound 0 cs with
      | error e =>
          rw [hread] at h
          cases h
      | ok m =>
          rw [hread] at h
          simp only [Except.bind, readDigits] at h
          split at h
          · cases h
          rename_i d hdigit
          split at h
          · obtain rfl := Except.ok.inj h
            by_cases hcs : cs = []
            · subst hcs
              obtain rfl : 0 = m := Except.ok.inj hread
              simpa using digit hdigit
            · exact (ih hcs hread).snoc hdigit
          · cases h

/-- What spells a number that fits is read as that number. -/
theorem readDigits (h : Spells n cs) (hn : n < bound) : readDigits 16 bound 0 cs = .ok n := by
  obtain ⟨zeros, hzeros⟩ := h
  rw [← readDigits_map_toLower, hzeros, readDigits_replicate_zero (by omega),
    readDigits_toDigits hn]

theorem unique (hm : Spells m cs) (hn : Spells n cs) : m = n := by
  have hreadm : Text.readDigits 16 (max m n + 1) 0 cs = .ok m := hm.readDigits (by omega)
  have hreadn : Text.readDigits 16 (max m n + 1) 0 cs = .ok n := hn.readDigits (by omega)
  exact Except.ok.inj (hreadm.symm.trans hreadn)

theorem ne_nil (h : Spells n cs) : cs ≠ [] := by
  rintro rfl
  obtain ⟨zeros, hzeros⟩ := h
  have hlength := congrArg List.length hzeros
  have hpos := List.length_pos_iff.mpr (Nat.toDigits_ne_nil (b := 16) (n := n))
  simp only [List.map_nil, List.length_nil, List.length_append, List.length_replicate] at hlength
  omega

end Spells

/-- Everything in the digits of a number is a digit. -/
theorem exists_digit_of_mem_toDigits {c : Char} {n : Nat} (h : c ∈ Nat.toDigits 16 n) :
    ∃ d < 16, c = d.digitChar := by
  induction n using Nat.strongRecOn with
  | ind n ih =>
      by_cases hsmall : n < 16
      · rw [Nat.toDigits_of_lt_base hsmall, List.mem_singleton] at h
        exact ⟨n, hsmall, h⟩
      · rw [Nat.toDigits_of_base_le (by decide) (Nat.le_of_not_lt hsmall), List.mem_append,
          List.mem_singleton] at h
        rcases h with h | h
        · exact ih (n / 16) (by omega) h
        · exact ⟨n % 16, Nat.mod_lt _ (by decide), h⟩

theorem exists_digit_of_mem_hexDigits {c : Char} {width n : Nat} (h : c ∈ hexDigits width n) :
    ∃ d < 16, c = d.digitChar := by
  rw [hexDigits, List.mem_append] at h
  rcases h with h | h
  · exact ⟨0, by decide, List.eq_of_mem_replicate h⟩
  · exact exists_digit_of_mem_toDigits h

theorem spells_hexDigits (width n : Nat) : Spells n (hexDigits width n) := by
  have hlower : (hexDigits width n).map Char.toLower = hexDigits width n := by
    apply (List.map_congr_left _).trans (List.map_id _)
    intro c hc
    obtain ⟨d, hd, rfl⟩ := exists_digit_of_mem_hexDigits hc
    exact toLower_digitChar hd
  exact ⟨width - (Nat.toDigits 16 n).length, hlower⟩

/-- Nothing but digits is in what spells a number. -/
theorem Spells.not_mem {n : Nat} {cs : List Char} (h : Spells n cs) {c : Char}
    (hc : digitValue? 16 c = none) : c ∉ cs := by
  intro hmem
  obtain ⟨zeros, hzeros⟩ := h
  have hlower : c.toLower ∈ hexDigits (zeros + (Nat.toDigits 16 n).length) n := by
    rw [hexDigits, Nat.add_sub_cancel, ← hzeros]
    exact List.mem_map_of_mem hmem
  obtain ⟨d, hd, hdigit⟩ := exists_digit_of_mem_hexDigits hlower
  rw [← digitValue?_toLower, hdigit, digitValue?_digitChar hd] at hc
  cases hc

theorem not_mem_hexDigits {c : Char} (h : digitValue? 16 c = none) (width n : Nat) :
    c ∉ hexDigits width n :=
  (spells_hexDigits width n).not_mem h

/-! ## Reading numbers -/

theorem lt_of_readHex? {bound n : Nat} {cs : List Char} (hbound : 0 < bound)
    (h : readHex? bound cs = some n) : n < bound := by
  rw [readHex?] at h
  cases hread : readUnsigned 16 bound cs with
  | error e =>
      rw [hread] at h
      cases h
  | ok found =>
      rw [hread] at h
      obtain rfl : found = n := Option.some.inj h
      exact lt_of_readUnsigned hbound hread

/-- A number is read without its sign, which is not there alone. -/
theorem readUnsigned_eq_ok_iff {cs : List Char} {n : Nat} :
    readUnsigned radix bound cs = .ok n ↔
      ∃ digits, digits ≠ [] ∧ (cs = digits ∧ digits.head? ≠ some '+' ∨ cs = '+' :: digits) ∧
        readDigits radix bound 0 digits = .ok n := by
  constructor
  · intro h
    unfold readUnsigned at h
    split at h
    · cases h
    · cases h
    · rename_i digits hdigits
      exact ⟨digits, fun hnil => hdigits (hnil ▸ rfl), .inr rfl, h⟩
    · rename_i hnil _ hplus
      refine ⟨cs, hnil, .inl ⟨rfl, ?_⟩, h⟩
      intro hhead
      obtain ⟨tail, rfl⟩ := List.head?_eq_some_iff.mp hhead
      exact hplus tail rfl
  · rintro ⟨digits, hne, ⟨rfl, hplus⟩ | rfl, h⟩
    · unfold readUnsigned
      split
      · exact absurd rfl hne
      · exact absurd rfl hplus
      · exact absurd rfl hplus
      · exact h
    · unfold readUnsigned
      split <;> simp_all

/-- A hexadecimal number is read exactly from what spells it, with or without
a plus sign. -/
theorem readHex?_eq_some_iff (hbound : 0 < bound) {cs : List Char} {n : Nat} :
    readHex? bound cs = some n ↔
      n < bound ∧ ∃ digits, (cs = digits ∨ cs = '+' :: digits) ∧ Spells n digits := by
  have hoption : readHex? bound cs = some n ↔ readUnsigned 16 bound cs = .ok n := by
    rw [readHex?]
    cases readUnsigned 16 bound cs <;> simp [Except.toOption]
  constructor
  · intro h
    obtain ⟨digits, hne, hcs, hread⟩ := readUnsigned_eq_ok_iff.mp (hoption.mp h)
    exact ⟨lt_of_readHex? hbound h, digits, hcs.imp And.left id, .of_readDigits hne hread⟩
  · rintro ⟨hn, digits, hcs, hspells⟩
    have hplus : '+' ∉ digits := hspells.not_mem (by decide)
    have hhead : digits.head? ≠ some '+' := fun hhead => hplus (List.mem_of_head? hhead)
    exact hoption.mpr <| readUnsigned_eq_ok_iff.mpr
      ⟨digits, hspells.ne_nil, hcs.imp (⟨·, hhead⟩) id, hspells.readDigits hn⟩

/-- A number that is written in hexadecimal is read back. -/
theorem readHex?_hexDigits (width : Nat) {n : Nat} (h : n < bound) :
    readHex? bound (hexDigits width n) = some n :=
  (readHex?_eq_some_iff (by omega)).mpr ⟨h, _, .inl rfl, spells_hexDigits width n⟩

/-- The digits of a number are read as no other number. -/
theorem of_readHex?_hexDigits (hbound : 0 < bound) {width m n : Nat}
    (h : readHex? bound (hexDigits width n) = some m) : m = n := by
  obtain ⟨-, digits, hdigits, hspells⟩ := (readHex?_eq_some_iff hbound).mp h
  rcases hdigits with hdigits | hplus
  · exact hspells.unique (hdigits ▸ spells_hexDigits width n)
  · have hmem : '+' ∈ hexDigits width n := hplus ▸ List.mem_cons_self
    exact absurd hmem (not_mem_hexDigits (by decide) _ _)

/-- What is read as a number has digits and at most a plus sign. -/
theorem not_mem_of_readHex? (hbound : 0 < bound) {cs : List Char} {n : Nat}
    (h : readHex? bound cs = some n) {c : Char} (hc : digitValue? 16 c = none) (hplus : c ≠ '+') :
    c ∉ cs := by
  obtain ⟨-, digits, rfl | rfl, hspells⟩ := (readHex?_eq_some_iff hbound).mp h
  · exact hspells.not_mem hc
  · exact List.not_mem_cons_of_ne_of_not_mem hplus (hspells.not_mem hc)

/-! ## Lengths -/

theorem length_hexDigits (width n : Nat) :
    (hexDigits width n).length = max width (Nat.toDigits 16 n).length := by
  rw [hexDigits, List.length_append, List.length_replicate]
  omega

/-- A number that fits is written in exactly so many digits. -/
theorem length_hexDigits_of_lt {width n : Nat} (hwidth : 0 < width) (h : n < 16 ^ width) :
    (hexDigits width n).length = width := by
  have hdigits := (Nat.length_toDigits_le_iff (by decide : 1 < 16) hwidth).mpr h
  rw [length_hexDigits]
  omega

end PciBus.Text

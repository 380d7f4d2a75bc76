import Mathlib.Logic.Function.Iterate
import PciBus.Proofs.Bar.Table
import PciBus.Proofs.Probe.Criterion

/-!
# The walk over the BARs

How far the walk goes on depends on what it has just decoded, and the register
that it passes over may hold anything, what looks like another 64-bit BAR
included. So no register tells by itself whether it is shown; the walk does: a
register is left out exactly if the one before it is shown and takes it
(`Probe.walk_accounts`).

Which registers take the next is a matter of decoding
(`Bar.lower_of_takesNext`, `Bar.takesNext_of_lower`). A lower half whose upper
half cannot be read takes nothing; the walk then comes to the upper half, and
cannot decode it for the same reason. What a probe prints of the device that it
chose is such a walk, made while the device is switched on, with a line for each
register that is shown (`Probe.IsBarLine`, `Probe.run_shows_bars`).
-/

namespace PciBus

namespace Probe

/-! ## Rounds -/

/-- A result that stands for the next register as well: a BAR of 64 bits,
decoded or out of reach. -/
def TakesNext : Except Fault Bar → Prop
  | .ok bar => bar.width = .bits64
  | .error e => ∃ l offset upper lower bits, e = .unreachable l offset upper lower bits

theorem registersOf_cases (result : Except Fault Bar) :
    TakesNext result ∧ registersOf result = 2 ∨ ¬ TakesNext result ∧ registersOf result = 1 := by
  cases result with
  | ok bar =>
      by_cases hwide : bar.width = .bits64
      · exact .inl ⟨hwide, if_pos hwide⟩
      · exact .inr ⟨hwide, if_neg hwide⟩
  | error e => cases e <;> simp [TakesNext, registersOf]

instance (result : Except Fault Bar) : Decidable (TakesNext result) :=
  decidable_of_iff (registersOf result = 2) (by
    rcases registersOf_cases result with ⟨htakes, htwo⟩ | ⟨hleaves, hone⟩
    · exact iff_of_true htwo htakes
    · exact iff_of_false (by omega) hleaves)

/-- Where the walk goes on. -/
def advance (decode : Nat → Except Fault Bar) (index : Nat) : Nat :=
  index + registersOf (decode index)

section

variable {decode : Nat → Except Fault Bar} {count index : Nat}

theorem lt_advance : index < advance decode index :=
  Nat.lt_add_of_pos_right (registersOf_pos _)

theorem walk_of_lt (hlt : index < count) : walk decode count index =
    (index, decode index) :: walk decode count (advance decode index) := by
  rw [walk, if_pos hlt, advance]

theorem walk_of_le (hge : count ≤ index) : walk decode count index = [] := by
  rw [walk, if_neg (Nat.not_lt.mpr hge)]

/-- Induction along the walk: a register before the end, or the end. -/
@[elab_as_elim]
theorem walk_induction (decode : Nat → Except Fault Bar) (count : Nat) {motive : Nat → Prop}
    (step : ∀ index, index < count → motive (advance decode index) → motive index)
    (done : ∀ index, count ≤ index → motive index) (index : Nat) : motive index :=
  walk.induct decode count motive step (fun index hge => done index (Nat.not_lt.mp hge)) index

theorem walk_congr {other : Nat → Except Fault Bar} (h : ∀ i < count, decode i = other i) :
    walk decode count index = walk other count index := by
  induction index using walk_induction decode count with
  | step index hlt ih =>
      rw [walk_of_lt hlt, walk_of_lt hlt, ih, advance, advance, h index hlt]
  | done index hge => rw [walk_of_le hge, walk_of_le hge]

/-- One round for each register shown, and no more rounds than registers. -/
theorem walk_rounds (decode : Nat → Except Fault Bar) (count index : Nat) :
    ∃ rounds ≤ count - index, (∀ k < rounds, (advance decode)^[k] index < count) ∧
      count ≤ (advance decode)^[rounds] index ∧
      walk decode count index = (List.range rounds).map fun k =>
        ((advance decode)^[k] index, decode ((advance decode)^[k] index)) := by
  induction index using walk_induction decode count with
  | step index hlt ih =>
      obtain ⟨rounds, hfew, hwithin, hend, hwalk⟩ := ih
      have hpast := @lt_advance decode index
      refine ⟨rounds + 1, by omega, ?_, hend, ?_⟩
      · rintro (_ | k) hk
        · exact hlt
        · exact hwithin k (by omega)
      · rw [walk_of_lt hlt, hwalk, List.range_succ_eq_map, List.map_cons, List.map_map]
        rfl
  | done index hge => exact ⟨0, Nat.zero_le _, by simp, hge, walk_of_le hge⟩

/-- The registers that a walk shows. -/
def stops (decode : Nat → Except Fault Bar) (count index : Nat) : List Nat :=
  (walk decode count index).map Prod.fst

theorem stops_of_lt (hlt : index < count) :
    stops decode count index = index :: stops decode count (advance decode index) := by
  rw [stops, walk_of_lt hlt]
  rfl

theorem mem_walk_iff {i : Nat} {result : Except Fault Bar} :
    (i, result) ∈ walk decode count index ↔ i ∈ stops decode count index ∧ result = decode i := by
  constructor
  · intro h
    exact ⟨List.mem_map_of_mem h, (mem_walk h).2.2⟩
  · rintro ⟨hstop, rfl⟩
    obtain ⟨⟨i, result⟩, hshown, rfl⟩ := List.mem_map.mp hstop
    rwa [(mem_walk hshown).2.2] at hshown

theorem le_of_mem_stops {i : Nat} (h : i ∈ stops decode count index) : index ≤ i := by
  obtain ⟨⟨i, result⟩, hshown, rfl⟩ := List.mem_map.mp h
  exact (mem_walk hshown).1

theorem stops_increasing : (stops decode count index).Pairwise (· < ·) := by
  induction index using walk_induction decode count with
  | step index hlt ih =>
      rw [stops_of_lt hlt, List.pairwise_cons]
      exact ⟨fun i hi => Nat.lt_of_lt_of_le lt_advance (le_of_mem_stops hi), ih⟩
  | done index hge =>
      rw [stops, walk_of_le hge]
      exact .nil

/-- From where the walk is, a register is left out exactly if the one before
it is shown and takes it. -/
theorem mem_stops_iff {i : Nat} (hindex : index ≤ i) (hcount : i < count) :
    i ∈ stops decode count index ↔
      ¬ ∃ j, j + 1 = i ∧ j ∈ stops decode count index ∧ TakesNext (decode j) := by
  induction index using walk_induction decode count with
  | done index hge => omega
  | step index hlt ih =>
      rw [stops_of_lt hlt]
      rcases Nat.eq_or_lt_of_le hindex with rfl | hlater
      · -- nothing that is shown comes before the first register
        refine iff_of_true List.mem_cons_self ?_
        rintro ⟨j, hnext, hj, -⟩
        rw [← stops_of_lt hlt] at hj
        have := le_of_mem_stops hj
        omega
      rw [List.mem_cons, or_iff_right (by omega)]
      rcases registersOf_cases (decode index) with ⟨htakes, htwo⟩ | ⟨hleaves, hone⟩
      · by_cases hupper : i = index + 1
        · refine iff_of_false ?_ ?_
          · intro hi
            have hpast := le_of_mem_stops hi
            rw [advance, htwo] at hpast
            omega
          · exact fun hnone => hnone ⟨index, hupper.symm, List.mem_cons_self, htakes⟩
        · rw [ih (by rw [advance, htwo]; omega)]
          refine not_congr (exists_congr fun j => and_congr_right fun hnext => ?_)
          rw [List.mem_cons, or_iff_right (by omega)]
      · rw [ih (by rw [advance, hone]; omega)]
        refine not_congr (exists_congr fun j => and_congr_right fun _ => ?_)
        rw [List.mem_cons, or_and_right, or_iff_right]
        rintro ⟨rfl, htakes⟩
        exact hleaves htakes

end

/-! ## The whole walk -/

/-- What is shown accounts for the registers below `count`. -/
structure Accounts (decode : Nat → Except Fault Bar) (count : Nat)
    (shown : List (Nat × Except Fault Bar)) : Prop where
  /-- The walk comes to an end, and shows one register in each round. -/
  rounds : ∃ rounds ≤ count, (∀ k < rounds, (advance decode)^[k] 0 < count) ∧
    count ≤ (advance decode)^[rounds] 0 ∧
    shown = (List.range rounds).map fun k =>
      ((advance decode)^[k] 0, decode ((advance decode)^[k] 0))
  increasing : (shown.map Prod.fst).Pairwise (· < ·)
  decoded : ∀ i result, (i, result) ∈ shown → i < count ∧ result = decode i
  /-- What is left out is taken by the register before it, and nothing else
  is. -/
  shown_iff : ∀ i < count, (∃ result, (i, result) ∈ shown) ↔
    ¬ ∃ j taken, j + 1 = i ∧ (j, taken) ∈ shown ∧ TakesNext taken

theorem walk_accounts (decode : Nat → Except Fault Bar) (count : Nat) :
    Accounts decode count (walk decode count 0) where
  rounds := walk_rounds decode count 0
  increasing := stops_increasing
  decoded := fun i result h => (mem_walk h).2
  shown_iff := by
    intro i hi
    simp only [mem_walk_iff, exists_and_left, exists_eq, and_true]
    rw [mem_stops_iff (Nat.zero_le i) hi]
    refine not_congr (exists_congr fun j => and_congr_right fun _ => ?_)
    constructor
    · exact fun ⟨hj, htakes⟩ => ⟨_, ⟨hj, rfl⟩, htakes⟩
    · rintro ⟨_, ⟨hj, rfl⟩, htakes⟩
      exact ⟨hj, htakes⟩

section

variable {decode : Nat → Except Fault Bar} {count : Nat}
  {shown : List (Nat × Except Fault Bar)}

theorem Accounts.first (h : Accounts decode count shown) (hcount : 0 < count) :
    ∃ result, (0, result) ∈ shown := by
  apply (h.shown_iff 0 hcount).mpr
  rintro ⟨j, taken, hnext, -⟩
  omega

theorem Accounts.next_iff (h : Accounts decode count shown) {i : Nat} (hi : i + 1 < count) :
    (∃ result, (i + 1, result) ∈ shown) ↔
      ¬ ((∃ result, (i, result) ∈ shown) ∧ TakesNext (decode i)) := by
  refine (h.shown_iff (i + 1) hi).trans (not_congr ?_)
  constructor
  · rintro ⟨j, taken, hnext, hj, htakes⟩
    obtain rfl : j = i := by omega
    obtain ⟨-, rfl⟩ := h.decoded j taken hj
    exact ⟨⟨_, hj⟩, htakes⟩
  · rintro ⟨⟨result, hshown⟩, htakes⟩
    obtain ⟨-, rfl⟩ := h.decoded i result hshown
    exact ⟨i, _, rfl, hshown, htakes⟩

end

end Probe

/-! ## The halves of a BAR -/

namespace Bar

variable {read : ConfigReader} {location : Location} {offset : UInt16} {bits : Nat}
  {register : UInt32}

theorem toNat_toUInt8_mod (register : UInt32) :
    register.toUInt8.toNat % 128 = register.toNat % 128 := by
  rw [UInt32.toNat_toUInt8]
  omega

/-- The registers of a header are decoded as the table says, whatever reads
config space. -/
theorem classify_row (hregister : read Register.headerType .byte = .ok register)
    (hrow : (register.toNat % 128, offset.toNat) ∈ barRegisters) :
    (classify read location offset bits).result =
      (read offset .long).bind fun raw => (read Register.command .word).bind fun _ =>
        if IsIo raw then .ok ⟨.io, .bits32, false, raw.toUInt64 &&& ~~~3⟩
        else (upperHalf read offset raw).bind (memoryBar location offset bits raw) := by
  rw [classify_result, hregister]
  simp only [Except.bind, kindAt_eq, toNat_toUInt8_mod, if_pos hrow]
  cases read offset .long with
  | error e => rfl
  | ok raw =>
      cases read Register.command .word with
      | error e => rfl
      | ok command => by_cases hio : IsIo raw <;> simp [hio, decoded, Except.bind]

/-- A register of a memory BAR that takes the dword behind it. -/
def IsLower (read : ConfigReader) (offset : UInt16) : Prop :=
  ∃ raw, read offset .long = .ok raw ∧ ¬ IsIo raw ∧ IsWide raw

/-- A read that fails is not taken for a BAR out of reach. -/
def ReadsPlainly (read : ConfigReader) : Prop :=
  ∀ offset width e, read offset width = .error e → ¬ Probe.TakesNext (.error e)

/-- Only a lower half takes the next register. -/
theorem lower_of_takesNext (hplain : ReadsPlainly read)
    (hregister : read Register.headerType .byte = .ok register)
    (hrow : (register.toNat % 128, offset.toNat) ∈ barRegisters)
    (htakes : Probe.TakesNext (classify read location offset bits).result) :
    IsLower read offset := by
  rw [classify_row hregister hrow] at htakes
  cases hraw : read offset .long with
  | error e =>
      rw [hraw] at htakes
      exact absurd htakes (hplain _ _ e hraw)
  | ok raw =>
      rw [hraw] at htakes
      cases hcommand : read Register.command .word with
      | error e =>
          rw [hcommand] at htakes
          exact absurd htakes (hplain _ _ e hcommand)
      | ok command =>
          rw [hcommand] at htakes
          simp only [Except.bind] at htakes
          by_cases hio : IsIo raw
          · rw [if_pos hio] at htakes
            cases htakes
          · by_cases hwide : IsWide raw
            · exact ⟨raw, hraw, hio, hwide⟩
            · rw [if_neg hio] at htakes
              simp [upperHalf, widthOf_eq, hwide, memoryBar, Probe.TakesNext] at htakes

/-- A lower half takes the next register if that can be decoded at all. -/
theorem takesNext_of_lower {next : UInt16} {bar : Bar} (hnext : offset + 4 = next)
    (hregister : read Register.headerType .byte = .ok register)
    (hrow : (register.toNat % 128, offset.toNat) ∈ barRegisters)
    (hlower : IsLower read offset) (hbar : (classify read location next bits).result = .ok bar) :
    Probe.TakesNext (classify read location offset bits).result := by
  obtain ⟨raw, hraw, hmemory, hwide⟩ := hlower
  subst hnext
  rw [classify_result, hregister] at hbar
  cases hupper : read (offset + 4) .long with
  | error e =>
      rw [hupper] at hbar
      cases hbar
  | ok upper =>
      cases hcommand : read Register.command .word with
      | error e =>
          rw [hupper, hcommand] at hbar
          cases hbar
      | ok command =>
          rw [classify_row hregister hrow, hraw, hcommand]
          simp only [Except.bind, if_neg hmemory, upperHalf, widthOf_eq, if_pos hwide, hupper,
            memoryBar]
          split
          · exact ⟨_, _, _, _, _, rfl⟩
          · rfl

end Bar

/-- The files of a scan fail in other ways than a BAR out of reach. -/
theorem Scan.readsPlainly (scan : Scan) (files : Files) (location : Location) :
    Bar.ReadsPlainly (scan.read files location) := by
  intro offset width e he htakes
  obtain ⟨l, place, upper, lower, bits, rfl⟩ := htakes
  simp only [Scan.read] at he
  split at he
  · cases he
  · cases he
  · split at he <;> cases he

namespace Probe

/-! ## Where the BARs stand -/

/-- The header types that have BARs, and how many. -/
def barCounts : List (Nat × Nat) := [(0, 6), (1, 2)]

def barOffset (index : Nat) : UInt16 := 0x10 + 4 * .ofNat index

theorem barOffset_facts : ∀ index < 6, (barOffset index).toNat = 0x10 + 4 * index ∧
    barOffset index + 4 = barOffset (index + 1) ∧
    Bar.offset (.ofNat index) = .ok (barOffset index) := by
  decide

/-- What the register of a BAR decodes to, on a machine whose pointers have
`bits` bits. -/
def decodedAt (read : ConfigReader) (location : Location) (bits index : Nat) :
    Except Fault Bar :=
  (Bar.classify read location (barOffset index) bits).result

theorem row_of_barCounts {type count : Nat} (hcount : (type, count) ∈ barCounts)
    {index : Nat} (hindex : index < count) :
    index < 6 ∧ (type, (barOffset index).toNat) ∈ Bar.barRegisters := by
  have hall : ∀ header ∈ barCounts, ∀ i < header.2,
      i < 6 ∧ (header.1, (barOffset i).toNat) ∈ Bar.barRegisters := by decide
  exact hall _ hcount index hindex

/-- What is shown accounts for the BARs of a header, of which each has a
register of its own or two. -/
structure ShowsBars (read : ConfigReader) (location : Location) (bits count : Nat)
    (shown : List (Nat × Except Fault Bar)) : Prop where
  accounts : Accounts (decodedAt read location bits) count shown
  /-- What is left out is an upper half. -/
  leftOut : ∀ i < count, (∀ result, (i, result) ∉ shown) →
    ∃ j taken, j + 1 = i ∧ (j, taken) ∈ shown ∧ Bar.IsLower read (barOffset j)
  /-- No upper half is shown as a BAR. -/
  upper : ∀ j taken, (j, taken) ∈ shown → Bar.IsLower read (barOffset j) →
    ∀ bar, (j + 1, .ok bar) ∉ shown

section

variable {read : ConfigReader} {location : Location} {register : UInt32} {count : Nat}

theorem walk_showsBars (location : Location) (hplain : Bar.ReadsPlainly read)
    (hregister : read Register.headerType .byte = .ok register)
    (hcount : (register.toNat % 128, count) ∈ barCounts) (bits : Nat) :
    ShowsBars read location bits count (walk (decodedAt read location bits) count 0) := by
  have haccounts := walk_accounts (decodedAt read location bits) count
  refine ⟨haccounts, ?_, ?_⟩
  · intro i hi hhidden
    by_contra hnone
    obtain ⟨result, hshown⟩ := (haccounts.shown_iff i hi).mpr (by
      rintro ⟨j, taken, hnext, hj, htakes⟩
      obtain ⟨hlt, rfl⟩ := haccounts.decoded j taken hj
      exact hnone ⟨j, _, hnext, hj, Bar.lower_of_takesNext hplain hregister
        (row_of_barCounts hcount hlt).2 htakes⟩)
    exact hhidden result hshown
  · intro j taken hj hlower bar hbar
    obtain ⟨hlt, rfl⟩ := haccounts.decoded j taken hj
    obtain ⟨hnext, hresult⟩ := haccounts.decoded (j + 1) _ hbar
    obtain ⟨hsix, hrow⟩ := row_of_barCounts hcount hlt
    refine (haccounts.shown_iff (j + 1) hnext).mp ⟨_, hbar⟩ ⟨j, _, rfl, hj, ?_⟩
    exact Bar.takesNext_of_lower (barOffset_facts j hsix).2.1 hregister hrow hlower hresult.symm

end

/-! ## What is printed -/

/-- What is said of a decoded BAR: its kind, its width, the address in
hexadecimal, and whether it is prefetchable. -/
inductive Describes (bar : Bar) : String → Prop
  | unknown : bar.kind = .unknown → Describes bar "unknown"
  | known {kind width caching : String} :
      (bar.kind, kind) ∈ [(BarKind.memory, "memory"), (.io, "I/O"), (.rom, "ROM")] →
      (bar.width, width) ∈ [(BarWidth.bits32, "32-bit"), (.bits64, "64-bit")] →
      (bar.prefetchable, caching) ∈ [(true, ", prefetchable"), (false, "")] →
      Describes bar
        s!"{kind} {width} 0x{String.ofList (Nat.toDigits 16 bar.address.toNat)}{caching}"

/-- The line for a register that is shown has its number, and what it decodes to
or why it does not. -/
inductive IsBarLine : Nat × Except Fault Bar → String → Prop
  | decoded {index : Nat} {bar : Bar} {text : String} :
      Describes bar text → IsBarLine (index, .ok bar) s!"BAR{index}: {text}"
  | refused (index : Nat) (e : Fault) : IsBarLine (index, .error e) s!"BAR{index}: {e.message}"

/-- What comes behind the BARs: nothing if the ROM cannot be decoded, and else
the ROM and the register that is asked for. -/
inductive IsFurther : List String → Prop
  | nothing : IsFurther []
  | rom {bar : Bar} {text : String} : Describes bar text → IsFurther [s!"ROM: {text}"]
  | register {bar : Bar} {text : String} (index offset : UInt64) (value : UInt32) :
      Describes bar text → IsFurther [s!"ROM: {text}", registerLine index offset value]

/-- Who a device is: its location, its numbers, and its name if the scan has
one for it. -/
def titleOf (scan : Scan) (record : Record) : String :=
  let name := (scan.names.bind (·.find? record.vendor record.device)).getD "unknown"
  s!"{record.location.short} {record.idText} \"{name}\""

theorem hex_one (n : Nat) : Text.hex 1 n = String.ofList (Nat.toDigits 16 n) := by
  have hlength : 1 - (Nat.toDigits 16 n).length = 0 := by
    have := List.length_pos_iff.mpr (Nat.toDigits_ne_nil : Nat.toDigits 16 n ≠ [])
    omega
  rw [Text.hex, Text.hexDigits, hlength]
  rfl

theorem describes_describe (bar : Bar) : Describes bar (describe bar) := by
  obtain ⟨kind, width, prefetchable, address⟩ := bar
  have hcaching : (prefetchable, if prefetchable then ", prefetchable" else "") ∈
      [(true, ", prefetchable"), (false, "")] := by
    cases prefetchable <;> decide
  have hwidth : (width, widthTitle width) ∈
      [(BarWidth.bits32, "32-bit"), (.bits64, "64-bit")] := by
    cases width <;> decide
  rw [describe]
  cases kind with
  | unknown => exact .unknown rfl
  | memory | io | rom =>
      simp only [kindTitle, hex_one]
      exact .known (by simp) hwidth hcaching

theorem isBarLine_barLine (entry : Nat × Except Fault Bar) : IsBarLine entry (barLine entry) := by
  obtain ⟨index, result⟩ := entry
  cases result with
  | ok bar => exact .decoded (describes_describe bar)
  | error e => exact .refused index e

theorem forall₂_isBarLine (shown : List (Nat × Except Fault Bar)) :
    List.Forall₂ IsBarLine shown (shown.map barLine) := by
  rw [List.forall₂_map_right_iff, List.forall₂_same]
  exact fun entry _ => isBarLine_barLine entry

section

variable {read : ConfigReader} {register : UInt32} {count : Nat}

theorem layout?_of_barCounts (hcount : (register.toNat % 128, count) ∈ barCounts) :
    ∃ rom, layout? (.ofRegister register.toUInt8) = some (count, rom) := by
  simp only [barCounts, List.mem_cons, Prod.mk.injEq, List.not_mem_nil, or_false,
    ← Bar.toNat_toUInt8_mod] at hcount
  rcases hcount with ⟨htype, rfl⟩ | ⟨htype, rfl⟩
  · exact ⟨Register.rom, by rw [Header.ofRegister_eq_ordinary_iff.mpr htype]; rfl⟩
  · exact ⟨Register.bridgeRom, by rw [Header.ofRegister_eq_bridge_iff.mpr htype]; rfl⟩

theorem inspectBars_lines (location : Location)
    (hregister : read Register.headerType .byte = .ok register)
    (hcount : (register.toNat % 128, count) ∈ barCounts) :
    ∃ further, (inspectBars read location).lines =
        (walk (decodedAt read location Bar.nativeBits) count 0).map barLine ++ further ∧
      (((inspectBars read location).failure ≠ none ∧ further = []) ∨
        ∃ bar, further = [s!"ROM: {describe bar}"]) := by
  obtain ⟨rom, hlayout⟩ := layout?_of_barCounts hcount
  have hwalk : walk (decodeBar read location) count 0 =
      walk (decodedAt read location Bar.nativeBits) count 0 := by
    refine walk_congr fun i hi => ?_
    have hplace := (barOffset_facts i (row_of_barCounts hcount hi).1).2.2
    simp [decodeBar, hplace, bind, Except.bind, decodedAt]
  rw [inspectBars, hregister]
  simp only [hlayout, hwalk]
  cases (Bar.classify read location rom Bar.nativeBits).result with
  | ok bar => exact ⟨[_], rfl, .inr ⟨bar, rfl⟩⟩
  | error e => exact ⟨[], (List.append_nil _).symm, .inl ⟨Option.some_ne_none _, rfl⟩⟩

/-- The title, the BARs, and what comes behind them. -/
theorem inspect_lines {τ : Type} (files : Files) {h : Handle τ} (hnone : h.mapping = none)
    (wanted : Option (UInt64 × UInt64))
    (hregister : read Register.headerType .byte = .ok register)
    (hcount : (register.toNat % 128, count) ∈ barCounts) :
    ∃ further, (inspect read files h wanted).lines =
        titleLine h :: (walk (decodedAt read h.record.location Bar.nativeBits) count 0).map
          barLine ++ further ∧
      IsFurther further := by
  obtain ⟨further, hlines, hrom⟩ := inspectBars_lines h.record.location hregister hcount
  have hfurther : IsFurther further := by
    rcases hrom with ⟨-, rfl⟩ | ⟨bar, rfl⟩
    · exact .nothing
    · exact .rom (describes_describe bar)
  cases hfailure : (inspectBars read h.record.location).failure with
  | some failure => exact ⟨further, by simp [inspect, hfailure, hlines], hfurther⟩
  | none =>
      cases wanted with
      | none => exact ⟨further, by simp [inspect, hfailure, hlines], hfurther⟩
      | some asked =>
          obtain ⟨index, offset⟩ := asked
          cases hline : readRegister h files index offset with
          | error failure => exact ⟨further, by simp [inspect, hfailure, hline, hlines], hfurther⟩
          | ok line =>
              -- the register is asked for only once the ROM has been shown
              obtain ⟨bar, rfl⟩ := hrom.resolve_left fun h => h.1 hfailure
              refine ⟨[s!"ROM: {describe bar}", line],
                by simp [inspect, hfailure, hline, hlines], ?_⟩
              obtain ⟨id, -, rfl⟩ := (readRegister_eq_ok_iff hnone files index offset line).mp hline
              exact .register index offset _ (describes_describe bar)

end

/-! ## A device that was chosen -/

/-- A probe gets as far as an inspection: what it is asked for is in order, and
of the functions scanned it chooses one, which can be switched on. -/
structure Resolves (options : Options) (env : Environment) (files : Files) (settings : Settings)
    (scan : Scan) (found : Record × Supported Unit) (flag : Nat) : Prop where
  checked : checkLog options = .ok ()
  asked : Probe.settings options env = .ok settings
  scanned : (settings.scan files).result = .ok scan
  chosen : choices options settings scan files = [found]
  flagged : (newHandle settings scan files found).HasFlag files flag

section

variable {arguments : List String} {options : Options} {env : Environment} {files : Files}
  {settings : Settings} {scan : Scan} {found : Record × Supported Unit} {flag : Nat}

/-- Nothing is printed before a device is chosen. -/
theorem resolves_of_lines (hlines : (probe options env files).1.lines ≠ []) :
    ∃ settings scan found flag, Resolves options env files settings scan found flag := by
  cases hlog : checkLog options with
  | error e => simp [probe, hlog, bind, Except.bind] at hlines
  | ok _ =>
      cases hsettings : Probe.settings options env with
      | error e => simp [probe, hlog, hsettings, bind, Except.bind] at hlines
      | ok settings =>
          cases hscan : (settings.scan files).result with
          | error e => simp [probe, hlog, hsettings, hscan, bind, Except.bind] at hlines
          | ok scan =>
              by_contra hnone
              obtain ⟨failure, hfailed⟩ := probeScan_failed options settings scan files
                fun found flag hchoice hflag =>
                  hnone ⟨settings, scan, found, flag, hlog, hsettings, hscan, hchoice, hflag⟩
              rw [probe_of_scan hlog hsettings hscan, hfailed] at hlines
              exact hlines rfl

/-- **A probe accounts for every register once.** Of a device that it chose,
with a header that has BARs, it prints the title, a line for each register that
is shown, and then nothing but the ROM and the register that is asked for.
Whatever config space holds, and also where it cannot be read, the walk comes
to an end; registers are shown in increasing order, each with what it decodes
to; and one is left out exactly if the one before it is shown and takes it. The
same walk on a machine with narrower pointers, where a BAR may be out of reach,
accounts for them as well. -/
theorem run_shows_bars
    (harguments : Request.read (env.bytes? logVariable) arguments = .ok (.probe options))
    (hresolves : Resolves options env files settings scan found flag) {register : UInt32}
    {count : Nat}
    (hregister : scan.read (files.overwrite flag 0 [Handle.flagOn]) found.1.location 0x0e .byte =
      .ok register)
    (hcount : (register.toNat % 128, count) ∈ barCounts) :
    let read := scan.read (files.overwrite flag 0 [Handle.flagOn]) found.1.location
    ∃ shown lines further,
      (run arguments env files).output =
        String.join ((titleOf scan found.1 :: lines ++ further).map (· ++ "\n")) ∧
      List.Forall₂ IsBarLine shown lines ∧ IsFurther further ∧
      ShowsBars read found.1.location Bar.nativeBits count shown ∧
      ∀ bits, ShowsBars read found.1.location bits count
        (walk (decodedAt read found.1.location bits) count 0) := by
  intro read
  have hprobe := probe_of_scan hresolves.checked hresolves.asked hresolves.scanned
  rw [probeScan_found hresolves.chosen hresolves.flagged] at hprobe
  obtain ⟨further, hlines, hfurther⟩ := inspect_lines (files.overwrite flag 0 [Handle.flagOn])
    (h := (newHandle settings scan files found).switchedOn
      ((files.bytes flag).byteAt 0 = Handle.flagOff)) rfl (register? options) hregister hcount
  have hwalks := walk_showsBars found.1.location (scan.readsPlainly _ _) hregister hcount
  refine ⟨_, _, further, ?_, forall₂_isBarLine _, hfurther, hwalks Bar.nativeBits, hwalks⟩
  rw [run_probe harguments, hprobe]
  show String.join (_ : List String) = _
  rw [hlines]
  rfl

end

/-- A device whose BARs 0 and 3 are 64 bits wide, with upper halves that look
the same, and a database that has a name for it. -/
def wideTree : Files :=
  ((({} : Files).put "0000:00:03.0/config"
    ([0x86, 0x80, 0x34, 0x12] ++ List.replicate 12 (0 : UInt8) ++
      [0x04, 0, 0, 0xfe] ++ [0x04, 0, 0, 0] ++ [0x01, 0xe0, 0, 0] ++
      [0x0c, 0, 0, 0xc0] ++ [0x0c, 0, 0, 0] ++ [0, 0, 0xd0, 0xfe] ++
      List.replicate 24 (0 : UInt8)).toArray).put "0000:00:03.0/enable" #[0x30, 0x0a]).put
    "usr/share/misc/pci.ids" "8086  Intel\n\t1234  Wide\n".toUTF8.data

def wideOptions : Options where
  ids := [⟨0x8086, 0x1234⟩]
  root := some "/"

def wideRead : ConfigReader :=
  Scan.read { root := "/" } (wideTree.overwrite 1 0 [Handle.flagOn]) ⟨0, 0, 3, 0⟩

/-- Four of its six registers are shown. -/
theorem wideTree_shown :
    (run ["--sysfs-root", "/", "--id", "8086:1234"] [] wideTree).output =
        "00:03.0 8086:1234 \"Intel Wide\"\n" ++ "BAR0: memory 64-bit 0x4fe000000\n" ++
          "BAR2: I/O 32-bit 0xe000\n" ++ "BAR3: memory 64-bit 0xcc0000000, prefetchable\n" ++
          "BAR5: memory 32-bit 0xfed00000\n" ++ "ROM: ROM 32-bit 0x0\n" ∧
    ∃ title shown lines further,
      (run ["--sysfs-root", "/", "--id", "8086:1234"] [] wideTree).output =
        String.join ((title :: lines ++ further).map (· ++ "\n")) ∧
      List.Forall₂ IsBarLine shown lines ∧ IsFurther further ∧
      ShowsBars wideRead ⟨0, 0, 3, 0⟩ Bar.nativeBits 6 shown ∧
      ∀ i < 6, (∃ result, (i, result) ∈ shown) ↔ i ∈ [0, 2, 3, 5] := by
  refine ⟨by decide +kernel, ?_⟩
  have harguments : Request.read (Environment.bytes? [] logVariable)
      ["--sysfs-root", "/", "--id", "8086:1234"] = .ok (.probe wideOptions) := by
    rfl
  obtain ⟨scan, hscan, hfound⟩ : ∃ scan,
      (Settings.scan { root := "/" } wideTree).result = .ok scan ∧
      (scan.root, (choices wideOptions { root := "/" } scan wideTree).map (·.1.location)) =
        ("/", [⟨0, 0, 3, 0⟩]) :=
    ⟨_, Scan.ofListing_result wideTree "/" ["0000:00:03.0", "usr"], by decide +kernel⟩
  obtain ⟨hroot, hchoices⟩ := Prod.mk.inj hfound
  obtain ⟨found, hchoice, hlocation⟩ := List.map_eq_singleton_iff.mp hchoices
  have hresolves : Resolves wideOptions [] wideTree { root := "/" } scan found 1 := by
    refine ⟨by rfl, by rfl, hscan, hchoice, ?_, .inl (by rfl)⟩
    show wideTree.fileAt (Files.join (Files.join "/" found.1.location.name) "enable") = .ok 1
    rw [hlocation]
    rfl
  have hread : scan.read (wideTree.overwrite 1 0 [Handle.flagOn]) found.1.location =
      wideRead := by
    unfold wideRead Scan.read Scan.configPath
    rw [hlocation, hroot]
  have hregister : wideRead 0x0e .byte = .ok 0 := by rfl
  rw [← hread] at hregister
  obtain ⟨shown, lines, further, houtput, hlines, hfurther, hshows, -⟩ :=
    run_shows_bars harguments hresolves hregister (show (0 % 128, 6) ∈ barCounts by decide)
  rw [hread, hlocation] at hshows
  refine ⟨_, shown, lines, further, houtput, hlines, hfurther, hshows, ?_⟩
  have htakes : ∀ i < 6,
      (TakesNext (decodedAt wideRead ⟨0, 0, 3, 0⟩ Bar.nativeBits i) ↔ i ∈ [0, 1, 3, 4]) := by
    decide +kernel
  intro i hi
  induction i with
  | zero => exact iff_of_true (hshows.accounts.first (by decide)) (by decide)
  | succ i ih =>
      have hleft : ∀ j < 5, ¬ (j ∈ [0, 2, 3, 5] ∧ j ∈ [0, 1, 3, 4]) ↔ j + 1 ∈ [0, 2, 3, 5] := by
        decide
      rw [hshows.accounts.next_iff hi, ih (by omega), htakes i (by omega)]
      exact hleft i (by omega)

end Probe

end PciBus

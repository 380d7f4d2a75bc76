import PciBus.Proofs.Bar.Table

/-!
# What decoding a BAR gives away

Two functions may have the same BARs and the same ROM and differ elsewhere in
config space. Decoding does not tell them apart, with one exception
(`Bar.classify_confined`). A 64-bit memory BAR takes the dword behind it for its
upper half, and behind the last BAR of a header type stands a register that is
no BAR: the CardBus CIS pointer of an ordinary function, the bus numbers of a
bridge. There the two decode alike exactly if they agree on that dword
(`Bar.busNumbers_told_apart` has two bridges that do not).
-/

namespace PciBus.Bar

/-! ## Registers and what is behind them -/

/-- First and last byte of the stretches that BARs and the ROM take. -/
def registerStretches (type : Nat) : List (Nat × Nat) :=
  if type = 0 then [(0x10, 0x27), (0x30, 0x33)]
  else if type = 1 then [(0x10, 0x17), (0x38, 0x3b)]
  else []

/-- Two config spaces agree on the header type and on the BARs and the ROM that
go with it. -/
structure SameRegisters (a b : Image) : Prop where
  header : a.bytes.byteAt 0x0e = b.bytes.byteAt 0x0e
  registers : ∀ stretch ∈ registerStretches a.headerType, ∀ i, stretch.1 ≤ i → i ≤ stretch.2 →
    a.bytes.byteAt i = b.bytes.byteAt i

/-- Header type and offset of the last BAR. -/
def lastRegisters : List (Nat × Nat) := [(0, 0x24), (1, 0x14)]

/-- The register is the last BAR and takes a dword that is no BAR. -/
def Overhangs (image : Image) (offset : Nat) : Prop :=
  (image.headerType, offset) ∈ lastRegisters ∧
    ¬ IsIo (image.dwordAt offset) ∧ IsWide (image.dwordAt offset)

instance (image : Image) (offset : Nat) : Decidable (Overhangs image offset) :=
  inferInstanceAs (Decidable (_ ∧ _))

theorem mem_bars_of_last : ∀ register ∈ lastRegisters, register ∈ barRegisters := by decide

/-- Behind every BAR but the last there is another. -/
theorem next_mem_bars {type offset : Nat} (hbar : (type, offset) ∈ barRegisters)
    (hlast : (type, offset) ∉ lastRegisters) : (type, offset + 4) ∈ barRegisters := by
  have hnext : ∀ register ∈ barRegisters, register ∉ lastRegisters →
      (register.1, register.2 + 4) ∈ barRegisters := by decide
  exact hnext _ hbar hlast

/-- Every register lies in one stretch. -/
theorem exists_stretch {type offset : Nat}
    (h : (type, offset) ∈ barRegisters ++ romRegisters) :
    ∃ stretch ∈ registerStretches type, stretch.1 ≤ offset ∧ offset + 3 ≤ stretch.2 := by
  have hall : ∀ register ∈ barRegisters ++ romRegisters,
      ∃ stretch ∈ registerStretches register.1,
        stretch.1 ≤ register.2 ∧ register.2 + 3 ≤ stretch.2 := by decide
  exact hall _ h

namespace SameRegisters

variable {a b : Image}

theorem headerType (h : SameRegisters a b) : a.headerType = b.headerType := by
  unfold Image.headerType
  rw [h.header]

theorem dwordAt_eq (h : SameRegisters a b) {offset : Nat}
    (hregister : (a.headerType, offset) ∈ barRegisters ++ romRegisters) :
    a.dwordAt offset = b.dwordAt offset := by
  obtain ⟨stretch, hstretch, hfirst, hlast⟩ := exists_stretch hregister
  apply Image.dwordAt_congr
  intro i hi hi'
  exact h.registers stretch hstretch i (by omega) (by omega)

/-- Away from the last BAR, and where it is not wide, upper halves are the
same. -/
theorem upperOf_eq (h : SameRegisters a b) {offset : Nat}
    (hbar : (a.headerType, offset) ∈ barRegisters)
    (hmemory : ¬ IsIo (a.dwordAt offset)) (hnot : ¬ Overhangs a offset) :
    upperOf a offset = upperOf b offset := by
  unfold upperOf
  rw [← h.dwordAt_eq (List.mem_append_left _ hbar)]
  by_cases hwide : IsWide (a.dwordAt offset)
  · have hnext := next_mem_bars hbar fun hlast => hnot ⟨hlast, hmemory, hwide⟩
    rw [if_pos hwide, if_pos hwide, h.dwordAt_eq (List.mem_append_left _ hnext)]
  · rw [if_neg hwide, if_neg hwide]

end SameRegisters

/-! ## Telling upper halves apart -/

/-- No bit of the upper half gets lost. -/
theorem memoryAddress_upper (upper raw : UInt32) :
    (memoryAddress upper raw >>> 32).toUInt32 = upper := by
  have hmask : ∀ i < 32, (18446744073709551600#64).getLsbD (32 + i) = true := by decide
  apply UInt32.toBitVec_inj.mp
  ext i hi
  have hplace : 32 + i < 64 ∧ ¬ 32 + i < 32 ∧ i < 64 := by omega
  simp [memoryAddress, hmask i hi, hplace, BitVec.getLsbD_eq_getElem hi]

/-- Memory BARs with different upper halves never come out the same. -/
theorem memoryBar_inj {location : Location} {offset : UInt16} {bits : Nat}
    {raw upper upper' : UInt32}
    (h : memoryBar location offset bits raw upper = memoryBar location offset bits raw upper') :
    upper = upper' := by
  unfold memoryBar at h
  split at h
  · split at h
    · cases h
      rfl
    · cases h
  · split at h
    · cases h
    · have haddress : memoryAddress upper raw = memoryAddress upper' raw :=
        congrArg address (Except.ok.inj h)
      rw [← memoryAddress_upper upper raw, haddress, memoryAddress_upper]

/-- Where the last BAR takes what is behind it, decoding tells that apart. -/
theorem classify_overhanging {bus other : Bus} {location : Location} {image image' : Image}
    (himage : bus.image? location = some image) (himage' : other.image? location = some image')
    (hsame : SameRegisters image image') {offset : UInt16} (hover : Overhangs image offset.toNat)
    (bits : Nat) :
    (classify (bus.read location) location offset bits).result =
        (classify (other.read location) location offset bits).result ↔
      image.dwordAt (offset.toNat + 4) = image'.dwordAt (offset.toNat + 4) := by
  obtain ⟨hlast, hmemory, hwide⟩ := hover
  have hbar := mem_bars_of_last _ hlast
  have hraw := hsame.dwordAt_eq (List.mem_append_left _ hbar)
  rw [classify_memory himage hbar hmemory,
    classify_memory himage' (hsame.headerType ▸ hbar) (hraw ▸ hmemory), ← hraw]
  unfold upperOf
  rw [← hraw, if_pos hwide, if_pos hwide]
  constructor
  · exact memoryBar_inj
  · intro hupper
    rw [hupper]

/-- **What decoding a BAR depends on.** Functions with the same registers decode
alike, whatever else is in their config space, unless the last BAR takes
something else for its upper half; then they do exactly if they agree on that. -/
theorem classify_confined {bus other : Bus} {location : Location} {image image' : Image}
    (himage : bus.image? location = some image) (himage' : other.image? location = some image')
    (hsame : SameRegisters image image') (offset : UInt16) (bits : Nat) :
    (classify (bus.read location) location offset bits).result =
        (classify (other.read location) location offset bits).result ↔
      (Overhangs image offset.toNat →
        image.dwordAt (offset.toNat + 4) = image'.dwordAt (offset.toNat + 4)) := by
  by_cases hover : Overhangs image offset.toNat
  · rw [classify_overhanging himage himage' hsame hover]
    exact ⟨fun hupper _ => hupper, fun hupper => hupper hover⟩
  · refine iff_of_true ?_ fun h => absurd h hover
    exact classify_congr himage himage' hsame.headerType hsame.dwordAt_eq
      (fun hbar hmemory => hsame.upperOf_eq hbar hmemory hover) bits

/-! ## Two bridges -/

/-- A bridge whose second BAR is wide, with the bus numbers behind it. -/
def wideBridge (busNumbers : Nat) : Image :=
  ((Image.blank.put 0x0e 1 1).put 0x14 4 0xf0000004).put 0x18 4 busNumbers

theorem image?_soloBus (image : Image) : (soloBus image).image? ⟨0, 0, 1, 0⟩ = some image := rfl

theorem headerType_wideBridge (busNumbers : Nat) : (wideBridge busNumbers).headerType = 1 := by
  have hspace : 0x0e < Image.blank.bytes.size := by
    rw [Image.blank.size_eq]
    decide
  unfold wideBridge Image.headerType
  rw [Image.byteAt_put_of_apart _ _ (by decide), Image.byteAt_put_of_apart _ _ (by decide),
    Image.put, Bytes.byteAt_overwrite, if_pos ⟨by decide, by decide, hspace⟩]
  rfl

theorem wideBridge_registers (busNumbers : Nat) :
    (wideBridge busNumbers).dwordAt 0x14 = 0xf0000004 ∧
      (wideBridge busNumbers).dwordAt 0x18 = .ofNat busNumbers := by
  unfold wideBridge
  constructor
  · rw [Image.dwordAt_put_of_apart _ _ (by decide), Image.dwordAt_put _ _ (by decide)]
    rfl
  · rw [Image.dwordAt_put _ _ (by decide)]

theorem sameRegisters_wideBridge (m n : Nat) : SameRegisters (wideBridge m) (wideBridge n) := by
  have hbytes : ∀ i, i < 0x18 ∨ 0x18 + 4 ≤ i →
      (wideBridge m).bytes.byteAt i = (wideBridge n).bytes.byteAt i := by
    intro i hi
    unfold wideBridge
    rw [Image.byteAt_put_of_apart _ _ hi, Image.byteAt_put_of_apart _ _ hi]
  refine ⟨hbytes _ (by decide), ?_⟩
  intro stretch hstretch i hfirst hlast
  rw [headerType_wideBridge] at hstretch
  have hoff : ∀ stretch ∈ registerStretches 1,
      stretch.2 < 0x18 ∨ 0x18 + 4 ≤ stretch.1 := by decide
  apply hbytes
  rcases hoff stretch hstretch with hbelow | habove
  · exact .inl (Nat.lt_of_le_of_lt hlast hbelow)
  · exact .inr (Nat.le_trans habove hfirst)

/-- What their first BARs decode to does not depend on the bus numbers. -/
theorem firstBar_confined :
    let bridge : Location := ⟨0, 0, 1, 0⟩
    (classify ((soloBus (wideBridge 0)).read bridge) bridge 0x10 64).result =
      (classify ((soloBus (wideBridge 0x10100)).read bridge) bridge 0x10 64).result := by
  refine (classify_confined (image?_soloBus _) (image?_soloBus _)
    (sameRegisters_wideBridge 0 0x10100) 0x10 64).mpr ?_
  rintro ⟨hlast, -⟩
  rw [headerType_wideBridge] at hlast
  exact absurd hlast (by decide)

/-- What their second BARs decode to does. -/
theorem busNumbers_told_apart :
    ¬ ∀ (bus other : Bus) (location : Location) (image image' : Image),
      bus.image? location = some image → other.image? location = some image' →
      SameRegisters image image' → ∀ (offset : UInt16) (bits : Nat),
      (classify (bus.read location) location offset bits).result =
        (classify (other.read location) location offset bits).result := by
  intro halike
  have hover : Overhangs (wideBridge 0) (UInt16.toNat 0x14) := by
    unfold Overhangs
    rw [headerType_wideBridge, show UInt16.toNat 0x14 = 0x14 from rfl, (wideBridge_registers 0).1]
    decide
  have hsame := sameRegisters_wideBridge 0 0x10100
  have hdecoded := halike _ _ ⟨0, 0, 1, 0⟩ _ _ (image?_soloBus _) (image?_soloBus _) hsame 0x14 64
  have hnumbers := (classify_overhanging (image?_soloBus _) (image?_soloBus _) hsame
    hover 64).mp hdecoded
  have hzero : (wideBridge 0).dwordAt 0x18 = .ofNat 0 := (wideBridge_registers 0).2
  have hone : (wideBridge 0x10100).dwordAt 0x18 = .ofNat 0x10100 := (wideBridge_registers _).2
  rw [show UInt16.toNat 0x14 + 4 = 0x18 from rfl, hzero, hone] at hnumbers
  exact absurd hnumbers (by decide)

end PciBus.Bar

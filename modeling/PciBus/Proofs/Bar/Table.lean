import PciBus.Proofs.Bar.Decoding
import PciBus.Proofs.Bus.Access

/-!
# The table of base address registers

Which registers are BARs and which is the ROM is a matter of the header type
(`Bar.barRegisters`, `Bar.romRegisters`). On a memory bus decoding follows that
table, row by row (`Bar.classify_tabled`): it is refused past the end of config
space only, an absent function has nothing anywhere, and the address of a
64-bit BAR out of reach is the one other way to fail.

All rows come from one equation for a function that is there
(`Bar.classify_present`). What it reads of config space are the header type,
the register, and behind a 64-bit BAR the dword that follows; so two functions
that agree on these decode alike (`Bar.classify_congr`).
-/

namespace PciBus

/-! ## Config space of a bus -/

namespace Image

/-- Four bytes of config space, the least significant first. -/
def dwordAt (image : Image) (i : Nat) : UInt32 :=
  .ofNat ((image.bytes.byteAt i).toNat + 0x100 * (image.bytes.byteAt (i + 1)).toNat +
    0x10000 * (image.bytes.byteAt (i + 2)).toNat + 0x1000000 * (image.bytes.byteAt (i + 3)).toNat)

/-- The header type: the byte at 0x0e without its top bit, the mark for
siblings. -/
def headerType (image : Image) : Nat := (image.bytes.byteAt 0x0e).toNat % 128

theorem dwordAt_eq_number (image : Image) (i : Nat) :
    image.dwordAt i = .ofNat (image.bytes.number i 4) := by
  unfold dwordAt
  congr 1
  simp only [Bytes.number, Nat.add_assoc, Nat.reduceAdd]
  omega

theorem dwordAt_congr {a b : Image} {i : Nat}
    (h : ∀ k, i ≤ k → k < i + 4 → a.bytes.byteAt k = b.bytes.byteAt k) :
    a.dwordAt i = b.dwordAt i := by
  rw [dwordAt_eq_number, dwordAt_eq_number, Bytes.number_congr h]

/-! Writing to an image -/

theorem byteAt_put_of_apart (image : Image) {offset count : Nat} (n : Nat) {i : Nat}
    (h : i < offset ∨ offset + count ≤ i) :
    (image.put offset count n).bytes.byteAt i = image.bytes.byteAt i := by
  have houtside : ¬ (offset ≤ i ∧ i < offset + count ∧ i < image.bytes.size) := by omega
  rw [put, Bytes.byteAt_overwrite, Bytes.length_ofNumber, if_neg houtside]

theorem dwordAt_put_of_apart (image : Image) {offset count : Nat} (n : Nat) {i : Nat}
    (h : i + 4 ≤ offset ∨ offset + count ≤ i) :
    (image.put offset count n).dwordAt i = image.dwordAt i := by
  apply dwordAt_congr
  intro k hk hk'
  exact byteAt_put_of_apart image n (by omega)

theorem dwordAt_put (image : Image) {offset : Nat} (n : Nat) (h : offset + 4 ≤ imageSize) :
    (image.put offset 4 n).dwordAt offset = .ofNat n := by
  unfold put
  rw [dwordAt_eq_number, Bytes.number_overwrite_ofNumber n (by rw [image.size_eq]; exact h)]
  apply UInt32.toNat_inj.mp
  simp [Bytes.span]

end Image

namespace Bus

/-- The config space of the function at a location. -/
def image? (bus : Bus) (location : Location) : Option Image :=
  (bus.find? location).map fun slot => slot.card.image

variable {bus : Bus} {location : Location} {offset : UInt16} {width : Width} {image : Image}

theorem inSpace_iff : inSpace offset width ↔ offset.toNat + width.bytes ≤ imageSize :=
  decide_eq_true_iff

theorem read_absent (hnone : bus.image? location = none) (hspace : inSpace offset width) :
    bus.read location offset width = .ok width.ones := by
  have hfind : bus.find? location = none := Option.map_eq_none_iff.mp hnone
  simp only [read, hspace, if_true, hfind]

theorem read_present (himage : bus.image? location = some image) (hspace : inSpace offset width) :
    bus.read location offset width =
      .ok (.ofNat (image.bytes.number offset.toNat width.bytes)) := by
  obtain ⟨slot, hslot, rfl⟩ := Option.map_eq_some_iff.mp himage
  simp only [read, hspace, if_true, hslot]

theorem read_dword (himage : bus.image? location = some image) (hspace : inSpace offset .long) :
    bus.read location offset .long = .ok (image.dwordAt offset.toNat) := by
  rw [read_present himage hspace, Image.dwordAt_eq_number]
  rfl

theorem read_pastEnd (hspace : ¬ inSpace offset width) :
    bus.read location offset width = .error (.config location offset (.pastEnd width.bytes)) := by
  rw [read, if_neg hspace]

/-- Within config space every read is answered. -/
theorem exists_read (bus : Bus) (location : Location) (hspace : inSpace offset width) :
    ∃ value, bus.read location offset width = .ok value := by
  cases himage : bus.image? location with
  | none => exact ⟨_, read_absent himage hspace⟩
  | some image => exact ⟨_, read_present himage hspace⟩

end Bus

namespace Bar

/-! ## Registers -/

/-- Header type and offset of the BARs. -/
def barRegisters : List (Nat × Nat) :=
  [(0, 0x10), (0, 0x14), (0, 0x18), (0, 0x1c), (0, 0x20), (0, 0x24), (1, 0x10), (1, 0x14)]

/-- Header type and offset of the ROMs. -/
def romRegisters : List (Nat × Nat) := [(0, 0x30), (1, 0x38)]

/-- Bit 0: the register is that of an I/O BAR. -/
def IsIo (raw : UInt32) : Prop := raw.toNat.testBit 0

/-- Bits 2:1: the register takes the dword behind it for its upper half. -/
def IsWide (raw : UInt32) : Prop := raw.toNat / 2 % 4 = 0b10

instance (raw : UInt32) : Decidable (IsIo raw) := inferInstanceAs (Decidable (_ = true))

instance (raw : UInt32) : Decidable (IsWide raw) := inferInstanceAs (Decidable (_ = _))

theorem within_of_mem {type offset : Nat}
    (h : (type, offset) ∈ barRegisters ++ romRegisters) : 0x10 ≤ offset ∧ offset ≤ 0x38 := by
  simp only [barRegisters, romRegisters, List.mem_append, List.mem_cons, Prod.mk.injEq,
    List.not_mem_nil, or_false] at h
  omega

theorem space_of_mem {type offset : Nat}
    (h : (type, offset) ∈ barRegisters ++ romRegisters) : offset + 4 ≤ imageSize := by
  have hlast := (within_of_mem h).2
  unfold imageSize
  omega

theorem bars_and_roms_apart : ∀ register ∈ romRegisters, register ∉ barRegisters := by
  decide

/-- Below bit 4, masks come down to sixteen cases. -/
theorem toNat_and_low (raw : UInt32) {mask : UInt32} (hmask : mask.toNat < 16) :
    (raw &&& mask).toNat = raw.toNat % 16 &&& mask.toNat := by
  have hbelow : raw.toNat &&& mask.toNat < 16 := Nat.lt_of_le_of_lt Nat.and_le_right hmask
  have hmod := @Nat.and_mod_two_pow raw.toNat mask.toNat 4
  rw [UInt32.toNat_and, ← Nat.mod_eq_of_lt hbelow]
  rw [Nat.mod_eq_of_lt (show mask.toNat < 2 ^ 4 from hmask)] at hmod
  exact hmod

theorem testBit_low (raw : UInt32) {i : Nat} (hi : i < 4) :
    (raw.toNat % 16).testBit i = raw.toNat.testBit i := by
  have hmod := @Nat.testBit_mod_two_pow raw.toNat 4 i
  rwa [decide_eq_true hi, Bool.true_and] at hmod

theorem and_flag_ne_zero (raw : UInt32) :
    (raw &&& 1 != 0) = raw.toNat.testBit 0 ∧ (raw &&& 8 != 0) = raw.toNat.testBit 3 := by
  have hcases : ∀ low < 16,
      (¬ low &&& 1 = 0 ↔ low.testBit 0) ∧ (¬ low &&& 8 = 0 ↔ low.testBit 3) := by decide
  have hlow := hcases (raw.toNat % 16) (Nat.mod_lt _ (by decide))
  rw [testBit_low raw (by decide), testBit_low raw (by decide)] at hlow
  constructor
  · rw [Bool.eq_iff_iff, bne_iff_ne, ne_eq, ← UInt32.toNat_inj, toNat_and_low _ (by decide)]
    exact hlow.1
  · rw [Bool.eq_iff_iff, bne_iff_ne, ne_eq, ← UInt32.toNat_inj, toNat_and_low _ (by decide)]
    exact hlow.2

theorem spaceOf_eq (raw : UInt32) : spaceOf raw = if IsIo raw then .io else .memory := by
  unfold spaceOf IsIo
  rw [(and_flag_ne_zero raw).1]
  rfl

theorem widthOf_eq (raw : UInt32) : widthOf raw = if IsWide raw then .bits64 else .bits32 := by
  have hcases : ∀ low < 16, (low &&& 6 = 4 ↔ low / 2 % 4 = 2) := by decide
  have hfield : memoryType raw = 4 ↔ IsWide raw := by
    have hlow := hcases (raw.toNat % 16) (Nat.mod_lt _ (by decide))
    unfold memoryType IsWide
    rw [← UInt32.toNat_inj, toNat_and_low _ (by decide)]
    refine hlow.trans ?_
    omega
  simp only [widthOf, hfield]

/-- The kind that decoding finds is that of the table. -/
theorem kindAt_eq (register : UInt8) (offset : UInt16) (raw : UInt32) :
    kindAt (Header.ofRegister register) offset raw =
      if (register.toNat % 128, offset.toNat) ∈ barRegisters then
        if IsIo raw then .io else .memory
      else if (register.toNat % 128, offset.toNat) ∈ romRegisters then .rom
      else .unknown := by
  rw [← spaceOf_eq, ← Header.toNat_plain]
  unfold Header.ofRegister
  split
  · rename_i hplain
    have hbars : 16 ≤ offset.toNat ∧ offset.toNat ≤ 36 ∧ offset.toNat % 4 = 0 ↔
        (0, offset.toNat) ∈ barRegisters := by
      simp [barRegisters]
      omega
    simp [hplain, kindAt, romRegisters, UInt16.le_iff_toNat_le, ← UInt16.toNat_inj, Register.rom,
      hbars]
  · rename_i hplain
    simp [hplain, kindAt, barRegisters, romRegisters, ← UInt16.toNat_inj, Register.bridgeRom]
  · rename_i hplain
    simp [hplain, kindAt, barRegisters, romRegisters]
  · rename_i hordinary hbridge _
    have hordinary : (Header.plain register).toNat ≠ 0 :=
      fun h => hordinary (UInt8.toNat_inj.mp h)
    have hbridge : (Header.plain register).toNat ≠ 1 := fun h => hbridge (UInt8.toNat_inj.mp h)
    simp [hordinary, hbridge, kindAt, barRegisters, romRegisters]

/-- A memory BAR is low enough for the dword behind it to be in config space,
and for its place not to wrap around. -/
theorem behind_of_memory {header : Header} {offset : UInt16} {raw : UInt32}
    (h : kindAt header offset raw = .memory) :
    (offset + 4).toNat = offset.toNat + 4 ∧ offset.toNat + 8 ≤ imageSize := by
  have hlow : offset ≤ 0x24 := by
    unfold kindAt at h
    split at h
    · split at h
      · rename_i hbar
        exact hbar.2.1
      · split at h <;> cases h
    · split at h
      · rename_i hbar
        rcases hbar with rfl | rfl <;> decide
      · split at h <;> cases h
    · cases h
    · cases h
  rw [UInt16.le_iff_toNat_le] at hlow
  have hlast : (0x24 : UInt16).toNat = 0x24 := rfl
  have hfour : (4 : UInt16).toNat = 4 := rfl
  rw [UInt16.toNat_add, imageSize]
  omega

/-! ## What a function decodes to -/

section

variable {bus : Bus} {location : Location} {offset : UInt16} {image : Image}

theorem classify_pastEnd (hpast : imageSize < offset.toNat + 4) (bits : Nat) :
    (classify (bus.read location) location offset bits).result =
      .error (.config location offset (.pastEnd 4)) := by
  have hheader : Bus.inSpace Register.headerType .byte := by decide
  obtain ⟨register, hregister⟩ := bus.exists_read location hheader
  have hspace : ¬ Bus.inSpace offset .long :=
    fun hspace => Nat.not_lt_of_le (Bus.inSpace_iff.mp hspace) hpast
  rw [classify_result, hregister, Bus.read_pastEnd hspace]
  rfl

/-- An absent function answers all ones, and of that header type nothing is
known. -/
theorem classify_absent (hnone : bus.image? location = none)
    (hspace : offset.toNat + 4 ≤ imageSize) (bits : Nat) :
    (classify (bus.read location) location offset bits).result = .ok unknown := by
  rw [classify_result, Bus.read_absent hnone (by decide),
    Bus.read_absent hnone (Bus.inSpace_iff.mpr hspace), Bus.read_absent hnone (by decide)]
  rfl

/-- The dword behind a wide register, zero behind any other. -/
def upperOf (image : Image) (offset : Nat) : UInt32 :=
  if IsWide (image.dwordAt offset) then image.dwordAt (offset + 4) else 0

theorem upperHalf_present (himage : bus.image? location = some image)
    (hplace : (offset + 4).toNat = offset.toNat + 4) (hwithin : offset.toNat + 8 ≤ imageSize) :
    upperHalf (bus.read location) offset (image.dwordAt offset.toNat) =
      .ok (upperOf image offset.toNat) := by
  have hspace : Bus.inSpace (offset + 4) .long := Bus.inSpace_iff.mpr (hplace ▸ hwithin)
  unfold upperHalf upperOf
  rw [widthOf_eq]
  by_cases hwide : IsWide (image.dwordAt offset.toNat)
  · rw [if_pos hwide, if_pos hwide]
    simp only [Bus.read_dword himage hspace, hplace]
  · rw [if_neg hwide, if_neg hwide]

/-- The one equation that all rows of the table come from. -/
theorem classify_present (himage : bus.image? location = some image)
    (hspace : offset.toNat + 4 ≤ imageSize) (bits : Nat) :
    let raw := image.dwordAt offset.toNat
    (classify (bus.read location) location offset bits).result =
      if (image.headerType, offset.toNat) ∈ barRegisters then
        if IsIo raw then .ok ⟨.io, .bits32, false, raw.toUInt64 &&& ~~~3⟩
        else memoryBar location offset bits raw (upperOf image offset.toNat)
      else if (image.headerType, offset.toNat) ∈ romRegisters then
        .ok ⟨.rom, .bits32, false, raw.toUInt64 &&& ~~~0x7ff⟩
      else .ok unknown := by
  intro raw
  have hregister : (UInt32.ofNat (image.bytes.number Register.headerType.toNat
      Width.byte.bytes)).toUInt8 = image.bytes.byteAt Register.headerType.toNat := by
    simp [Width.bytes, Bytes.number]
  rw [classify_result, Bus.read_present himage (by decide),
    Bus.read_dword himage (Bus.inSpace_iff.mpr hspace), Bus.read_present himage (by decide)]
  simp only [Except.bind, hregister]
  have hkind : kindAt (Header.ofRegister (image.bytes.byteAt Register.headerType.toNat)) offset
      raw = if (image.headerType, offset.toNat) ∈ barRegisters then
        if IsIo raw then .io else .memory
      else if (image.headerType, offset.toNat) ∈ romRegisters then .rom
      else .unknown := kindAt_eq _ offset raw
  show decoded (bus.read location) location offset bits raw (kindAt _ offset raw) = _
  by_cases hbar : (image.headerType, offset.toNat) ∈ barRegisters
  · rw [if_pos hbar] at hkind ⊢
    by_cases hio : IsIo raw
    · rw [if_pos hio] at hkind ⊢
      rw [hkind]
      rfl
    · rw [if_neg hio] at hkind ⊢
      obtain ⟨hplace, hwithin⟩ := behind_of_memory hkind
      rw [hkind, decoded, upperHalf_present himage hplace hwithin]
      rfl
  · rw [if_neg hbar] at hkind ⊢
    by_cases hrom : (image.headerType, offset.toNat) ∈ romRegisters
    · rw [if_pos hrom] at hkind ⊢
      rw [hkind]
      rfl
    · rw [if_neg hrom] at hkind ⊢
      rw [hkind]
      rfl

/-! ## The rows -/

theorem classify_io (himage : bus.image? location = some image)
    (hbar : (image.headerType, offset.toNat) ∈ barRegisters)
    (hio : IsIo (image.dwordAt offset.toNat)) (bits : Nat) :
    (classify (bus.read location) location offset bits).result =
      .ok ⟨.io, .bits32, false, (image.dwordAt offset.toNat).toUInt64 &&& ~~~3⟩ := by
  rw [classify_present himage (space_of_mem (List.mem_append_left _ hbar)), if_pos hbar,
    if_pos hio]

theorem classify_memory (himage : bus.image? location = some image)
    (hbar : (image.headerType, offset.toNat) ∈ barRegisters)
    (hmemory : ¬ IsIo (image.dwordAt offset.toNat)) (bits : Nat) :
    (classify (bus.read location) location offset bits).result =
      memoryBar location offset bits (image.dwordAt offset.toNat) (upperOf image offset.toNat) := by
  rw [classify_present himage (space_of_mem (List.mem_append_left _ hbar)), if_pos hbar,
    if_neg hmemory]

theorem classify_rom (himage : bus.image? location = some image)
    (hrom : (image.headerType, offset.toNat) ∈ romRegisters) (bits : Nat) :
    (classify (bus.read location) location offset bits).result =
      .ok ⟨.rom, .bits32, false, (image.dwordAt offset.toNat).toUInt64 &&& ~~~0x7ff⟩ := by
  rw [classify_present himage (space_of_mem (List.mem_append_right _ hrom)),
    if_neg (bars_and_roms_apart _ hrom), if_pos hrom]

theorem classify_elsewhere (himage : bus.image? location = some image)
    (hspace : offset.toNat + 4 ≤ imageSize)
    (hnone : (image.headerType, offset.toNat) ∉ barRegisters ++ romRegisters) (bits : Nat) :
    (classify (bus.read location) location offset bits).result = .ok unknown := by
  rw [List.mem_append, not_or] at hnone
  rw [classify_present himage hspace, if_neg hnone.1, if_neg hnone.2]

/-- Every register is in one row. -/
theorem row_cases (image : Image) (offset : Nat) :
    ((image.headerType, offset) ∈ barRegisters ∧ IsIo (image.dwordAt offset)) ∨
    ((image.headerType, offset) ∈ barRegisters ∧ ¬ IsIo (image.dwordAt offset)) ∨
    (image.headerType, offset) ∈ romRegisters ∨
    (image.headerType, offset) ∉ barRegisters ++ romRegisters := by
  rw [List.mem_append, not_or]
  by_cases hbar : (image.headerType, offset) ∈ barRegisters
  · by_cases hio : IsIo (image.dwordAt offset)
    · exact .inl ⟨hbar, hio⟩
    · exact .inr (.inl ⟨hbar, hio⟩)
  · by_cases hrom : (image.headerType, offset) ∈ romRegisters
    · exact .inr (.inr (.inl hrom))
    · exact .inr (.inr (.inr ⟨hbar, hrom⟩))

/-! ## Narrow pointers -/

theorem toNat_and_lt (raw : UInt32) (mask : UInt64) :
    (raw.toUInt64 &&& mask).toNat < UInt32.size := by
  rw [UInt64.toNat_and]
  apply Nat.lt_of_le_of_lt Nat.and_le_left
  simpa using raw.toNat_lt

theorem memoryAddress_zero (raw : UInt32) : memoryAddress 0 raw = raw.toUInt64 &&& ~~~0xf := by
  simp [memoryAddress]

/-- What a machine with narrow pointers decodes, every machine decodes, and it
lies where narrow pointers point. -/
theorem memoryBar_narrow {bits : Nat} {raw upper : UInt32} {bar : Bar} (hbits : bits < 64)
    (hbar : memoryBar location offset bits raw upper = .ok bar) (wide : Nat) :
    memoryBar location offset wide raw upper = .ok bar ∧ bar.address.toNat < UInt32.size := by
  unfold memoryBar at hbar ⊢
  by_cases hupper : upper = 0
  · subst hupper
    rw [if_neg (fun h => h.1 rfl)] at hbar ⊢
    refine ⟨hbar, ?_⟩
    rw [← Except.ok.inj hbar, memoryAddress_zero]
    exact toNat_and_lt raw _
  · rw [if_pos ⟨hupper, hbits⟩] at hbar
    cases hbar

theorem classify_narrow {bits : Nat} {bar : Bar} (hbits : bits < 64)
    (hbar : (classify (bus.read location) location offset bits).result = .ok bar) (wide : Nat) :
    (classify (bus.read location) location offset wide).result = .ok bar ∧
      bar.address.toNat < UInt32.size := by
  rcases Nat.lt_or_ge imageSize (offset.toNat + 4) with hpast | hspace
  · rw [classify_pastEnd hpast] at hbar
    cases hbar
  cases himage : bus.image? location with
  | none =>
      rw [classify_absent himage hspace] at hbar ⊢
      obtain rfl := Except.ok.inj hbar
      exact ⟨rfl, by decide⟩
  | some image =>
      -- all rows but that of memory BARs answer the same for all widths of pointers
      rcases row_cases image offset.toNat with
        ⟨hregister, hio⟩ | ⟨hregister, hmemory⟩ | hrom | hnone
      · rw [classify_io himage hregister hio] at hbar ⊢
        obtain rfl := Except.ok.inj hbar
        exact ⟨rfl, toNat_and_lt _ _⟩
      · rw [classify_memory himage hregister hmemory] at hbar ⊢
        exact memoryBar_narrow hbits hbar wide
      · rw [classify_rom himage hrom] at hbar ⊢
        obtain rfl := Except.ok.inj hbar
        exact ⟨rfl, toNat_and_lt _ _⟩
      · rw [classify_elsewhere himage hspace hnone] at hbar ⊢
        obtain rfl := Except.ok.inj hbar
        exact ⟨rfl, by decide⟩

/-! ## How decoding fails -/

/-- A memory BAR fails only if it has an upper half that is out of reach. -/
theorem memoryBar_upperOf (image : Image) (bits : Nat) :
    memoryBar location offset bits (image.dwordAt offset.toNat) (upperOf image offset.toNat) =
      if IsWide (image.dwordAt offset.toNat) then
        if image.dwordAt (offset.toNat + 4) ≠ 0 ∧ bits < 64 then
          .error (.unreachable location offset (image.dwordAt (offset.toNat + 4))
            (image.dwordAt offset.toNat) bits)
        else .ok ⟨.memory, .bits64, (image.dwordAt offset.toNat).toNat.testBit 3,
          memoryAddress (image.dwordAt (offset.toNat + 4)) (image.dwordAt offset.toNat)⟩
      else .ok ⟨.memory, .bits32, (image.dwordAt offset.toNat).toNat.testBit 3,
        (image.dwordAt offset.toNat).toUInt64 &&& ~~~0xf⟩ := by
  unfold memoryBar upperOf
  rw [widthOf_eq, (and_flag_ne_zero _).2]
  by_cases hwide : IsWide (image.dwordAt offset.toNat)
  · rw [if_pos hwide, if_pos hwide, if_pos hwide]
  · rw [if_neg hwide, if_neg hwide, if_neg hwide, if_neg (fun h => h.1 rfl), memoryAddress_zero]

theorem classify_eq_error_iff {bits : Nat} {e : Fault} :
    (classify (bus.read location) location offset bits).result = .error e ↔
      imageSize < offset.toNat + 4 ∧ e = .config location offset (.pastEnd 4) ∨
      ∃ image, bus.image? location = some image ∧
        (image.headerType, offset.toNat) ∈ barRegisters ∧
        ¬ IsIo (image.dwordAt offset.toNat) ∧ IsWide (image.dwordAt offset.toNat) ∧
        image.dwordAt (offset.toNat + 4) ≠ 0 ∧ bits < 64 ∧
        e = .unreachable location offset (image.dwordAt (offset.toNat + 4))
          (image.dwordAt offset.toNat) bits := by
  constructor
  · intro h
    rcases Nat.lt_or_ge imageSize (offset.toNat + 4) with hpast | hspace
    · rw [classify_pastEnd hpast] at h
      exact .inl ⟨hpast, (Except.error.inj h).symm⟩
    cases himage : bus.image? location with
    | none =>
        rw [classify_absent himage hspace] at h
        cases h
    | some image =>
        rcases row_cases image offset.toNat with ⟨hbar, hio⟩ | ⟨hbar, hmemory⟩ | hrom | hnone
        · rw [classify_io himage hbar hio] at h
          cases h
        · rw [classify_memory himage hbar hmemory, memoryBar_upperOf] at h
          split at h
          · rename_i hwide
            split at h
            · rename_i hfar
              exact .inr ⟨image, rfl, hbar, hmemory, hwide, hfar.1, hfar.2,
                (Except.error.inj h).symm⟩
            · cases h
          · cases h
        · rw [classify_rom himage hrom] at h
          cases h
        · rw [classify_elsewhere himage hspace hnone] at h
          cases h
  · rintro (⟨hpast, rfl⟩ | ⟨image, himage, hbar, hmemory, hwide, hupper, hbits, rfl⟩)
    · exact classify_pastEnd hpast bits
    · rw [classify_memory himage hbar hmemory, memoryBar_upperOf, if_pos hwide,
        if_pos ⟨hupper, hbits⟩]

/-! ## What decoding depends on -/

/-- Functions of one header type decode alike where they agree on the register
and, if it is a memory BAR, on its upper half. -/
theorem classify_congr {other : Bus} {image' : Image} (himage : bus.image? location = some image)
    (himage' : other.image? location = some image')
    (hheader : image.headerType = image'.headerType)
    (hregister : (image.headerType, offset.toNat) ∈ barRegisters ++ romRegisters →
      image.dwordAt offset.toNat = image'.dwordAt offset.toNat)
    (hupper : (image.headerType, offset.toNat) ∈ barRegisters →
      ¬ IsIo (image.dwordAt offset.toNat) →
      upperOf image offset.toNat = upperOf image' offset.toNat) (bits : Nat) :
    (classify (bus.read location) location offset bits).result =
      (classify (other.read location) location offset bits).result := by
  rcases Nat.lt_or_ge imageSize (offset.toNat + 4) with hpast | hspace
  · rw [classify_pastEnd hpast, classify_pastEnd hpast]
  rcases row_cases image offset.toNat with ⟨hbar, hio⟩ | ⟨hbar, hmemory⟩ | hrom | hnone
  · have hraw := hregister (List.mem_append_left _ hbar)
    rw [classify_io himage hbar hio, classify_io himage' (hheader ▸ hbar) (hraw ▸ hio), hraw]
  · have hraw := hregister (List.mem_append_left _ hbar)
    rw [classify_memory himage hbar hmemory,
      classify_memory himage' (hheader ▸ hbar) (hraw ▸ hmemory), hraw, hupper hbar hmemory]
  · have hraw := hregister (List.mem_append_right _ hrom)
    rw [classify_rom himage hrom, classify_rom himage' (hheader ▸ hrom), hraw]
  · rw [classify_elsewhere himage hspace hnone,
      classify_elsewhere himage' hspace (hheader ▸ hnone)]

end

/-! ## The table -/

/-- Two config spaces differ at most in the command register and in the mark
for siblings. -/
structure SameButCommand (a b : Image) : Prop where
  headerType : (a.bytes.byteAt 0x0e).toNat % 128 = (b.bytes.byteAt 0x0e).toNat % 128
  bytes : ∀ i, i ≠ 0x04 → i ≠ 0x05 → i ≠ 0x0e → a.bytes.byteAt i = b.bytes.byteAt i

theorem SameButCommand.dwordAt_eq {a b : Image} (h : SameButCommand a b) {i : Nat}
    (hi : 0x10 ≤ i) : a.dwordAt i = b.dwordAt i := by
  apply Image.dwordAt_congr
  intro k hk _
  exact h.bytes k (by omega) (by omega) (by omega)

/-- What decoding the register at an offset comes to on a bus. -/
structure Tabled (bus : Bus) (location : Location) (offset : UInt16) (bits : Nat)
    (answer : Except Fault Bar) : Prop where
  /-- No read that is answered leaves config space. -/
  inside : ∀ place width value, bus.read location place width = .ok value →
    place.toNat + width.bytes ≤ 256
  /-- Nor does the place of an upper half leave it, or wrap around. -/
  noWrap : ∀ header raw, kindAt header offset raw = .memory →
    (offset + 4).toNat = offset.toNat + 4 ∧ offset.toNat + 8 ≤ 256
  refused : (∃ l place reason, answer = .error (.config l place reason)) ↔ 252 < offset.toNat
  absent : bus.image? location = none → offset.toNat ≤ 252 →
    answer = .ok ⟨.unknown, .bits32, false, 0⟩
  rom : ∀ image, bus.image? location = some image →
    (image.headerType, offset.toNat) ∈ romRegisters →
    answer =
      .ok ⟨.rom, .bits32, false, (image.dwordAt offset.toNat).toUInt64 &&& ~~~0x7ff⟩
  io : ∀ image, bus.image? location = some image →
    (image.headerType, offset.toNat) ∈ barRegisters → IsIo (image.dwordAt offset.toNat) →
    answer = .ok ⟨.io, .bits32, false, (image.dwordAt offset.toNat).toUInt64 &&& ~~~3⟩
  memory : ∀ image, bus.image? location = some image →
    (image.headerType, offset.toNat) ∈ barRegisters → ¬ IsIo (image.dwordAt offset.toNat) →
    let raw := image.dwordAt offset.toNat
    let upper := image.dwordAt (offset.toNat + 4)
    answer =
      if IsWide raw then
        if upper ≠ 0 ∧ bits < 64 then .error (.unreachable location offset upper raw bits)
        else .ok ⟨.memory, .bits64, raw.toNat.testBit 3,
          (upper.toUInt64 <<< 32 ||| raw.toUInt64) &&& ~~~0xf⟩
      else .ok ⟨.memory, .bits32, raw.toNat.testBit 3, raw.toUInt64 &&& ~~~0xf⟩
  elsewhere : ∀ image, bus.image? location = some image → offset.toNat ≤ 252 →
    (image.headerType, offset.toNat) ∉ barRegisters ++ romRegisters →
    answer = .ok ⟨.unknown, .bits32, false, 0⟩
  unreachable :
    (∃ l place upper raw width, answer = .error (.unreachable l place upper raw width)) ↔
    ∃ image, bus.image? location = some image ∧
      (image.headerType, offset.toNat) ∈ barRegisters ∧
      ¬ IsIo (image.dwordAt offset.toNat) ∧ IsWide (image.dwordAt offset.toNat) ∧
      image.dwordAt (offset.toNat + 4) ≠ 0 ∧ bits < 64
  narrow : ∀ bar, bits < 64 → answer = .ok bar →
    (classify (bus.read location) location offset 64).result = .ok bar ∧
      bar.address.toNat < UInt32.size
  /-- Neither the command register nor the mark for siblings makes a difference. -/
  command : ∀ other image image', bus.image? location = some image →
    Bus.image? other location = some image' → SameButCommand image image' →
    (classify (other.read location) location offset bits).result = answer

/-- **What the registers decode to.** On every bus, for every function, offset
and width of pointers, decoding a register answers what the table has. -/
theorem classify_tabled (bus : Bus) (location : Location) (offset : UInt16) (bits : Nat) :
    Tabled bus location offset bits (classify (bus.read location) location offset bits).result := by
  have hlast : 252 < offset.toNat ↔ imageSize < offset.toNat + 4 := by
    unfold imageSize
    omega
  exact {
    inside := by
      intro place width value hread
      refine Decidable.byContradiction fun hspace => ?_
      rw [Bus.read_pastEnd (fun h => hspace (Bus.inSpace_iff.mp h))] at hread
      cases hread
    noWrap := fun header raw => behind_of_memory
    refused := by
      rw [hlast]
      constructor
      · rintro ⟨l, place, reason, h⟩
        rcases classify_eq_error_iff.mp h with ⟨hpast, -⟩ | ⟨image, -, -, -, -, -, -, hfault⟩
        · exact hpast
        · cases hfault
      · intro hpast
        exact ⟨location, offset, .pastEnd 4, classify_pastEnd hpast bits⟩
    absent := by
      intro hnone hspace
      exact classify_absent hnone (by unfold imageSize; omega) bits
    rom := fun image himage hrom => classify_rom himage hrom bits
    io := fun image himage hbar hio => classify_io himage hbar hio bits
    memory := by
      intro image himage hbar hmemory raw upper
      rw [classify_memory himage hbar hmemory, memoryBar_upperOf]
      rfl
    elsewhere := by
      intro image himage hspace hnone
      exact classify_elsewhere himage (by unfold imageSize; omega) hnone bits
    unreachable := by
      constructor
      · rintro ⟨l, place, upper, raw, width, h⟩
        rcases classify_eq_error_iff.mp h with
          ⟨-, hfault⟩ | ⟨image, himage, hbar, hmemory, hwide, hupper, hbits, -⟩
        · cases hfault
        · exact ⟨image, himage, hbar, hmemory, hwide, hupper, hbits⟩
      · rintro ⟨image, himage, hbar, hmemory, hwide, hupper, hbits⟩
        exact ⟨_, _, _, _, _, classify_eq_error_iff.mpr
          (.inr ⟨image, himage, hbar, hmemory, hwide, hupper, hbits, rfl⟩)⟩
    narrow := fun bar hbits hbar => classify_narrow hbits hbar 64
    command := by
      intro other image image' himage himage' hsame
      refine (classify_congr himage himage' hsame.headerType ?_ ?_ bits).symm
      · intro hregister
        exact hsame.dwordAt_eq (within_of_mem hregister).1
      · intro hbar _
        have hlow := (within_of_mem (List.mem_append_left _ hbar)).1
        unfold upperOf
        rw [hsame.dwordAt_eq hlow, hsame.dwordAt_eq (Nat.le_add_right_of_le hlow)] }

/-- A bus with one function. -/
def soloBus (image : Image) : Bus :=
  ({} : Bus).plug ⟨0, 0, 1, 0⟩
    { image := image, sizes := .replicate 6 0, romSize := 0, name := none }

/-- An ordinary function with siblings, whose first BAR is prefetchable and
64 bits wide. -/
def siblingImage : Image where
  bytes := (List.replicate 14 0 ++ [0x80, 0] ++ [0x0c, 0, 0, 0xfe] ++ [2, 0, 0, 0] ++
    List.replicate 232 (0 : UInt8)).toArray
  size_eq := by decide +kernel

/-- It has its BARs like any other, here above 4 GiB. -/
example :
    (classify ((soloBus siblingImage).read ⟨0, 0, 1, 0⟩) ⟨0, 0, 1, 0⟩ 0x10 64).result.toOption =
      some ⟨.memory, .bits64, true, 0x2fe000000⟩ := by
  decide +kernel

end Bar

end PciBus

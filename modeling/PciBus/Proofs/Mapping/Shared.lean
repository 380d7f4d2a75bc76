import Mathlib.Algebra.BigOperators.Ring.Finset
import Mathlib.Tactic.Ring
import PciBus.Proofs.Handle.Mapped

/-!
# Mappings that share files

Any number of mappings may be open, by themselves or through handles, and
several of them over one file. Here stands what they amount to together: one
stretch of bytes for each file (`Memory`), and one rule for an access to it
(`Memory.access`). An access through a mapping follows that rule
(`Mapping.access_follows`), hence so does every run of accesses, whichever
mappings they go through (`accesses_follow`). It does not matter by which
mapping a byte was written, nor whether by itself or in a dword.
-/

namespace PciBus

variable {τ : Type}

/-! ## Accesses -/

/-- A call on a mapping. -/
inductive Access where
  | read (cell : Cell) (address : UInt64)
  | write (cell : Cell) (address : UInt64) (value : UInt32)
  | mask (cell : Cell) (address : UInt64) (value bits : UInt32)

namespace Access

def cell : Access → Cell
  | .read cell _ | .write cell _ _ | .mask cell _ _ _ => cell

def address : Access → UInt64
  | .read _ address | .write _ address _ | .mask _ address _ _ => address

end Access

/-- Makes the access; a read answers what it has read. -/
def Mapping.access (m : Mapping) : Access → Action Files (Option UInt32)
  | .read cell address => do return some (← m.read (← Action.get) cell address)
  | .write cell address value => do m.write cell address value; return none
  | .mask cell address value bits => do m.writeMasked cell address value bits; return none

def Handle.access (h : Handle τ) : Access → Action Files (Option UInt32)
  | .read cell address => do return some (← h.read (← Action.get) cell address)
  | .write cell address value => do h.write cell address value; return none
  | .mask cell address value bits => do h.writeMasked cell address value bits; return none

/-- A mapping that is open, by itself or as the one of a handle. -/
inductive Window (τ : Type) where
  | region (m : Mapping)
  | handle (h : Handle τ) (m : Mapping) (mapped : h.mapping = some m)

namespace Window

def mapping : Window τ → Mapping
  | .region m | .handle _ m _ => m

def access : Window τ → Access → Action Files (Option UInt32)
  | .region m => m.access
  | .handle h _ _ => h.access

end Window

/-- The file is at least as long as what is mapped of it. -/
def Mapping.Fits (m : Mapping) (files : Files) : Prop :=
  m.size.toNat ≤ (files.bytes m.file).size

instance (m : Mapping) (files : Files) : Decidable (m.Fits files) :=
  inferInstanceAs (Decidable (_ ≤ _))

/-- What a run of accesses answers, one after the other, and the files that it
leaves. -/
def accessed : List (Window τ × Access) → Files → List (Except Fault (Option UInt32)) × Files
  | [], files => ([], files)
  | (window, x) :: calls, files =>
      let first := window.access x files
      let rest := accessed calls first.2
      (first.1.result :: rest.1, rest.2)

/-! ## The bytes that are shared -/

/-- The byte at each place of each file. -/
abbrev Memory := Nat → Nat → UInt8

def Files.memory (files : Files) : Memory := fun id i => (files.bytes id).byteAt i

namespace Memory

/-- Byte `k` of a number, the least significant first. -/
def part (value : UInt32) (k : Nat) : UInt8 := .ofNat (value.toNat / 256 ^ k)

/-- The number in `count` bytes of a file, the least significant first. -/
def number (memory : Memory) (id start count : Nat) : Nat :=
  ∑ k ∈ Finset.range count, (memory id (start + k)).toNat * 256 ^ k

/-- Changes `count` bytes of a file, each by its place among them, and no
others. -/
def change (memory : Memory) (id start count : Nat) (f : Nat → UInt8 → UInt8) : Memory :=
  fun other i =>
    if other = id ∧ start ≤ i ∧ i < start + count then f (i - start) (memory other i)
    else memory other i

/-- What an access to a file comes to that is not refused. -/
def touch (memory : Memory) (id : Nat) : Access → Option UInt32 × Memory
  | .read cell address => (some (.ofNat (memory.number id address.toNat cell.bytes)), memory)
  | .write cell address value =>
      (none, memory.change id address.toNat cell.bytes fun k _ => part value k)
  | .mask cell address value bits =>
      (none, memory.change id address.toNat cell.bytes fun k old =>
        (old &&& ~~~part bits k) ||| (part value k &&& part bits k))

/-- What an access through a mapping comes to: a dword has to be aligned, and
the end of the cell, a natural number, to lie within the mapping. -/
def access (memory : Memory) (m : Mapping) (x : Access) :
    Except Fault (Option UInt32) × Memory :=
  if x.cell = .dword ∧ x.address.toNat % 4 ≠ 0 then
    (.error (.misaligned x.address 4), memory)
  else if m.size.toNat < x.address.toNat + x.cell.bytes then
    (.error (.outOfRange x.address x.cell.bytes m.size), memory)
  else (.ok (memory.touch m.file x).1, (memory.touch m.file x).2)

/-- What a run of accesses comes to. Of what they go through only the mapping
counts. -/
def accessed : List (Window τ × Access) → Memory →
    List (Except Fault (Option UInt32)) × Memory
  | [], memory => ([], memory)
  | (window, x) :: calls, memory =>
      let first := memory.access window.mapping x
      let rest := accessed calls first.2
      (first.1 :: rest.1, rest.2)

/-! ### Bytes of a number -/

theorem toBitVec_part (value : UInt32) (k : Nat) :
    (part value k).toBitVec = value.toBitVec.extractLsb' (8 * k) 8 := by
  have hpow : 256 ^ k = 2 ^ (8 * k) := by rw [Nat.pow_mul]
  apply BitVec.eq_of_toNat_eq
  rw [BitVec.extractLsb'_toNat, Nat.shiftRight_eq_div_pow, ← hpow]
  rfl

/-- Merging under a mask goes byte by byte. -/
theorem part_merge (old value bits : UInt32) {k : Nat} (hk : k < 4) :
    part (Mapping.merge old value bits) k =
      (part old k &&& ~~~part bits k) ||| (part value k &&& part bits k) := by
  apply UInt8.eq_of_toBitVec_eq
  simp only [UInt8.toBitVec_or, UInt8.toBitVec_and, UInt8.toBitVec_not, toBitVec_part,
    Mapping.merge, UInt32.toBitVec_or, UInt32.toBitVec_and, UInt32.toBitVec_not]
  apply BitVec.eq_of_getLsbD_eq
  intro j hj
  have hin : 8 * k + j < 32 := by omega
  simp [hj, hin]

end Memory

namespace Bytes

theorem span_eq (count : Nat) : span count = 256 ^ count := by
  induction count with
  | zero => rfl
  | succ count ih => rw [span, ih, Nat.pow_succ, Nat.mul_comm]

/-- The number in a stretch of bytes is the sum of its digits. -/
theorem number_eq_sum (b : Bytes) (offset count : Nat) :
    b.number offset count =
      ∑ k ∈ Finset.range count, (b.byteAt (offset + k)).toNat * 256 ^ k := by
  induction count generalizing offset with
  | zero => rfl
  | succ count ih =>
      rw [number, ih, Finset.sum_range_succ', Finset.mul_sum, Nat.add_comm]
      congr 1
      · apply Finset.sum_congr rfl
        intro k _
        rw [Nat.pow_succ, Nat.add_right_comm, Nat.add_assoc]
        ring
      · simp

theorem getD_ofNumber_part (value : UInt32) {count k : Nat} (hk : k < count) :
    (ofNumber count value.toNat).getD k 0 = Memory.part value k := by
  rw [← UInt8.toNat_inj, getD_ofNumber hk, span_eq]
  rfl

/-- A number of up to four bytes has the bytes of the stretch that holds it, and
zeros above them. -/
theorem part_number (b : Bytes) {count : Nat} (hcount : count ≤ 4) (offset k : Nat) :
    Memory.part (.ofNat (b.number offset count)) k =
      if k < count then b.byteAt (offset + k) else 0 := by
  have hbelow : b.number offset count < 256 ^ count := span_eq count ▸ number_lt b offset count
  have hsmall : b.number offset count < UInt32.size :=
    Nat.lt_of_lt_of_le hbelow (Nat.pow_le_pow_right (by decide) hcount)
  split
  · rename_i hk
    rw [← getD_ofNumber_part _ hk, UInt32.toNat_ofNat_of_lt' hsmall, getD_ofNumber_number hk]
  · rename_i hk
    have hpow : b.number offset count < 256 ^ k :=
      Nat.lt_of_lt_of_le hbelow (Nat.pow_le_pow_right (by decide) (Nat.le_of_not_lt hk))
    rw [Memory.part, UInt32.toNat_ofNat_of_lt' hsmall, Nat.div_eq_of_lt hpow]
    rfl

end Bytes

/-! ## An access follows the rule -/

/-- The same names, and files of the same lengths. -/
structure Files.SameShape (before after : Files) : Prop where
  entries : after.entries = before.entries
  size : ∀ id, (after.bytes id).size = (before.bytes id).size

theorem Files.SameShape.refl (files : Files) : SameShape files files := ⟨rfl, fun _ => rfl⟩

theorem Files.SameShape.trans {a b c : Files} (hab : SameShape a b) (hbc : SameShape b c) :
    SameShape a c :=
  ⟨hbc.entries.trans hab.entries, fun id => (hbc.size id).trans (hab.size id)⟩

namespace Stored

variable {before after : Files} {id offset : Nat} {values : List UInt8}

theorem sameShape (h : Stored before after id offset values) : before.SameShape after := by
  refine ⟨h.entries, fun other => ?_⟩
  by_cases hsame : other = id
  · rw [hsame, h.bytes, Bytes.size_overwrite]
  · rw [h.others other hsame]

/-- Laying the bytes of a number over a file changes so many bytes of it. -/
theorem memory_eq {count : Nat} {value : UInt32} {f : Nat → UInt8 → UInt8}
    (h : Stored before after id offset (Bytes.ofNumber count value.toNat))
    (hfits : offset + count ≤ (before.bytes id).size)
    (hf : ∀ k < count, f k (before.memory id (offset + k)) = Memory.part value k) :
    after.memory = before.memory.change id offset count f := by
  funext other i
  rw [Files.memory, Memory.change]
  by_cases hsame : other = id
  · subst hsame
    rw [h.bytes, Bytes.byteAt_overwrite, Bytes.length_ofNumber]
    by_cases hin : offset ≤ i ∧ i < offset + count
    · obtain ⟨k, rfl⟩ := Nat.exists_eq_add_of_le hin.1
      have hk : k < count := by omega
      rw [if_pos ⟨hin.1, hin.2, by omega⟩, if_pos ⟨rfl, hin⟩, Nat.add_sub_cancel_left, hf k hk,
        Bytes.getD_ofNumber_part value hk]
    · rw [if_neg fun hall => hin ⟨hall.1, hall.2.1⟩, if_neg fun hall => hin hall.2]
      rfl
  · rw [h.others other hsame, if_neg fun hall => hsame hall.1]
    rfl

end Stored

namespace Mapping

variable {m : Mapping} {files : Files}

/-- The dword that is not aligned is refused first, then what ends past the
mapping. -/
theorem check_eq (m : Mapping) (cell : Cell) (address : UInt64) :
    m.check cell address =
      if cell = .dword ∧ address.toNat % 4 ≠ 0 then .error (.misaligned address 4)
      else if m.size.toNat < address.toNat + cell.bytes then
        .error (.outOfRange address cell.bytes m.size)
      else .ok () := by
  cases cell with
  | byte => simp [check, Cell.bytes, Nat.mod_one]
  | dword => by_cases haligned : address.toNat % 4 = 0 <;> simp [check, Cell.bytes, haligned]

/-- An access that is refused changes nothing. -/
theorem access_refused {x : Access} {e : Fault} (h : m.check x.cell x.address = .error e)
    (files : Files) :
    (m.access x files).1.result = .error e ∧ (m.access x files).2 = files := by
  cases x with
  | read cell address =>
      have hcheck : m.check cell address = .error e := h
      simp [access, read, hcheck, Except.bind]
  | write cell address value =>
      have hcheck : m.check cell address = .error e := h
      simp [access, write, hcheck, Except.bind]
  | mask cell address value bits =>
      have hcheck : m.check cell address = .error e := h
      simp [access, writeMasked, hcheck, Except.bind]

/-- In range, an access follows the rule of its kind. -/
theorem access_in_range (hfits : m.Fits files) {x : Access}
    (hrange : InRange m.size x.cell x.address) :
    (m.access x files).1.result = .ok (files.memory.touch m.file x).1 ∧
      (m.access x files).2.memory = (files.memory.touch m.file x).2 ∧
      files.SameShape (m.access x files).2 := by
  cases x with
  | read cell address =>
      have hin : InRange m.size cell address := hrange
      have hread : (m.read files cell address).result =
          .ok (.ofNat (files.memory.number m.file address.toNat cell.bytes)) := by
        rw [read_eq_ok hin, peek_of_fits hfits hin, Bytes.number_eq_sum]
        rfl
      refine ⟨?_, ?_, ?_⟩ <;>
        simp [access, hread, Except.bind, Memory.touch, Files.SameShape.refl]
  | write cell address value =>
      have hin : InRange m.size cell address := hrange
      obtain ⟨hresult, hfiles⟩ : (m.write cell address value files).1.result = .ok () ∧
          (m.write cell address value files).2 = m.poke files cell address value :=
        write_eq_ok hin
      have hafter : (m.access (.write cell address value) files).2 =
          m.poke files cell address value := by
        simp [access, hresult, hfiles]
      have hstored := stored_poke hfits hin value
      rw [hafter]
      refine ⟨?_, ?_, hstored.sameShape⟩
      · simp [access, hresult, Except.bind, Memory.touch]
      · apply hstored.memory_eq (f := fun k _ => Memory.part value k) (Nat.le_trans hin.2 hfits)
        intro k _
        rfl
  | mask cell address value bits =>
      have hin : InRange m.size cell address := hrange
      obtain ⟨hresult, hfiles⟩ :
          (m.writeMasked cell address value bits files).1.result = .ok () ∧
          (m.writeMasked cell address value bits files).2 =
            m.poke files cell address (merge (m.peek files cell address) value bits) :=
        writeMasked_eq_ok hin
      have hafter : (m.access (.mask cell address value bits) files).2 =
          m.poke files cell address (merge (m.peek files cell address) value bits) := by
        simp [access, hresult, hfiles]
      have hstored := stored_poke hfits hin (merge (m.peek files cell address) value bits)
      rw [hafter]
      refine ⟨?_, ?_, hstored.sameShape⟩
      · simp [access, hresult, Except.bind, Memory.touch]
      · apply hstored.memory_eq (f := fun k old =>
          (old &&& ~~~Memory.part bits k) ||| (Memory.part value k &&& Memory.part bits k))
          (Nat.le_trans hin.2 hfits)
        intro k hk
        have hcell : cell.bytes ≤ 4 := by cases cell <;> decide
        rw [Memory.part_merge _ _ _ (Nat.lt_of_lt_of_le hk hcell), peek_of_fits hfits hin,
          Bytes.part_number _ hcell, if_pos hk]
        rfl

/-- An access through a mapping that is within its file follows the rule. -/
theorem access_follows (hfits : m.Fits files) (x : Access) :
    (m.access x files).1.result = (files.memory.access m x).1 ∧
      (m.access x files).2.memory = (files.memory.access m x).2 ∧
      files.SameShape (m.access x files).2 := by
  have hcheck := m.check_eq x.cell x.address
  have hrefused : ∀ {e}, m.check x.cell x.address = .error e →
      (m.access x files).1.result = .error e ∧
        (m.access x files).2.memory = files.memory ∧ files.SameShape (m.access x files).2 := by
    intro e he
    obtain ⟨hresult, hfiles⟩ := access_refused he files
    rw [hresult, hfiles]
    exact ⟨rfl, rfl, .refl files⟩
  unfold Memory.access
  by_cases hmisaligned : x.cell = .dword ∧ x.address.toNat % 4 ≠ 0
  · rw [if_pos hmisaligned] at hcheck ⊢
    exact hrefused hcheck
  rw [if_neg hmisaligned] at hcheck ⊢
  by_cases hout : m.size.toNat < x.address.toNat + x.cell.bytes
  · rw [if_pos hout] at hcheck ⊢
    exact hrefused hcheck
  · rw [if_neg hout]
    have hrange : InRange m.size x.cell x.address := by
      by_contra hnot
      obtain ⟨e, he⟩ := check_refused (m := m) hnot
      rw [hcheck, if_neg hout] at he
      cases he
    exact access_in_range hfits hrange

end Mapping

theorem Handle.access_of_mapped {h : Handle τ} {m : Mapping} (hm : h.mapping = some m) :
    h.access = m.access := by
  funext x
  cases x with
  | read cell address => simp only [access, Mapping.access, read_of_mapped hm]
  | write cell address value => simp only [access, Mapping.access, write_of_mapped hm]
  | mask cell address value bits => simp only [access, Mapping.access, writeMasked_of_mapped hm]

/-- An access through a handle is one through its mapping. -/
theorem Window.access_eq (window : Window τ) : window.access = window.mapping.access := by
  cases window with
  | region m => rfl
  | handle h m hm => exact Handle.access_of_mapped hm

theorem Mapping.Fits.of_sameShape {m : Mapping} {before after : Files} (h : m.Fits before)
    (hshape : before.SameShape after) : m.Fits after := by
  rw [Fits, hshape.size]
  exact h

/-! ## Runs of accesses -/

/-- By induction on the run: each access follows the rule, and leaves every
mapping within its file. -/
theorem accessed_follows (calls : List (Window τ × Access)) {files : Files}
    (hfits : ∀ call ∈ calls, call.1.mapping.Fits files) :
    (accessed calls files).1 = (Memory.accessed calls files.memory).1 ∧
      (accessed calls files).2.memory = (Memory.accessed calls files.memory).2 ∧
      files.SameShape (accessed calls files).2 := by
  induction calls generalizing files with
  | nil => exact ⟨rfl, rfl, .refl files⟩
  | cons call calls ih =>
      obtain ⟨window, x⟩ := call
      obtain ⟨hresult, hmemory, hshape⟩ :=
        window.mapping.access_follows (hfits _ List.mem_cons_self) x
      have hrest : ∀ call ∈ calls,
          call.1.mapping.Fits (window.mapping.access x files).2 :=
        fun call hcall => (hfits call (List.mem_cons_of_mem _ hcall)).of_sameShape hshape
      obtain ⟨hresults, hmemories, hshapes⟩ := ih hrest
      simp only [accessed, Memory.accessed, window.access_eq]
      rw [hresults, hmemories, hresult, hmemory]
      exact ⟨rfl, rfl, hshape.trans hshapes⟩

/-! ## Bytes and dwords -/

theorem Memory.access_read {memory : Memory} {m : Mapping} {cell : Cell} {address : UInt64}
    (hrange : InRange m.size cell address) :
    (memory.access m (.read cell address)).1 =
      .ok (some (.ofNat (memory.number m.file address.toNat cell.bytes))) := by
  have haligned : ¬ (cell = .dword ∧ address.toNat % 4 ≠ 0) := by
    rintro ⟨rfl, h⟩
    exact h hrange.1
  have hends : ¬ m.size.toNat < address.toNat + cell.bytes := Nat.not_lt.mpr hrange.2
  rw [access, Access.cell, Access.address, if_neg haligned, if_neg hends]
  rfl

theorem Memory.number_lt (memory : Memory) (id start count : Nat) :
    memory.number id start count < 256 ^ count := by
  induction count with
  | zero => simp [number]
  | succ count ih =>
      have hbyte : (memory id (start + count)).toNat ≤ 255 :=
        Nat.le_of_lt_succ (memory id (start + count)).toNat_lt
      have hdigit := Nat.mul_le_mul_right (256 ^ count) hbyte
      rw [number] at ih
      rw [number, Finset.sum_range_succ, Nat.pow_succ]
      omega

/-- A dword reads as the four bytes that can be read in its place. -/
theorem dword_of_bytes {window : Window τ} {files : Files} (hfits : window.mapping.Fits files)
    {address : UInt64} (hrange : InRange window.mapping.size .dword address) :
    ∃ (word : UInt32) (byte : Nat → UInt32),
      (window.access (.read .dword address) files).1.result = .ok (some word) ∧
      (∀ k < 4, (window.access (.read .byte (address + .ofNat k)) files).1.result =
        .ok (some (byte k))) ∧
      word.toNat = ∑ k ∈ Finset.range 4, (byte k).toNat * 256 ^ k := by
  have hread : ∀ {cell a}, InRange window.mapping.size cell a →
      (window.access (.read cell a) files).1.result =
        .ok (some (.ofNat (files.memory.number window.mapping.file a.toNat cell.bytes))) := by
    intro cell a ha
    rw [window.access_eq, (window.mapping.access_follows hfits _).1, Memory.access_read ha]
  have hends : address.toNat + 4 ≤ window.mapping.size.toNat := hrange.2
  have hsize := window.mapping.size.toNat_lt
  have hnext : ∀ k < 4, (address + .ofNat k).toNat = address.toNat + k := by
    intro k hk
    rw [UInt64.toNat_add, UInt64.toNat_ofNat']
    omega
  refine ⟨_, fun k => .ofNat (files.memory window.mapping.file (address.toNat + k)).toNat,
    hread hrange, fun k hk => ?_, ?_⟩
  · have hin : InRange window.mapping.size .byte (address + .ofNat k) := by
      refine ⟨Nat.mod_one _, ?_⟩
      rw [hnext k hk, Cell.bytes]
      omega
    rw [hread hin, hnext k hk]
    simp [Memory.number, Cell.bytes]
  · rw [UInt32.toNat_ofNat_of_lt' (Memory.number_lt _ _ _ _), Memory.number]
    apply Finset.sum_congr rfl
    intro k _
    rw [UInt32.toNat_ofNat_of_lt' (Nat.lt_trans (UInt8.toNat_lt _) (by decide))]

/-- Whatever mappings are open, over whatever files, and whatever is called on
them: the calls answer, and leave the bytes of all files, as the rule for one
access says, one call after the other, and no name is moved and no file gets
longer or shorter. In the state that is reached a dword reads as the bytes in
its place, through every mapping that is within its file. -/
theorem accesses_follow (calls : List (Window τ × Access)) {files : Files}
    (hfits : ∀ call ∈ calls, call.1.mapping.Fits files) :
    let after := (accessed calls files).2
    (accessed calls files).1 = (Memory.accessed calls files.memory).1 ∧
    after.memory = (Memory.accessed calls files.memory).2 ∧
    files.SameShape after ∧
    ∀ window : Window τ, window.mapping.Fits files → ∀ address,
      InRange window.mapping.size .dword address →
      ∃ (word : UInt32) (byte : Nat → UInt32),
        (window.access (.read .dword address) after).1.result = .ok (some word) ∧
        (∀ k < 4, (window.access (.read .byte (address + .ofNat k)) after).1.result =
          .ok (some (byte k))) ∧
        word.toNat = ∑ k ∈ Finset.range 4, (byte k).toNat * 256 ^ k := by
  intro after
  obtain ⟨hresults, hmemory, hshape⟩ := accessed_follows calls hfits
  exact ⟨hresults, hmemory, hshape, fun window hwindow address hrange =>
    dword_of_bytes (hwindow.of_sameShape hshape) hrange⟩

/-- Two files of eight bytes and of one. -/
def twoFiles : Files where
  contents := #[#[0, 1, 2, 3, 4, 5, 6, 7], #[0x5a]]

def wholeFirst : Window Unit := .region ⟨0, 8⟩

/-- The first half of the first file, through a handle. -/
def halfFirst : Window Unit :=
  .handle
    { name := "half"
      record := .ofConfig ⟨0, 0, 1, 0⟩ (.zeros 64) Register.rom (.replicate 6 4) 0
      path := "d"
      tag := ()
      mapping := some ⟨0, 4⟩ } ⟨0, 4⟩ rfl

def wholeSecond : Window Unit := .region ⟨1, 1⟩

/-- Accesses that overlap, that are refused, and that end past the largest
address. -/
def overlapping : List (Window Unit × Access) :=
  [(wholeFirst, .write .dword 0 0x11223344), (halfFirst, .write .byte 1 0xaa),
    (halfFirst, .mask .dword 0 0xffffffff 0x0f000000), (wholeFirst, .read .dword 0),
    (halfFirst, .read .dword 4), (wholeFirst, .write .dword 2 0), (wholeSecond, .read .byte 0),
    (wholeFirst, .mask .dword 0xfffffffffffffffc 0 0),
    (halfFirst, .read .byte 0xffffffffffffffff)]

theorem overlapping_answers :
    (∀ call ∈ overlapping, call.1.mapping.Fits twoFiles) ∧
    (accessed overlapping twoFiles).1 =
      [.ok none, .ok none, .ok none, .ok (some 0x1f22aa44),
        .error (.outOfRange 4 4 4), .error (.misaligned 2 4), .ok (some 0x5a),
        .error (.outOfRange 0xfffffffffffffffc 4 8),
        .error (.outOfRange 0xffffffffffffffff 1 4)] := by
  have hfits : ∀ call ∈ overlapping, call.1.mapping.Fits twoFiles := by decide +kernel
  refine ⟨hfits, ?_⟩
  rw [(accesses_follow overlapping hfits).1]
  rfl

end PciBus

/-!
# Bytes

The contents of a file and of a config space are stretches of bytes. Reading
past the end finds zeros; `overwrite` never changes the length, `extend`
never changes a byte. Numbers stand least significant byte first.
-/

namespace PciBus

/-- A stretch of bytes. -/
abbrev Bytes := Array UInt8

namespace Bytes

/-- The byte at `i`, zero past the end. -/
def byteAt (b : Bytes) (i : Nat) : UInt8 := b.getD i 0

/-- `count` zeros. -/
def zeros (count : Nat) : Bytes := Array.replicate count 0

/-- The bytes `values` laid over `b` from `offset` on; what would fall past
the end is dropped. -/
def overwrite (b : Bytes) (offset : Nat) (values : List UInt8) : Bytes :=
  Array.ofFn fun i : Fin b.size =>
    if offset ≤ i.val ∧ i.val < offset + values.length then
      values.getD (i.val - offset) 0
    else b.byteAt i

/-- `b` with zeros behind it, up to `size` bytes. -/
def extend (b : Bytes) (size : Nat) : Bytes :=
  b ++ Array.replicate (size - b.size) 0

/-- The number in the `count` bytes from `offset` on. -/
def number (b : Bytes) (offset : Nat) : Nat → Nat
  | 0 => 0
  | count + 1 => (b.byteAt offset).toNat + 256 * number b (offset + 1) count

/-- The `count` low bytes of a number. -/
def ofNumber : Nat → Nat → List UInt8
  | 0, _ => []
  | count + 1, n => UInt8.ofNat n :: ofNumber count (n / 256)

/-! ## Sizes and single bytes -/

@[simp] theorem size_zeros (count : Nat) : (zeros count).size = count := by
  simp [zeros]

@[simp] theorem size_overwrite (b : Bytes) (offset : Nat) (values : List UInt8) :
    (b.overwrite offset values).size = b.size := by
  simp [overwrite]

@[simp] theorem size_extend (b : Bytes) (size : Nat) :
    (b.extend size).size = max b.size size := by
  simp only [extend, Array.size_append, Array.size_replicate]
  omega

@[simp] theorem length_ofNumber (count n : Nat) : (ofNumber count n).length = count := by
  induction count generalizing n with
  | zero => rfl
  | succ count ih => simp [ofNumber, ih]

theorem byteAt_of_size_le {b : Bytes} {i : Nat} (h : b.size ≤ i) : b.byteAt i = 0 := by
  simp [byteAt, Array.getD, Nat.not_lt.2 h]

/-- A byte is new inside the written stretch and old outside it. -/
theorem byteAt_overwrite (b : Bytes) (offset : Nat) (values : List UInt8) (i : Nat) :
    (b.overwrite offset values).byteAt i =
      if offset ≤ i ∧ i < offset + values.length ∧ i < b.size then
        values.getD (i - offset) 0
      else b.byteAt i := by
  by_cases hi : i < b.size
  · simp [byteAt, overwrite, Array.getD, hi]
  · rw [byteAt_of_size_le (by simpa using hi), byteAt_of_size_le (by simpa using hi)]
    simp [hi]

@[simp] theorem byteAt_extend (b : Bytes) (size i : Nat) :
    (b.extend size).byteAt i = b.byteAt i := by
  by_cases hi : i < b.size
  · have h : i < (b.extend size).size := by simp; omega
    simp only [byteAt, Array.getD, hi, h, dif_pos]
    simp [extend, hi]
  · rw [byteAt_of_size_le (Nat.not_lt.1 hi)]
    by_cases h : i < (b.extend size).size
    · simp only [byteAt, Array.getD, h, dif_pos]
      simp [extend, Array.getElem_append, hi]
    · exact byteAt_of_size_le (Nat.not_lt.1 h)

theorem extend_of_le {b : Bytes} {size : Nat} (h : size ≤ b.size) : b.extend size = b := by
  rw [extend, Nat.sub_eq_zero_of_le h]
  simp

/-- Two stretches of one length with the same bytes are the same. -/
theorem eq_of_byteAt {a b : Bytes} (hsize : a.size = b.size)
    (h : ∀ i, i < a.size → a.byteAt i = b.byteAt i) : a = b := by
  refine Array.ext hsize fun i hi hi' => ?_
  simpa [byteAt, Array.getD, hi, hi'] using h i hi

/-! ## Numbers -/

/-- How many numbers fit into so many bytes. -/
def span : Nat → Nat
  | 0 => 1
  | count + 1 => 256 * span count

theorem number_lt (b : Bytes) (offset count : Nat) :
    b.number offset count < span count := by
  induction count generalizing offset with
  | zero => simp [number, span]
  | succ count ih =>
      have hlow := UInt8.toNat_lt (b.byteAt offset)
      have hhigh := ih (offset + 1)
      rw [number, span]
      omega

/-- The number depends on nothing but the bytes it covers, and not on where
they stand. -/
theorem number_congr_shift {a b : Bytes} {x y count : Nat}
    (h : ∀ i, i < count → a.byteAt (x + i) = b.byteAt (y + i)) :
    a.number x count = b.number y count := by
  induction count generalizing x y with
  | zero => rfl
  | succ count ih =>
      have hfirst := h 0 (by omega)
      have hrest : ∀ i, i < count → a.byteAt (x + 1 + i) = b.byteAt (y + 1 + i) := by
        intro i hi
        have := h (i + 1) (by omega)
        rwa [Nat.add_right_comm, Nat.add_right_comm y, Nat.add_assoc, Nat.add_assoc y]
      rw [number, number, ih hrest]
      simp only [Nat.add_zero] at hfirst
      rw [hfirst]

/-- Reading looks at nothing but the bytes it covers. -/
theorem number_congr {a b : Bytes} {offset count : Nat}
    (h : ∀ i, offset ≤ i → i < offset + count → a.byteAt i = b.byteAt i) :
    a.number offset count = b.number offset count :=
  number_congr_shift fun i hi => h (offset + i) (by omega) (by omega)

theorem getD_ofNumber {count n i : Nat} (h : i < count) :
    ((ofNumber count n).getD i 0).toNat = n / span i % 256 := by
  induction count generalizing n i with
  | zero => omega
  | succ count ih =>
      cases i with
      | zero => simp [ofNumber, span]
      | succ i =>
          have step := ih (n := n / 256) (i := i) (by omega)
          simp only [ofNumber, List.getD_cons_succ]
          rw [step, span, Nat.div_div_eq_div_mul]

/-- The bytes of the number that a stretch holds are those of the stretch. -/
theorem getD_ofNumber_number {b : Bytes} {offset count i : Nat} (h : i < count) :
    (ofNumber count (b.number offset count)).getD i 0 = b.byteAt (offset + i) := by
  induction count generalizing offset i with
  | zero => omega
  | succ count ih =>
      have hlow := UInt8.toNat_lt (b.byteAt offset)
      cases i with
      | zero =>
          rw [ofNumber, number, List.getD_cons_zero, ← UInt8.toNat_inj, UInt8.toNat_ofNat']
          simp only [Nat.add_zero]
          omega
      | succ i =>
          have hrest : b.number offset (count + 1) / 256 = b.number (offset + 1) count := by
            rw [number]
            omega
          rw [ofNumber, List.getD_cons_succ, hrest, ih (by omega), Nat.add_right_comm]
          rfl

/-- A number that was written inside the stretch is read back, less what
does not fit into its bytes. -/
theorem number_overwrite_ofNumber {b : Bytes} {offset count : Nat} (n : Nat)
    (h : offset + count ≤ b.size) :
    (b.overwrite offset (ofNumber count n)).number offset count = n % span count := by
  have key : ∀ (k i m : Nat), i + k = count → n / span i = m →
      (b.overwrite offset (ofNumber count n)).number (offset + i) k = m % span k := by
    intro k
    induction k with
    | zero => intro i m _ _; simp [number, span, Nat.mod_one]
    | succ k ih =>
        intro i m hi hm
        have hbyte : ((b.overwrite offset (ofNumber count n)).byteAt (offset + i)).toNat
            = m % 256 := by
          rw [byteAt_overwrite, if_pos (by simp; omega), Nat.add_sub_cancel_left,
            getD_ofNumber (by omega), hm]
        have hrest := ih (i + 1) (m / 256) (by omega)
          (by rw [span, Nat.mul_comm, ← Nat.div_div_eq_div_mul, hm])
        rw [number, hbyte, Nat.add_assoc, hrest, span, Nat.mod_mul]
  simpa using key count 0 n (by omega) (by simp [span])

end Bytes

end PciBus

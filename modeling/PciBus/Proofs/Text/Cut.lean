import Mathlib.Data.List.TakeWhile
import PciBus.Text.Cut

/-!
# Where a text is cut

A text is cut at the last separator where none stands behind it
(`cutLast_eq_some_iff`), and at the first blank where none stands in front
(`cutBlank_eq_some_iff`). There is one place only where it can be cut at a
separator with none in front (`append_sep_inj`). All its pieces are the pieces
before a separator and those behind it (`pieces_append_sep`), so piece `i` is
the one with `i` separators before it (`getElem?_pieces_eq_some_iff`), whatever
the other pieces are (`isPiece_replaced_iff`). Joined with separators they give
the text again, as no other parts do (`pieces_eq_iff`).

A blank cuts a text into its words in the same way (`words_append_blank`), and
so the first word stands behind the first blanks (`words_eq_cons_iff`). A text
that is trimmed has lost the blanks at its ends and nothing else
(`trim_eq_iff`).
-/

namespace PciBus.Text

variable {sep : Char} {p : Char → Bool}

/-! ## One cut -/

theorem cutLast_eq_none_iff {cs : List Char} : cutLast sep cs = none ↔ sep ∉ cs := by
  induction cs with
  | nil => simp [cutLast]
  | cons c cs ih =>
      rw [cutLast]
      cases h : cutLast sep cs with
      | none =>
          have hrest := ih.mp h
          by_cases hc : c = sep
          · simp [hc]
          · simp [hc, hrest, Ne.symm hc]
      | some cut =>
          have hrest : sep ∈ cs := Decidable.of_not_not (mt ih.mpr (by simp [h]))
          simp [hrest]

/-- A text that has the separator is cut at one with none behind it. -/
theorem cutLast_eq_some_iff {cs before after : List Char} :
    cutLast sep cs = some (before, after) ↔ cs = before ++ sep :: after ∧ sep ∉ after := by
  induction cs generalizing before after with
  | nil => simp [cutLast]
  | cons c cs ih =>
      rw [cutLast]
      constructor
      · intro h
        cases hrest : cutLast sep cs with
        | none =>
            simp only [hrest, Option.ite_none_right_eq_some, Option.some.injEq,
              Prod.mk.injEq] at h
            obtain ⟨rfl, rfl, rfl⟩ := h
            exact ⟨rfl, cutLast_eq_none_iff.mp hrest⟩
        | some cut =>
            simp only [hrest, Option.some.injEq, Prod.mk.injEq] at h
            obtain ⟨rfl, rfl⟩ := h
            obtain ⟨rfl, hlast⟩ := ih.mp hrest
            exact ⟨rfl, hlast⟩
      · rintro ⟨heq, hafter⟩
        cases before with
        | nil =>
            obtain ⟨rfl, rfl⟩ := List.cons.inj heq
            rw [cutLast_eq_none_iff.mpr hafter]
            exact if_pos rfl
        | cons b before =>
            obtain ⟨rfl, rfl⟩ := List.cons.inj heq
            rw [ih.mpr ⟨rfl, hafter⟩]

/-- What stands before the first separator and what stands behind it. -/
theorem append_sep_inj {first first' rest rest' : List Char} (h : sep ∉ first)
    (h' : sep ∉ first') (heq : first ++ sep :: rest = first' ++ sep :: rest') :
    first = first' ∧ rest = rest' := by
  have hcut : cutFirst sep (first ++ sep :: rest) = some (first, rest) :=
    cutFirst_eq_some_iff.mpr ⟨rfl, h⟩
  rw [heq, cutFirst_eq_some_iff.mpr ⟨rfl, h'⟩] at hcut
  obtain ⟨rfl, rfl⟩ := Prod.mk.inj (Option.some.inj hcut)
  exact ⟨rfl, rfl⟩

/-- A text is cut at its first blank. -/
theorem cutBlank_eq_some_iff {cs before after : List Char} :
    cutBlank cs = some (before, after) ↔
      ∃ blank, cs = before ++ blank :: after ∧ isBlank blank ∧ ∀ c ∈ before, ¬ isBlank c := by
  induction cs generalizing before with
  | nil => simp [cutBlank]
  | cons c cs ih =>
      rw [cutBlank]
      by_cases hc : isBlank c
      · rw [if_pos hc, Option.some.injEq, Prod.mk.injEq]
        constructor
        · rintro ⟨rfl, rfl⟩
          exact ⟨c, rfl, hc, by simp⟩
        · rintro ⟨blank, heq, -, hbefore⟩
          cases before with
          | nil => exact ⟨rfl, (List.cons.inj heq).2⟩
          | cons b before =>
              obtain ⟨rfl, -⟩ := List.cons.inj heq
              exact absurd hc (hbefore c List.mem_cons_self)
      · rw [if_neg hc]
        constructor
        · intro h
          obtain ⟨⟨first, rest⟩, hcut, hparts⟩ := Option.map_eq_some_iff.mp h
          obtain ⟨rfl, rfl⟩ := Prod.mk.inj hparts
          obtain ⟨blank, rfl, hblank, hfirst⟩ := ih.mp hcut
          exact ⟨blank, rfl, hblank, List.forall_mem_cons.mpr ⟨hc, hfirst⟩⟩
        · rintro ⟨blank, heq, hblank, hbefore⟩
          cases before with
          | nil =>
              obtain ⟨rfl, -⟩ := List.cons.inj heq
              exact absurd hblank hc
          | cons b before =>
              obtain ⟨rfl, rfl⟩ := List.cons.inj heq
              have hrest := (List.forall_mem_cons.mp hbefore).2
              rw [ih.mpr ⟨blank, rfl, hblank, hrest⟩, Option.map_some]

/-! ## All the pieces -/

theorem piecesBy_eq_splitOnP (cs : List Char) : piecesBy p cs = cs.splitOnP p := by
  induction cs with
  | nil => rfl
  | cons c cs ih =>
      rw [List.splitOnP_cons_eq_if_modifyHead, ← ih, piecesBy, List.foldr_cons]
      split
      · rfl
      · cases hpieces : piecesBy p cs with
        | nil => exact absurd (ih.symm.trans hpieces) (List.splitOnP_ne_nil p cs)
        | cons piece rest =>
            rw [piecesBy] at hpieces
            rw [hpieces]
            rfl

theorem piecesBy_ne_nil (cs : List Char) : piecesBy p cs ≠ [] := by
  rw [piecesBy_eq_splitOnP]
  exact List.splitOnP_ne_nil p cs

/-- A character that is not picked goes in front of the first stretch. -/
theorem piecesBy_cons_of_not {c : Char} (hc : ¬ p c) (cs : List Char) :
    ∃ piece rest, piecesBy p cs = piece :: rest ∧ piecesBy p (c :: cs) = (c :: piece) :: rest := by
  obtain ⟨piece, rest, hpieces⟩ := List.exists_cons_of_ne_nil (piecesBy_ne_nil (p := p) cs)
  refine ⟨piece, rest, hpieces, ?_⟩
  rw [piecesBy] at hpieces ⊢
  rw [List.foldr_cons, if_neg hc, hpieces]

/-- A character that is picked ends the stretch before it. -/
theorem piecesBy_append {c : Char} (hc : p c) (before after : List Char) :
    piecesBy p (before ++ c :: after) = piecesBy p before ++ piecesBy p after := by
  simp only [piecesBy_eq_splitOnP]
  exact List.splitOnP_append_cons before after hc

theorem piecesBy_of_forall_not {cs : List Char} (h : ∀ c ∈ cs, ¬ p c) : piecesBy p cs = [cs] := by
  rw [piecesBy_eq_splitOnP]
  exact List.splitOnP_eq_singleton fun c hc => Bool.eq_false_iff.mpr (h c hc)

/-- A separator ends the piece before it. -/
theorem pieces_append_sep (before after : List Char) :
    pieces sep (before ++ sep :: after) = pieces sep before ++ pieces sep after :=
  piecesBy_append (p := (· == sep)) (beq_self_eq_true sep) before after

theorem pieces_of_not_mem {cs : List Char} (h : sep ∉ cs) : pieces sep cs = [cs] := by
  apply piecesBy_of_forall_not
  intro c hc heq
  exact h (eq_of_beq heq ▸ hc)

theorem length_pieces (cs : List Char) : (pieces sep cs).length = cs.count sep + 1 := by
  induction cs with
  | nil => rfl
  | cons c cs ih =>
      by_cases hc : c = sep
      · subst hc
        rw [List.count_cons_self, ← ih]
        exact congrArg List.length (pieces_append_sep [] cs)
      · obtain ⟨piece, rest, hpieces, hcons⟩ :=
          piecesBy_cons_of_not (p := (· == sep)) (by simpa using hc) cs
        rw [pieces, hpieces] at ih
        rw [pieces, hcons, List.count_cons_of_ne hc, ← ih]
        rfl

/-- A stretch of a text begins and ends where the text does or at a
separator. -/
structure Bounded (sep : Char) (before after : List Char) : Prop where
  before : before = [] ∨ before.getLast? = some sep
  after : after = [] ∨ after.head? = some sep

/-- The pieces on both sides of a stretch do not depend on what is in it. -/
theorem Bounded.pieces_eq {before after : List Char} (h : Bounded sep before after) :
    ∃ earlier later, earlier.length = before.count sep ∧ ∀ piece, sep ∉ piece →
      pieces sep (before ++ piece ++ after) = earlier ++ piece :: later := by
  obtain ⟨later, hlater⟩ : ∃ later, ∀ piece, sep ∉ piece →
      pieces sep (piece ++ after) = piece :: later := by
    rcases h.after with rfl | hafter
    · exact ⟨[], fun piece hpiece => by rw [List.append_nil, pieces_of_not_mem hpiece]⟩
    · obtain ⟨rest, rfl⟩ := List.head?_eq_some_iff.mp hafter
      refine ⟨pieces sep rest, fun piece hpiece => ?_⟩
      rw [pieces_append_sep, pieces_of_not_mem hpiece]
      rfl
  rcases h.before with rfl | hbefore
  · exact ⟨[], later, rfl, hlater⟩
  · obtain ⟨first, rfl⟩ := List.getLast?_eq_some_iff.mp hbefore
    refine ⟨pieces sep first, later, ?_, fun piece hpiece => ?_⟩
    · rw [length_pieces, List.count_append, List.count_singleton_self]
    · rw [List.append_assoc, List.append_assoc, List.singleton_append, pieces_append_sep,
        hlater piece hpiece]

/-- Piece `i` of a text has `i` separators before it and goes on to the next
one. -/
def IsPiece (sep : Char) (cs : List Char) (i : Nat) (piece : List Char) : Prop :=
  sep ∉ piece ∧ ∃ before after, cs = before ++ piece ++ after ∧ Bounded sep before after ∧
    before.count sep = i

theorem exists_isPiece {cs : List Char} {i : Nat} (h : i ≤ cs.count sep) :
    ∃ piece, IsPiece sep cs i piece := by
  induction i generalizing cs with
  | zero =>
      cases hcut : cutFirst sep cs with
      | none =>
          exact ⟨cs, cutFirst_eq_none_iff.mp hcut, [], [], by simp, ⟨.inl rfl, .inl rfl⟩, rfl⟩
      | some parts =>
          obtain ⟨piece, rest⟩ := parts
          obtain ⟨rfl, hpiece⟩ := cutFirst_eq_some_iff.mp hcut
          exact ⟨piece, hpiece, [], sep :: rest, rfl, ⟨.inl rfl, .inr rfl⟩, rfl⟩
  | succ i ih =>
      cases hcut : cutFirst sep cs with
      | none =>
          rw [List.count_eq_zero.mpr (cutFirst_eq_none_iff.mp hcut)] at h
          cases h
      | some parts =>
          obtain ⟨first, rest⟩ := parts
          obtain ⟨rfl, hfirst⟩ := cutFirst_eq_some_iff.mp hcut
          rw [List.count_append, List.count_cons_self, List.count_eq_zero.mpr hfirst] at h
          have hrest : i ≤ rest.count sep := by omega
          obtain ⟨piece, hpiece, before, after, rfl, hbounded, hcount⟩ := ih hrest
          refine ⟨piece, hpiece, first ++ sep :: before, after, by simp,
            ⟨.inr ?_, hbounded.after⟩, ?_⟩
          · rcases hbounded.before with rfl | hlast
            · simp
            · rw [List.getLast?_append, List.getLast?_cons, hlast]
              rfl
          · rw [List.count_append, List.count_cons_self, List.count_eq_zero.mpr hfirst, hcount,
              Nat.zero_add]

theorem getElem?_pieces_eq_some_iff {cs piece : List Char} {i : Nat} :
    (pieces sep cs)[i]? = some piece ↔ IsPiece sep cs i piece := by
  have hget : ∀ piece, IsPiece sep cs i piece → (pieces sep cs)[i]? = some piece := by
    rintro piece ⟨hpiece, before, after, rfl, hbounded, rfl⟩
    obtain ⟨earlier, later, hlength, hpieces⟩ := hbounded.pieces_eq
    rw [hpieces piece hpiece, ← hlength, List.getElem?_append_right (Nat.le_refl _), Nat.sub_self]
    rfl
  refine ⟨fun h => ?_, hget piece⟩
  obtain ⟨hlt, -⟩ := List.getElem?_eq_some_iff.mp h
  rw [length_pieces] at hlt
  obtain ⟨other, hother⟩ := exists_isPiece (Nat.le_of_lt_succ hlt)
  obtain rfl := Option.some.inj ((hget other hother).symm.trans h)
  exact hother

instance {cs piece : List Char} {i : Nat} : Decidable (IsPiece sep cs i piece) :=
  decidable_of_iff _ getElem?_pieces_eq_some_iff

/-- The pieces are what has to be joined with separators to give the text. -/
theorem pieces_eq_iff {cs : List Char} {parts : List (List Char)} :
    pieces sep cs = parts ↔
      parts ≠ [] ∧ (∀ part ∈ parts, sep ∉ part) ∧ [sep].intercalate parts = cs := by
  have hsplit : pieces sep cs = cs.splitOn sep := piecesBy_eq_splitOnP cs
  constructor
  · rintro rfl
    refine ⟨piecesBy_ne_nil cs, fun part hpart => ?_, ?_⟩
    · obtain ⟨i, hi⟩ := List.mem_iff_getElem?.mp hpart
      exact (getElem?_pieces_eq_some_iff.mp hi).1
    · rw [hsplit]
      exact List.intercalate_splitOn sep
  · rintro ⟨hne, hparts, rfl⟩
    rw [hsplit]
    exact List.splitOn_intercalate sep hparts hne

/-- What is put in place of one piece is no matter to the others. -/
theorem isPiece_replaced_iff {before after piece piece' : List Char}
    (h : Bounded sep before after) (hpiece : sep ∉ piece) (hpiece' : sep ∉ piece') {i : Nat}
    (hi : i ≠ before.count sep) (other : List Char) :
    IsPiece sep (before ++ piece' ++ after) i other ↔
      IsPiece sep (before ++ piece ++ after) i other := by
  obtain ⟨earlier, later, hlength, hpieces⟩ := h.pieces_eq
  rw [← getElem?_pieces_eq_some_iff, ← getElem?_pieces_eq_some_iff, hpieces piece hpiece,
    hpieces piece' hpiece']
  rcases Nat.lt_or_ge i earlier.length with hlt | hge
  · rw [List.getElem?_append_left hlt, List.getElem?_append_left hlt]
  · rw [List.getElem?_append_right hge, List.getElem?_append_right hge,
      List.getElem?_cons, List.getElem?_cons, if_neg (by omega), if_neg (by omega)]

/-! ## Lines -/

/-- What is made of the lines is made of the pieces between line feeds, if
neither a carriage return at the end of a line matters nor an empty line. -/
theorem getD_map_lines {α : Type} {f : List Char → α} (hreturn : ∀ row, f (dropReturn row) = f row)
    (cs : List Char) (i : Nat) :
    ((lines cs).map f).getD i (f []) = ((pieces '\n' cs)[i]?.map f).getD (f []) := by
  obtain ⟨rows, last, hrows⟩ : ∃ rows last, pieces '\n' cs = rows ++ [last] :=
    ⟨_, _, (List.dropLast_concat_getLast (piecesBy_ne_nil cs)).symm⟩
  have hlines : (lines cs).map f = rows.map f ++ (if last = [] then [] else [f last]) := by
    have hsame : rows.map (f ∘ dropReturn) = rows.map f :=
      List.map_congr_left fun row _ => hreturn row
    rw [lines, hrows, List.dropLast_concat, List.getLast?_concat, List.map_append, List.map_map,
      hsame]
    cases last <;> rfl
  rw [hlines, hrows, List.getD_eq_getElem?_getD]
  rcases Nat.lt_or_ge i rows.length with hi | hi
  · rw [List.getElem?_append_left (by rwa [List.length_map]), List.getElem?_map,
      List.getElem?_append_left hi]
  · rw [List.getElem?_append_right (by rwa [List.length_map]), List.getElem?_append_right hi,
      List.length_map]
    by_cases hlast : last = []
    · subst hlast
      cases i - rows.length <;> rfl
    · rw [if_neg hlast]
      cases i - rows.length <;> rfl

/-! ## Words -/

/-- Something without a blank. -/
def IsWord (word : List Char) : Prop := word ≠ [] ∧ ∀ c ∈ word, ¬ isBlank c

theorem words_append_blank {blank : Char} (hblank : isBlank blank) (before after : List Char) :
    words (before ++ blank :: after) = words before ++ words after := by
  rw [words, piecesBy_append hblank, List.filter_append]
  rfl

theorem words_of_isWord {word : List Char} (h : IsWord word) : words word = [word] := by
  rw [words, piecesBy_of_forall_not h.2]
  simp [h.1]

theorem words_append_of_blanks {blanks : List Char} (h : ∀ c ∈ blanks, isBlank c)
    (cs : List Char) : words (blanks ++ cs) = words cs := by
  induction blanks with
  | nil => rfl
  | cons blank blanks ih =>
      obtain ⟨hblank, hblanks⟩ := List.forall_mem_cons.mp h
      exact (words_append_blank hblank [] (blanks ++ cs)).trans (ih hblanks)

theorem exists_span (p : Char → Bool) (cs : List Char) :
    ∃ front rest, cs = front ++ rest ∧ (∀ c ∈ front, p c) ∧ ∀ c ∈ rest.head?, ¬ p c := by
  refine ⟨cs.takeWhile p, cs.dropWhile p, List.takeWhile_append_dropWhile.symm,
    fun c => List.mem_takeWhile_imp, fun c hc => ?_⟩
  have hhead := List.head?_dropWhile_not p cs
  rw [Option.mem_def.mp hc] at hhead
  simpa using hhead

/-- The first word of a text stands behind its first blanks and goes on to the
next. -/
theorem words_eq_cons_iff {cs word : List Char} {more : List (List Char)} :
    words cs = word :: more ↔
      ∃ blanks rest, cs = blanks ++ word ++ rest ∧ (∀ c ∈ blanks, isBlank c) ∧ IsWord word ∧
        (∀ c ∈ rest.head?, isBlank c) ∧ words rest = more := by
  have hcut : ∀ {blanks word rest : List Char}, (∀ c ∈ blanks, isBlank c) → IsWord word →
      (∀ c ∈ rest.head?, isBlank c) → words (blanks ++ word ++ rest) = word :: words rest := by
    intro blanks word rest hblanks hword hrest
    rw [List.append_assoc, words_append_of_blanks hblanks]
    cases rest with
    | nil => rw [List.append_nil, words_of_isWord hword]; rfl
    | cons blank rest =>
        have hblank : isBlank blank := hrest blank rfl
        rw [words_append_blank hblank, words_of_isWord hword]
        exact congrArg (word :: ·) (words_append_blank hblank [] rest).symm
  constructor
  · intro h
    obtain ⟨blanks, behind, rfl, hblanks, hbehind⟩ := exists_span isBlank cs
    obtain ⟨first, rest, rfl, hfirst, hrest⟩ := exists_span (!isBlank ·) behind
    rw [words_append_of_blanks hblanks] at h
    have hword : IsWord first := by
      refine ⟨?_, fun c hc => by simpa using hfirst c hc⟩
      rintro rfl
      cases rest with
      | nil => cases h
      | cons c rest => exact hbehind c rfl (by simpa using hrest c rfl)
    have hblank : ∀ c ∈ rest.head?, isBlank c := fun c hc => by simpa using hrest c hc
    have hfront : words ([] ++ first ++ rest) = first :: words rest := hcut (by simp) hword hblank
    obtain ⟨rfl, hmore⟩ := List.cons.inj (hfront.symm.trans h)
    exact ⟨blanks, rest, (List.append_assoc _ _ _).symm, hblanks, hword, hblank, hmore⟩
  · rintro ⟨blanks, rest, rfl, hblanks, hword, hrest, rfl⟩
    exact hcut hblanks hword hrest

/-! ## Blank ends -/

/-- What is left of a text without the blanks at its two ends. -/
structure IsTrimmed (cs core : List Char) : Prop where
  within : ∃ front back, cs = front ++ core ++ back ∧ (∀ c ∈ front, isBlank c) ∧
    ∀ c ∈ back, isBlank c
  first : ∀ c ∈ core.head?, ¬ isBlank c
  last : ∀ c ∈ core.getLast?, ¬ isBlank c

theorem dropWhile_blanks {blanks cs : List Char} (h : ∀ c ∈ blanks, isBlank c)
    (hfirst : ∀ c ∈ cs.head?, ¬ isBlank c) : (blanks ++ cs).dropWhile isBlank = cs := by
  rw [List.dropWhile_append_of_pos h]
  cases cs with
  | nil => rfl
  | cons c cs => exact List.dropWhile_cons_of_neg (hfirst c rfl)

theorem isTrimmed_trim (cs : List Char) : IsTrimmed cs (trim cs) := by
  obtain ⟨front, rest, rfl, hfront, hrest⟩ := exists_span isBlank cs
  obtain ⟨back, core, hcut, hback, hlast⟩ := exists_span isBlank rest.reverse
  obtain rfl : rest = core.reverse ++ back.reverse := by
    rw [← List.reverse_append, ← hcut, List.reverse_reverse]
  have htrim : trim (front ++ (core.reverse ++ back.reverse)) = core.reverse := by
    rw [trim, dropWhile_blanks hfront hrest, List.reverse_append, List.reverse_reverse,
      List.reverse_reverse, dropWhile_blanks hback hlast]
  rw [htrim]
  refine ⟨⟨front, back.reverse, (List.append_assoc _ _ _).symm, hfront, by simpa using hback⟩,
    fun c hc => hrest c ?_, fun c hc => hlast c ?_⟩
  · rw [Option.mem_def] at hc ⊢
    rw [List.head?_append, hc]
    rfl
  · rwa [List.getLast?_reverse] at hc

theorem trim_eq_iff {cs core : List Char} : trim cs = core ↔ IsTrimmed cs core := by
  constructor
  · rintro rfl
    exact isTrimmed_trim cs
  · rintro ⟨⟨front, back, rfl, hfront, hback⟩, hfirst, hlast⟩
    rw [← List.head?_reverse] at hlast
    have hback' : ∀ c ∈ back.reverse, isBlank c := by simpa using hback
    cases core with
    | nil =>
        -- there are only blanks, and all are in front
        have hall : ∀ c ∈ front ++ [] ++ back, isBlank c := by
          simpa using fun c hc => hc.elim (hfront c) (hback c)
        rw [trim, ← List.append_nil (front ++ [] ++ back), dropWhile_blanks hall (by simp)]
        rfl
    | cons c core =>
        have hrest : ∀ d ∈ (c :: core ++ back).head?, ¬ isBlank d := hfirst
        rw [trim, List.append_assoc, dropWhile_blanks hfront hrest, List.reverse_append,
          dropWhile_blanks hback' hlast, List.reverse_reverse]

instance {cs core : List Char} : Decidable (IsTrimmed cs core) :=
  decidable_of_iff _ trim_eq_iff

end PciBus.Text

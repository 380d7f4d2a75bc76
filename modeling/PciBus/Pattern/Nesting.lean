import PciBus.Pattern.Finding

/-!
# Nesting

How deep the parts of a pattern lie in one another. A pattern may only go so
deep, and what is too deep is marked where it first occurs. So a part is kept
as the stretch it covers and, for each depth, the first stretch that lies
that deep in it.

- `Part.length_besides`: neighbours go as deep as the deeper one.
- `Part.length_levels_holding`: what holds parts goes one deeper than they do.
-/

namespace PciBus

namespace Pattern

/-- A part of a pattern. -/
structure Part where
  place : Stretch
  /-- The first stretch at each depth, from the outside inwards. A character,
  or anything else that cannot hold parts, has no depth. -/
  levels : List Stretch := []
  deriving DecidableEq, Repr

namespace Part

/-- The first stretches of two neighbours. -/
def besides (levels later : List Stretch) : List Stretch := levels ++ later.drop levels.length

/-- What holds parts, from left to right. -/
def holding (place : Stretch) (parts : List Part) : Part where
  place := place
  levels := place :: parts.foldl (fun levels part => besides levels part.levels) []

/-- Parts that follow each other. A single one is not held by anything. -/
def inRow (place : Stretch) : List Part → Part
  | [] => { place := place }
  | [part] => part
  | parts => holding place parts

/-- What is wrong with a part that goes too deep. -/
def tooDeep? (part : Part) : Option Finding :=
  part.levels[nestLimit]?.map fun place => ⟨.tooDeep, place, none⟩

/-! ## Depth -/

theorem length_besides (levels later : List Stretch) :
    (besides levels later).length = max levels.length later.length := by
  simp only [besides, List.length_append, List.length_drop]
  omega

theorem length_foldl_besides (levels : List Stretch) (parts : List Part) :
    (parts.foldl (fun levels part => besides levels part.levels) levels).length =
      parts.foldl (fun depth part => max depth part.levels.length) levels.length := by
  induction parts generalizing levels with
  | nil => rfl
  | cons part parts ih => simp only [List.foldl_cons, ih, length_besides]

theorem length_levels_holding (place : Stretch) (parts : List Part) :
    (holding place parts).levels.length =
      parts.foldl (fun depth part => max depth part.levels.length) 0 + 1 := by
  simp only [holding, List.length_cons, length_foldl_besides, List.length_nil]

/-- A part is too deep exactly if it has more levels than a pattern may. -/
theorem tooDeep?_eq_none_iff {part : Part} :
    part.tooDeep? = none ↔ part.levels.length ≤ nestLimit := by
  simp [tooDeep?]

end Part

end Pattern

end PciBus

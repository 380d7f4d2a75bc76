import PciBus.Proofs.Scan.Listing
import PciBus.Proofs.Text.Numeral

/-!
# Resource tables

Line `i` of a resource table is about region `i`: the six BARs come first and
the ROM follows. A line that begins with two addresses spans a region, both
ends included (`ResourceTable.Spans`); any other line says nothing. So the size
of a region is decided by its own line, and by the place of that line in the
text, which no other line can shift (`ResourceTable.Declares`).

Sizes have 64 bits. That is one too few for the region of all addresses and
enough for every other (`ResourceTable.size_lt_iff`). What a scan has recorded
of a function is then read off the text of its table (`Scan.sizes_by_line`);
without a text the function is recorded all the same.
-/

namespace PciBus

open Text

namespace ResourceTable

/-! ## Lines -/

/-- A hexadecimal number of 64 bits, with `0x` in front of it or not. As in
every number, one plus sign may stand before the first digit. -/
def IsAddress (field : List Char) (n : Nat) : Prop :=
  n < UInt64.size ∧ ∃ digits, Spells n digits ∧
    (field = digits ∨ field = '+' :: digits ∨
      field = '0' :: 'x' :: digits ∨ field = '0' :: 'x' :: '+' :: digits)

/-- The first two words of a line. -/
def Begins (line first second : List Char) : Prop :=
  ∃ blanks gap rest, line = blanks ++ first ++ (gap ++ second ++ rest) ∧
    (∀ c ∈ blanks, isBlank c) ∧ IsWord first ∧
    gap ≠ [] ∧ (∀ c ∈ gap, isBlank c) ∧ IsWord second ∧ ∀ c ∈ rest.head?, isBlank c

/-- A line begins with the first and the last address of a region. -/
def Spans (line : List Char) (first last : Nat) : Prop :=
  ∃ start stop, Begins line start stop ∧ IsAddress start first ∧ IsAddress stop last

theorem readAddress?_eq_some_iff {field : List Char} {n : Nat} :
    readAddress? field = some n ↔ IsAddress field n := by
  unfold readAddress? IsAddress
  split
  · rename_i digits
    rw [readHex?_eq_some_iff (by decide)]
    refine and_congr_right fun hn => exists_congr fun spelled => ?_
    constructor
    · rintro ⟨rfl | rfl, hspells⟩
      · exact ⟨hspells, .inr (.inr (.inl rfl))⟩
      · exact ⟨hspells, .inr (.inr (.inr rfl))⟩
    · rintro ⟨hspells, rfl | hplus | heq | heq⟩
      · exact absurd (by simp) (hspells.not_mem (c := 'x') (by decide))
      · cases hplus
      · cases heq
        exact ⟨.inl rfl, hspells⟩
      · cases heq
        exact ⟨.inr rfl, hspells⟩
  · rename_i hmark
    rw [readHex?_eq_some_iff (by decide)]
    refine and_congr_right fun hn => exists_congr fun spelled => ?_
    constructor
    · rintro ⟨heq | heq, hspells⟩
      · exact ⟨hspells, .inl heq⟩
      · exact ⟨hspells, .inr (.inl heq)⟩
    · rintro ⟨hspells, heq | heq | heq | heq⟩
      · exact ⟨.inl heq, hspells⟩
      · exact ⟨.inr heq, hspells⟩
      · exact absurd heq (hmark _)
      · exact absurd heq (hmark _)

theorem words_eq_cons_cons_iff {line first second : List Char} :
    (∃ more, words line = first :: second :: more) ↔ Begins line first second := by
  constructor
  · rintro ⟨more, h⟩
    obtain ⟨blanks, behind, rfl, hblanks, hfirst, hbehind, h⟩ := words_eq_cons_iff.mp h
    obtain ⟨gap, rest, rfl, hgap, hsecond, hrest, -⟩ := words_eq_cons_iff.mp h
    refine ⟨blanks, gap, rest, rfl, hblanks, hfirst, ?_, hgap, hsecond, hrest⟩
    -- without a gap the first word would go on
    rintro rfl
    obtain ⟨c, second, rfl⟩ := List.exists_cons_of_ne_nil hsecond.1
    exact hsecond.2 c List.mem_cons_self (hbehind c rfl)
  · rintro ⟨blanks, gap, rest, rfl, hblanks, hfirst, hne, hgap, hsecond, hrest⟩
    refine ⟨words rest, words_eq_cons_iff.mpr
      ⟨blanks, gap ++ second ++ rest, rfl, hblanks, hfirst, ?_,
        words_eq_cons_iff.mpr ⟨gap, rest, rfl, hgap, hsecond, hrest, rfl⟩⟩⟩
    obtain ⟨blank, gap, rfl⟩ := List.exists_cons_of_ne_nil hne
    rintro c ⟨⟩
    exact hgap blank List.mem_cons_self

variable {line : List Char} {first last : Nat}

/-- The region that a line spans, if it does. -/
def region? (line : List Char) : Option (Nat × Nat) :=
  match words line with
  | start :: stop :: _ =>
      (readAddress? start).bind fun first => (readAddress? stop).map fun last => (first, last)
  | _ => none

theorem region?_eq_some_iff : region? line = some (first, last) ↔ Spans line first last := by
  have hread : ∀ {start stop more}, words line = start :: stop :: more →
      (region? line = some (first, last) ↔
        readAddress? start = some first ∧ readAddress? stop = some last) := by
    intro start stop more hwords
    simp only [region?, hwords, Option.bind_eq_some_iff, Option.map_eq_some_iff, Prod.mk.injEq]
    constructor
    · rintro ⟨_, hfirst, _, hlast, rfl, rfl⟩
      exact ⟨hfirst, hlast⟩
    · rintro ⟨hfirst, hlast⟩
      exact ⟨first, hfirst, last, hlast, rfl, rfl⟩
  simp only [Spans, ← readAddress?_eq_some_iff, ← words_eq_cons_cons_iff]
  constructor
  · intro h
    obtain ⟨start, stop, more, hwords⟩ : ∃ start stop more, words line = start :: stop :: more := by
      unfold region? at h
      split at h
      · exact ⟨_, _, _, ‹_›⟩
      · cases h
    exact ⟨start, stop, ⟨more, hwords⟩, (hread hwords).mp h⟩
  · rintro ⟨start, stop, ⟨more, hwords⟩, h⟩
    exact (hread hwords).mpr h

instance : Decidable (Spans line first last) := decidable_of_iff _ region?_eq_some_iff

/-- A line spans one region. -/
theorem Spans.unique {first' last' : Nat} (h : Spans line first last)
    (h' : Spans line first' last') : first = first' ∧ last = last' := by
  have hsame := (region?_eq_some_iff.mpr h).symm.trans (region?_eq_some_iff.mpr h')
  exact Prod.mk.inj (Option.some.inj hsame)

theorem Spans.lt_size (h : Spans line first last) : last < UInt64.size := by
  obtain ⟨start, stop, -, -, hlast⟩ := h
  exact hlast.1

/-- The size of a region fits, unless all addresses are in it. -/
theorem size_lt_iff (h : Spans line first last) (hlt : first < last) :
    last - first + 1 < UInt64.size ↔ ¬ (first = 0 ∧ last = UInt64.size - 1) := by
  have hlast := h.lt_size
  omega

theorem regionSize_eq (line : List Char) :
    regionSize line = ((region? line).map fun (first, last) =>
      if first < last then .ofNat (last - first + 1) else 0).getD 0 := by
  unfold regionSize region?
  cases words line with
  | nil => rfl
  | cons start behind =>
      cases behind with
      | nil => rfl
      | cons stop more =>
          cases hfirst : readAddress? start with
          | none => simp only [hfirst]; rfl
          | some first =>
              cases hlast : readAddress? stop with
              | none => simp only [hfirst, hlast]; rfl
              | some last => simp only [hfirst, hlast]; rfl

theorem regionSize_of_spans (h : Spans line first last) :
    regionSize line = if first < last then .ofNat (last - first + 1) else 0 := by
  rw [regionSize_eq, region?_eq_some_iff.mpr h]
  rfl

theorem regionSize_of_not_spans (h : ∀ first last, ¬ Spans line first last) :
    regionSize line = 0 := by
  cases hregion : region? line with
  | none => rw [regionSize_eq, hregion]; rfl
  | some region => exact absurd (region?_eq_some_iff.mp hregion) (h _ _)

/-- A carriage return is a blank. -/
theorem regionSize_dropReturn (line : List Char) :
    regionSize (dropReturn line) = regionSize line := by
  have hwords : words (dropReturn line) = words line := by
    unfold dropReturn
    split
    · rename_i hlast
      obtain ⟨before, rfl⟩ := List.getLast?_eq_some_iff.mp hlast
      rw [List.dropLast_concat, words_append_blank (by decide)]
      exact (List.append_nil (words before)).symm
    · rfl
  unfold regionSize
  rw [hwords]

/-! ## Tables -/

/-- No line spans all addresses. -/
def Fits (table : List Char) : Prop :=
  ∀ i line, IsPiece '\n' table i line → ¬ Spans line 0 (UInt64.size - 1)

theorem Fits.size_lt {table : List Char} (h : Fits table) {i : Nat}
    (hline : IsPiece '\n' table i line) (hspans : Spans line first last) (hlt : first < last) :
    last - first + 1 < UInt64.size := by
  rw [size_lt_iff hspans hlt]
  rintro ⟨rfl, rfl⟩
  exact h i line hline hspans

/-- What a table declares for region `i`: the size of the region that line `i`
spans, and zero if there is no such line, if it spans nothing or if its last
address does not come after the first. -/
structure Declares (table : List Char) (i : Nat) (size : UInt64) : Prop where
  spanned : ∀ line first last, IsPiece '\n' table i line → Spans line first last → first < last →
    size.toNat = last - first + 1
  empty : (∀ line first last, IsPiece '\n' table i line → Spans line first last → last ≤ first) →
    size = 0

theorem getD_regionSizes (table : String) (i : Nat) :
    (regionSizes table).getD i 0 =
      ((pieces '\n' table.toList)[i]?.map regionSize).getD 0 :=
  getD_map_lines regionSize_dropReturn table.toList i

theorem declares_getD {table : String} (h : Fits table.toList) (i : Nat) :
    Declares table.toList i ((regionSizes table).getD i 0) := by
  rw [getD_regionSizes]
  constructor
  · intro line first last hline hspans hlt
    rw [getElem?_pieces_eq_some_iff.mpr hline, Option.map_some, Option.getD_some,
      regionSize_of_spans hspans, if_pos hlt,
      UInt64.toNat_ofNat_of_lt' (h.size_lt hline hspans hlt)]
  · intro hnone
    cases hline : (pieces '\n' table.toList)[i]? with
    | none => rfl
    | some line =>
        have hline := getElem?_pieces_eq_some_iff.mp hline
        rw [Option.map_some, Option.getD_some]
        by_cases hspans : ∃ first last, Spans line first last
        · obtain ⟨first, last, hspans⟩ := hspans
          have hle := hnone line first last hline hspans
          rw [regionSize_of_spans hspans, if_neg (Nat.not_lt.mpr hle)]
        · exact regionSize_of_not_spans fun first last h => hspans ⟨first, last, h⟩

/-- Two tables have the same line `i`, or neither has one. -/
def SameLine (table other : List Char) (i : Nat) : Prop :=
  ∀ line, IsPiece '\n' other i line ↔ IsPiece '\n' table i line

theorem SameLine.getD_eq {table other : String} {i : Nat}
    (h : SameLine table.toList other.toList i) :
    (regionSizes other).getD i 0 = (regionSizes table).getD i 0 := by
  rw [getD_regionSizes, getD_regionSizes]
  have hsame : (pieces '\n' other.toList)[i]? = (pieces '\n' table.toList)[i]? := by
    ext line
    rw [getElem?_pieces_eq_some_iff, getElem?_pieces_eq_some_iff, h line]
  rw [hsame]

end ResourceTable

/-! ## Records -/

/-- The declared size of a region: those of the BARs, and that of the ROM
behind them. -/
def Record.declaredSize (record : Record) (i : Nat) : UInt64 :=
  if h : i < 6 then record.sizes[i] else record.romSize

namespace Scan

open ResourceTable

variable {files : Files} {root name : String} {listing : List String} {l : Location}
  {config : Bytes} {record : Record}

/-- The resource table of an entry. -/
def tableOf (root name : String) : String := Files.join (Files.join root name) "resource"

/-- The sizes in the table of an entry, line by line; none without a text. -/
def sizesOf (files : Files) (root name : String) : List UInt64 :=
  match files.readText (tableOf root name) with
  | .ok table => regionSizes table
  | .error _ => []

theorem sizesOf_text {table : String} (h : files.readText (tableOf root name) = .ok table) :
    sizesOf files root name = regionSizes table := by
  rw [sizesOf, h]

/-- The record with these sizes; everything else in it is from config space. -/
def recordWith (l : Location) (config : Bytes) (sizes : List UInt64) : Record :=
  .ofConfig l config (romRegister (config.byteAt Register.headerType.toNat))
    (.ofFn fun i => sizes.getD i 0) (sizes.getD barCount 0)

theorem declaredSize_recordWith (l : Location) (config : Bytes) (sizes : List UInt64) {i : Nat}
    (hi : i < 7) : (recordWith l config sizes).declaredSize i = sizes.getD i 0 := by
  unfold Record.declaredSize
  split
  · exact Vector.getElem_ofFn _
  · obtain rfl : i = barCount := by
      have hcount : barCount = 6 := rfl
      omega
    rfl

/-- Config space that answers: it has a whole header, and its vendor number is
not all ones. -/
structure Answering (config : Bytes) : Prop where
  long : headerSize ≤ config.size
  vendor : config.number Register.vendor.toNat 2 ≠ 0xffff

/-- An entry whose config space answers gives a record, with a table or
without. -/
theorem recordOf?_answering (hname : Location.ofName? name = some l)
    (hconfig : files.readBytes (configOf root name) = .ok config) (hanswers : Answering config) :
    recordOf? files root name = some (recordWith l config (sizesOf files root name)) := by
  have hsizes : (readSizes files (Files.join root name) l).result =
      .ok (sizesOf files root name) := by
    unfold readSizes sizesOf tableOf
    cases files.readText (Files.join (Files.join root name) "resource") with
    | ok table => rfl
    | error e => rfl
  rw [recordOf?, hname, Option.bind_some, toOption_join_eq_some_iff, readFunction]
  rw [configOf] at hconfig
  simp only [hconfig, if_neg (Nat.not_lt.mpr hanswers.long), if_neg hanswers.vendor,
    Logged.result_bind, hsizes, Except.bind, Logged.result_pure]
  rfl

/-- What the record of an entry says about the sizes of its regions. -/
structure Sized (files : Files) (root name : String) (l : Location) (config : Bytes)
    (record : Record) : Prop where
  /-- Everything else is from config space. -/
  others : ∃ sizes romSize, record =
    .ofConfig l config (romRegister (config.byteAt Register.headerType.toNat)) sizes romSize
  untabled : ∀ e, files.readText (tableOf root name) = .error e →
    ∀ i < 7, record.declaredSize i = 0
  /-- No size is too large to be computed. -/
  computed : ∀ table, files.readText (tableOf root name) = .ok table → Fits table.toList →
    ∀ i line first last, IsPiece '\n' table.toList i line → Spans line first last →
    first < last → last - first + 1 < UInt64.size
  declared : ∀ table, files.readText (tableOf root name) = .ok table → Fits table.toList →
    ∀ i < 7, Declares table.toList i (record.declaredSize i)
  /-- Where config space and the line of a region are the same, so is its
  size; where the first seven lines are, so is the record. -/
  own : ∀ other record' table table', files.readText (tableOf root name) = .ok table →
    Files.readText other (tableOf root name) = .ok table' →
    other.readBytes (configOf root name) = .ok config → recordOf? other root name = some record' →
    (∀ i < 7, SameLine table.toList table'.toList i →
      record'.declaredSize i = record.declaredSize i) ∧
    ((∀ i < 7, SameLine table.toList table'.toList i) → record' = record)
  /-- Whatever is put in place of a line, the others stay where they are. -/
  unshifted : ∀ table before line line' after, files.readText (tableOf root name) = .ok table →
    table.toList = before ++ line ++ after → Bounded '\n' before after → '\n' ∉ line →
    '\n' ∉ line' → ∀ i ≠ before.count '\n', SameLine table.toList (before ++ line' ++ after) i

/-- A record is made of config space and seven sizes. -/
theorem recordWith_congr {sizes sizes' : List UInt64}
    (h : ∀ i < 7, sizes'.getD i 0 = sizes.getD i 0) :
    recordWith l config sizes' = recordWith l config sizes := by
  have hbars : (Vector.ofFn fun i : Fin 6 => sizes'.getD i 0) = .ofFn fun i => sizes.getD i 0 := by
    ext i hi
    rw [Vector.getElem_ofFn, Vector.getElem_ofFn, h i (by omega)]
  rw [recordWith, recordWith, hbars, h barCount (by decide)]

theorem sized_recordWith (hname : Location.ofName? name = some l) (hanswers : Answering config) :
    Sized files root name l config (recordWith l config (sizesOf files root name)) where
  others := ⟨_, _, rfl⟩
  untabled := by
    intro e hread i hi
    rw [declaredSize_recordWith l config _ hi, sizesOf, hread]
    rfl
  computed := by
    intro table _ hfits i line first last hline hspans hlt
    exact hfits.size_lt hline hspans hlt
  declared := by
    intro table hread hfits i hi
    rw [declaredSize_recordWith l config _ hi, sizesOf_text hread]
    exact declares_getD hfits i
  own := by
    intro other record' table table' hread hread' hconfig' hrecord'
    rw [recordOf?_answering hname hconfig' hanswers] at hrecord'
    obtain rfl := Option.some.inj hrecord'
    rw [sizesOf_text hread, sizesOf_text hread']
    constructor
    · intro i hi hsame
      rw [declaredSize_recordWith l config _ hi, declaredSize_recordWith l config _ hi]
      exact hsame.getD_eq
    · intro hsame
      exact recordWith_congr fun i hi => (hsame i hi).getD_eq
  unshifted := by
    intro table before line line' after _ htable hbounded hline hline' i hi other
    rw [htable]
    exact isPiece_replaced_iff hbounded hline hline' hi other

/-- **Sizes go by their lines.** In whatever order a root is listed, an entry
whose config space answers is recorded, whether or not its resource table can
be read as text. Without a text all its sizes are zero. With a text in which no
line spans all addresses, the size of region `i` is what line `i` declares, and
nothing else in the table makes a difference to it. -/
theorem sizes_by_line (hlisted : name ∈ listing) (hname : Location.ofName? name = some l)
    (hconfig : files.readBytes (configOf root name) = .ok config) (hanswers : Answering config) :
    ∃ scan record, (ofListing files root listing).result = .ok scan ∧ record ∈ scan.records ∧
      recordOf? files root name = some record ∧ Sized files root name l config record := by
  have hrecord := recordOf?_answering hname hconfig hanswers
  refine ⟨_, _, ofListing_eq files root listing, ?_, hrecord,
    sized_recordWith hname hanswers⟩
  rw [(inBusOrder_perm _).mem_iff, found_eq_filterMap, List.mem_filterMap]
  exact ⟨name, hlisted, hrecord⟩

/-- A table with lines that declare nothing among those that do. -/
def patchyTable : String :=
  "0xe000 0xe0ff 0x40101\n0xf000\n\nfe000000\tFE7FFFFF\r\n0x2000 0x1000 0\n" ++
    "  0x0 0xfffffffffffffffe 0\n0xc0000 0xc07ff\n0x0 0x5 0\n"

def patchyTree : Files :=
  (({} : Files).put "0000:00:02.0/config" (header [0x86, 0x80] 0 [0, 0, 0, 0])).put
    "0000:00:02.0/resource" patchyTable.toUTF8.data

theorem patchyTree_table :
    patchyTree.readText (tableOf "/" "0000:00:02.0") = .ok patchyTable := by
  decide +kernel

theorem patchyTable_pieces : pieces '\n' patchyTable.toList =
    ["0xe000 0xe0ff 0x40101", "0xf000", "", "fe000000\tFE7FFFFF\r", "0x2000 0x1000 0",
      "  0x0 0xfffffffffffffffe 0", "0xc0000 0xc07ff", "0x0 0x5 0", ""].map String.toList := by
  decide +kernel

theorem patchyTable_fits : Fits patchyTable.toList := by
  have hall : ∀ line ∈ pieces '\n' patchyTable.toList,
      region? line ≠ some (0, UInt64.size - 1) := by
    rw [patchyTable_pieces]
    decide +kernel
  intro i line hline hspans
  exact hall line (List.mem_of_getElem? (getElem?_pieces_eq_some_iff.mpr hline))
    (region?_eq_some_iff.mpr hspans)

/-- The fourth line keeps its place behind two that declare nothing, and the ROM
its size behind another. -/
theorem patchyTree_sized :
    ∃ scan record, (ofListing patchyTree "/" ["0000:00:02.0"]).result = .ok scan ∧
      record ∈ scan.records ∧ (record.declaredSize 3).toNat = 0x800000 ∧
      record.declaredSize 4 = 0 ∧ (record.declaredSize 5).toNat = UInt64.size - 1 ∧
      (record.declaredSize 6).toNat = 0x800 := by
  have hconfig : patchyTree.readBytes (configOf "/" "0000:00:02.0") =
      .ok (header [0x86, 0x80] 0 [0, 0, 0, 0]) := by rfl
  have hname : Location.ofName? "0000:00:02.0" = some ⟨0, 0, 2, 0⟩ := by rfl
  obtain ⟨scan, record, hscan, hmem, -, hsized⟩ :=
    sizes_by_line (List.mem_singleton.mpr rfl) hname hconfig ⟨by decide, by decide⟩
  have hdeclared := hsized.declared patchyTable patchyTree_table patchyTable_fits
  have hline : ∀ {i line}, (pieces '\n' patchyTable.toList)[i]? = some line →
      IsPiece '\n' patchyTable.toList i line := getElem?_pieces_eq_some_iff.mp
  rw [patchyTable_pieces] at hline
  refine ⟨scan, record, hscan, hmem, ?_, ?_, ?_, ?_⟩
  · exact (hdeclared 3 (by decide)).spanned "fe000000\tFE7FFFFF\r".toList 0xfe000000 0xfe7fffff
      (hline rfl) (by decide +kernel) (by decide)
  · apply (hdeclared 4 (by decide)).empty
    intro line first last hfifth hspans
    rw [← getElem?_pieces_eq_some_iff, patchyTable_pieces] at hfifth
    obtain rfl : "0x2000 0x1000 0".toList = line := Option.some.inj hfifth
    have hregion : Spans "0x2000 0x1000 0".toList 0x2000 0x1000 := by decide +kernel
    obtain ⟨rfl, rfl⟩ := hregion.unique hspans
    decide
  · exact (hdeclared 5 (by decide)).spanned "  0x0 0xfffffffffffffffe 0".toList 0 0xfffffffffffffffe
      (hline rfl) (by decide +kernel) (by decide)
  · exact (hdeclared 6 (by decide)).spanned "0xc0000 0xc07ff".toList 0xc0000 0xc07ff
      (hline rfl) (by decide +kernel) (by decide)

end Scan

end PciBus

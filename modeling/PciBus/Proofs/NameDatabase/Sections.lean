import PciBus.NameDatabase
import PciBus.Proofs.Text.Cut
import PciBus.Proofs.Text.Numeral

/-!
# The sections of a name database

The lines that count are those in front of the device classes that are neither
empty, nor remarks, nor about subsystems (`vendorLines`). A header has no tab in
front, and the lines with a tab behind it, up to the next header, are its
devices. So the lines fall into sections in one way (`Divides`), behind those
which have no header at all.

Reading keeps a section exactly if its header is an entry
(`vendors_of_divides`), with those of its devices that are entries. Looking up
takes the last section of a vendor and the last line of a device in it
(`lookup_declared`).
-/

namespace PciBus.NameDatabase

open Text

/-! ## Entries -/

/-- A word of four bytes that reads as a number of 16 bits, a blank and the
name, with blanks around it perhaps. -/
def IsEntry (line : List Char) (id : UInt16) (name : String) : Prop :=
  ∃ word blank rest, line = word ++ blank :: rest ∧ isBlank blank ∧ (∀ c ∈ word, ¬ isBlank c) ∧
    (String.ofList word).utf8ByteSize = 4 ∧ readHex? 0x10000 word = some id.toNat ∧
    name = String.ofList (trim rest)

theorem utf8ByteSize_of_ascii {cs : List Char} (h : ∀ c ∈ cs, c.toNat < 128) :
    (String.ofList cs).utf8ByteSize = cs.length := by
  induction cs with
  | nil => rfl
  | cons c cs ih =>
      obtain ⟨hc, hcs⟩ := List.forall_mem_cons.mp h
      have hone : c.utf8Size = 1 := Char.utf8Size_eq_one_iff.mpr (Nat.le_of_lt_succ hc)
      rw [String.ofList_cons, String.utf8ByteSize_append, String.utf8ByteSize_singleton, hone,
        ih hcs, List.length_cons, Nat.add_comm]

/-- Numerals are in ASCII. -/
theorem ascii_of_readHex? {bound n : Nat} {cs : List Char} (hbound : 0 < bound)
    (h : readHex? bound cs = some n) : ∀ c ∈ cs, c.toNat < 128 := by
  intro c hc
  rcases Nat.lt_or_ge c.toNat 128 with hsmall | hlarge
  · exact hsmall
  · have hplus : c ≠ '+' := by
      rintro rfl
      exact absurd hlarge (by decide)
    exact absurd hc (not_mem_of_readHex? hbound h (digitValue?_of_large hlarge) hplus)

theorem readEntry_eq_some_iff {line : List Char} {id : UInt16} {name : String} :
    readEntry line = some (id, name) ↔ IsEntry line id name := by
  constructor
  · intro h
    obtain ⟨⟨word, rest⟩, hcut, h⟩ := Option.bind_eq_some_iff.mp h
    obtain ⟨⟨⟩, hguard, h⟩ := Option.bind_eq_some_iff.mp h
    obtain ⟨n, hread, h⟩ := Option.bind_eq_some_iff.mp h
    obtain ⟨rfl, rfl⟩ := Prod.mk.inj (Option.some.inj h)
    obtain ⟨blank, rfl, hblank, hword⟩ := cutBlank_eq_some_iff.mp hcut
    have hlength : word.length = 4 := by
      unfold guard at hguard
      split at hguard
      · assumption
      · cases hguard
    have hsize := utf8ByteSize_of_ascii (ascii_of_readHex? (by decide) hread)
    refine ⟨word, blank, rest, rfl, hblank, hword, hsize.trans hlength, ?_, rfl⟩
    rw [hread, UInt16.toNat_ofNat_of_lt' (lt_of_readHex? (by decide) hread)]
  · rintro ⟨word, blank, rest, rfl, hblank, hword, hsize, hread, rfl⟩
    have hlength : word.length = 4 :=
      (utf8ByteSize_of_ascii (ascii_of_readHex? (by decide) hread)).symm.trans hsize
    have hguard : (guard (word.length = 4) : Option Unit) = some () := if_pos hlength
    rw [readEntry, cutBlank_eq_some_iff.mpr ⟨blank, rfl, hblank, hword⟩]
    dsimp only [bind, Option.bind]
    rw [hguard]
    dsimp only
    rw [hread]
    simp

/-- A line is an entry for one number and has one name. -/
theorem IsEntry.unique {line : List Char} {id id' : UInt16} {name name' : String}
    (h : IsEntry line id name) (h' : IsEntry line id' name') : id = id' ∧ name = name' := by
  have hsame := (readEntry_eq_some_iff.mpr h).symm.trans (readEntry_eq_some_iff.mpr h')
  exact Prod.mk.inj (Option.some.inj hsame)

/-! ## Lines that count -/

/-- A line is neither empty, nor a remark, nor about a subsystem. -/
def Counts (line : List Char) : Prop :=
  line ≠ [] ∧ ¬ ['#'] <+: line ∧ ¬ ['\t', '\t'] <+: line

instance : DecidablePred Counts := fun _ => inferInstanceAs (Decidable (_ ∧ _))

/-- The lines that count, up to the device classes. -/
def vendorLines (text : String) : List (List Char) :=
  ((lines text.toList).takeWhile fun line => ¬ ['C', ' '] <+: line).filter fun line => Counts line

theorem not_startsClasses (line : List Char) :
    (!startsClasses line) = decide (¬ ['C', ' '] <+: line) := by
  have hprefix : ['C', ' '].isPrefixOf line = decide (['C', ' '] <+: line) := by
    rw [Bool.eq_iff_iff, decide_eq_true_iff]
    exact List.isPrefixOf_iff_prefix
  rw [startsClasses, hprefix, decide_not]

section

variable {line rest : List Char}

theorem readLine_of_not_counts (h : ¬ Counts line) : readLine line = .passed := by
  simp only [Counts, not_and_or, not_not] at h
  rcases h with rfl | ⟨rest, rfl⟩ | ⟨rest, rfl⟩
  · rfl
  · rfl
  · rfl

theorem readLine_header (hcounts : Counts line) (hhead : line.head? ≠ some '\t') :
    readLine line = .header (readEntry line) := by
  unfold readLine
  split <;> simp_all [Counts, List.cons_prefix_cons]

theorem readLine_device (hcounts : Counts ('\t' :: rest)) :
    readLine ('\t' :: rest) = .device (readEntry rest) := by
  unfold readLine
  split <;> simp_all [Counts, List.cons_prefix_cons]

end

/-- What does not count makes no difference. -/
theorem foldl_step_counts (lines : List (List Char)) (r : Reading) :
    (lines.map readLine).foldl Reading.step r =
      ((lines.filter fun line => Counts line).map readLine).foldl Reading.step r := by
  induction lines generalizing r with
  | nil => rfl
  | cons line lines ih =>
      rw [List.map_cons, List.foldl_cons, ih, List.filter_cons]
      by_cases hcounts : Counts line
      · rw [if_pos (decide_eq_true hcounts), List.map_cons, List.foldl_cons]
      · rw [if_neg (by simpa using hcounts), readLine_of_not_counts hcounts]
        rfl

/-! ## Sections -/

/-- A header and what stands behind the tabs of the lines that follow it. -/
structure Section where
  header : List Char
  devices : List (List Char)

def Section.lines (s : Section) : List (List Char) := s.header :: s.devices.map ('\t' :: ·)

/-- The lines are those of the sections, behind some with a tab and no header.
Headers have no tab in front. -/
structure Divides (orphans : List (List Char)) (sections : List Section)
    (lines : List (List Char)) : Prop where
  lines_eq : lines = orphans.map ('\t' :: ·) ++ sections.flatMap Section.lines
  header : ∀ s ∈ sections, s.header.head? ≠ some '\t'

/-- All lines fall into sections. -/
theorem exists_divides (lines : List (List Char)) :
    ∃ orphans sections, Divides orphans sections lines := by
  induction lines with
  | nil => exact ⟨[], [], rfl, by simp⟩
  | cons line lines ih =>
      obtain ⟨orphans, sections, rfl, hheader⟩ := ih
      by_cases hhead : line.head? = some '\t'
      · obtain ⟨rest, rfl⟩ := List.head?_eq_some_iff.mp hhead
        exact ⟨rest :: orphans, sections, rfl, hheader⟩
      · exact ⟨[], ⟨line, orphans⟩ :: sections, rfl, List.forall_mem_cons.mpr ⟨hhead, hheader⟩⟩

/-- A line with a tab belongs to what comes before it, and any other line opens a
section. -/
theorem divides_cons {line : List Char} {lines orphans : List (List Char)}
    {sections : List Section} (h : Divides orphans sections (line :: lines)) :
    (∃ rest more, line = '\t' :: rest ∧ orphans = rest :: more ∧ Divides more sections lines) ∨
    line.head? ≠ some '\t' ∧ orphans = [] ∧
      ∃ devices more, sections = ⟨line, devices⟩ :: more ∧ Divides devices more lines := by
  obtain ⟨hlines, hheader⟩ := h
  cases orphans with
  | cons rest more =>
      obtain ⟨rfl, rfl⟩ := List.cons.inj hlines
      exact .inl ⟨rest, more, rfl, rfl, rfl, hheader⟩
  | nil =>
      cases sections with
      | nil => cases hlines
      | cons s more =>
          obtain ⟨rfl, rfl⟩ := List.cons.inj hlines
          obtain ⟨hfirst, hrest⟩ := List.forall_mem_cons.mp hheader
          exact .inr ⟨hfirst, rfl, s.devices, more, rfl, rfl, hrest⟩

theorem Divides.of_nil {orphans : List (List Char)} {sections : List Section}
    (h : Divides orphans sections []) : orphans = [] ∧ sections = [] := by
  cases orphans with
  | cons rest more => cases h.lines_eq
  | nil =>
      cases sections with
      | cons s more => cases h.lines_eq
      | nil => exact ⟨rfl, rfl⟩

/-- Lines fall into sections in one way. -/
theorem Divides.unique {lines orphans orphans' : List (List Char)}
    {sections sections' : List Section} (h : Divides orphans sections lines)
    (h' : Divides orphans' sections' lines) : orphans = orphans' ∧ sections = sections' := by
  induction lines generalizing orphans orphans' sections sections' with
  | nil =>
      obtain ⟨rfl, rfl⟩ := h.of_nil
      obtain ⟨rfl, rfl⟩ := h'.of_nil
      exact ⟨rfl, rfl⟩
  | cons line lines ih =>
      rcases divides_cons h with
        ⟨rest, more, rfl, rfl, hmore⟩ | ⟨hhead, rfl, devices, more, rfl, hmore⟩
      · rcases divides_cons h' with ⟨rest', more', heq, rfl, hmore'⟩ | ⟨hhead, -⟩
        · obtain ⟨rfl, rfl⟩ := ih hmore hmore'
          obtain ⟨-, rfl⟩ := List.cons.inj heq
          exact ⟨rfl, rfl⟩
        · exact absurd rfl hhead
      · rcases divides_cons h' with
          ⟨rest, -, rfl, -⟩ | ⟨-, rfl, devices', more', rfl, hmore'⟩
        · exact absurd rfl hhead
        · obtain ⟨rfl, rfl⟩ := ih hmore hmore'
          exact ⟨rfl, rfl⟩

/-- What is read of a section, if its header is an entry. -/
def Section.vendor? (s : Section) : Option Vendor :=
  (readEntry s.header).map fun (id, name) =>
    ⟨id, name, (s.devices.filterMap readEntry).reverse⟩

section

variable {devices : List (List Char)}

/-- Devices behind no header, or behind one that is no entry, are lost. -/
theorem foldl_devices_closed (h : ∀ device ∈ devices, Counts ('\t' :: device))
    (vendors : List Vendor) :
    ((devices.map ('\t' :: ·)).map readLine).foldl Reading.step ⟨vendors, false⟩ =
      ⟨vendors, false⟩ := by
  induction devices with
  | nil => rfl
  | cons device devices ih =>
      obtain ⟨hdevice, hdevices⟩ := List.forall_mem_cons.mp h
      rw [List.map_cons, List.map_cons, List.foldl_cons, readLine_device hdevice]
      cases readEntry device <;> exact ih hdevices

/-- Devices belong to the header before them. -/
theorem foldl_devices_open (h : ∀ device ∈ devices, Counts ('\t' :: device)) (vendor : Vendor)
    (vendors : List Vendor) :
    ((devices.map ('\t' :: ·)).map readLine).foldl Reading.step ⟨vendor :: vendors, true⟩ =
      ⟨{ vendor with devices := (devices.filterMap readEntry).reverse ++ vendor.devices } ::
        vendors, true⟩ := by
  induction devices generalizing vendor with
  | nil => rfl
  | cons device devices ih =>
      obtain ⟨hdevice, hdevices⟩ := List.forall_mem_cons.mp h
      rw [List.map_cons, List.map_cons, List.foldl_cons, readLine_device hdevice,
        List.filterMap_cons]
      cases hentry : readEntry device with
      | none => exact ih hdevices vendor
      | some entry =>
          refine (ih hdevices { vendor with devices := entry :: vendor.devices }).trans ?_
          simp

end

/-- A section is read as a whole, whatever has been read before. -/
theorem foldl_section {s : Section} (hcounts : ∀ line ∈ s.lines, Counts line)
    (hheader : s.header.head? ≠ some '\t') (r : Reading) :
    ((s.lines.map readLine).foldl Reading.step r).vendors = s.vendor?.toList ++ r.vendors := by
  obtain ⟨hfirst, hrest⟩ := List.forall_mem_cons.mp hcounts
  have hdevices : ∀ device ∈ s.devices, Counts ('\t' :: device) :=
    fun device hdevice => hrest _ (List.mem_map_of_mem hdevice)
  rw [Section.lines, List.map_cons, List.foldl_cons, readLine_header hfirst hheader,
    Section.vendor?]
  cases readEntry s.header with
  | none => rw [Reading.step, foldl_devices_closed hdevices]; rfl
  | some entry => rw [Reading.step, foldl_devices_open hdevices]; simp

theorem foldl_sections {sections : List Section}
    (hcounts : ∀ s ∈ sections, ∀ line ∈ s.lines, Counts line)
    (hheader : ∀ s ∈ sections, s.header.head? ≠ some '\t') (r : Reading) :
    (((sections.flatMap Section.lines).map readLine).foldl Reading.step r).vendors =
      (sections.filterMap Section.vendor?).reverse ++ r.vendors := by
  induction sections generalizing r with
  | nil => rfl
  | cons s sections ih =>
      obtain ⟨hfirst, hrest⟩ := List.forall_mem_cons.mp hcounts
      obtain ⟨hfirst', hrest'⟩ := List.forall_mem_cons.mp hheader
      rw [List.flatMap_cons, List.map_append, List.foldl_append, ih hrest hrest',
        foldl_section hfirst hfirst', List.filterMap_cons]
      cases s.vendor? with
      | none => rfl
      | some vendor => simp

/-- What is read of a text are its sections, the last one first. -/
theorem vendors_of_divides {text : String} {orphans : List (List Char)} {sections : List Section}
    (h : Divides orphans sections (vendorLines text)) :
    (read text).vendors = (sections.filterMap Section.vendor?).reverse := by
  have hcounts : ∀ line ∈ vendorLines text, Counts line := by
    intro line hline
    simpa using (List.mem_filter.mp hline).2
  rw [h.lines_eq, List.forall_mem_append] at hcounts
  have horphans : ∀ device ∈ orphans, Counts ('\t' :: device) :=
    fun device hdevice => hcounts.1 _ (List.mem_map_of_mem hdevice)
  have hsections : ∀ s ∈ sections, ∀ line ∈ s.lines, Counts line :=
    fun s hs line hline => hcounts.2 line (List.mem_flatMap.mpr ⟨s, hs, hline⟩)
  show (List.foldl Reading.step {} _).vendors = _
  rw [foldl_step_counts]
  simp only [not_startsClasses]
  show (List.foldl Reading.step {} ((vendorLines text).map readLine)).vendors = _
  rw [h.lines_eq, List.map_append, List.foldl_append, foldl_devices_closed horphans,
    foldl_sections hsections h.header, List.append_nil]

/-! ## Looking up -/

section

variable {α β : Type} {f : α → Option β} {p : β → Bool} {l : List α} {b : β}

/-- What is found from the end stands in front of others that are not meant. -/
theorem find?_last_eq_some_iff :
    (l.filterMap f).reverse.find? p = some b ↔
      ∃ before a after, l = before ++ a :: after ∧ (f a = some b ∧ p b) ∧
        ∀ other ∈ after, ¬ ∃ c, f other = some c ∧ p c := by
  rw [← List.filterMap_reverse, List.find?_filterMap, Option.bind_eq_some_iff]
  constructor
  · rintro ⟨a, hfind, hfa⟩
    obtain ⟨hp, after, before, hl, hafter⟩ := List.find?_eq_some_iff_append.mp hfind
    refine ⟨before.reverse, a, after.reverse, ?_, ⟨hfa, by simpa [hfa] using hp⟩, ?_⟩
    · simpa using List.reverse_eq_append_iff.mp hl
    · rintro other hother ⟨c, hc, hpc⟩
      simpa [hc, hpc] using hafter other (List.mem_reverse.mp hother)
  · rintro ⟨before, a, after, rfl, ⟨hfa, hp⟩, hafter⟩
    refine ⟨a, List.find?_eq_some_iff_append.mpr ⟨by simp [hfa, hp], after.reverse,
      before.reverse, by simp, ?_⟩, hfa⟩
    intro other hother
    cases hother' : f other with
    | none => rfl
    | some c =>
        have hnot := hafter other (List.mem_reverse.mp hother)
        simpa [hother'] using hnot

theorem find?_last_eq_none_iff :
    (l.filterMap f).reverse.find? p = none ↔ ∀ a ∈ l, ¬ ∃ b, f a = some b ∧ p b := by
  rw [List.find?_eq_none]
  constructor
  · rintro h a ha ⟨b, hb, hp⟩
    exact h b (List.mem_reverse.mpr (List.mem_filterMap.mpr ⟨a, ha, hb⟩)) hp
  · intro h b hb hp
    obtain ⟨a, ha, hab⟩ := List.mem_filterMap.mp (List.mem_reverse.mp hb)
    exact h a ha ⟨b, hab, hp⟩

end

/-- What a device is called: by the last of the lines that are entries for it,
or by its number if there is none. -/
inductive Titled (devices : List (List Char)) (device : UInt16) : String → Prop
  | named {before line after name} : devices = before ++ line :: after →
      IsEntry line device name → (∀ other ∈ after, ¬ ∃ name, IsEntry other device name) →
      Titled devices device name
  | unnamed : (∀ line ∈ devices, ¬ ∃ name, IsEntry line device name) →
      Titled devices device ("Device " ++ hex 4 device.toNat)

theorem exists_readEntry_iff {line : List Char} {id : UInt16} :
    (∃ entry, readEntry line = some entry ∧ entry.1 == id) ↔ ∃ name, IsEntry line id name := by
  constructor
  · rintro ⟨⟨_, name⟩, hentry, hid⟩
    obtain rfl := eq_of_beq hid
    exact ⟨name, readEntry_eq_some_iff.mp hentry⟩
  · rintro ⟨name, h⟩
    exact ⟨(id, name), readEntry_eq_some_iff.mpr h, beq_self_eq_true id⟩

theorem vendor?_eq_some_iff {s : Section} {found : Vendor} {vendor : UInt16} :
    s.vendor? = some found ∧ found.id == vendor ↔
      ∃ name, IsEntry s.header vendor name ∧
        found = ⟨vendor, name, (s.devices.filterMap readEntry).reverse⟩ := by
  constructor
  · rintro ⟨h, hid⟩
    obtain ⟨⟨id, name⟩, hentry, rfl⟩ := Option.map_eq_some_iff.mp h
    obtain rfl : id = vendor := eq_of_beq hid
    exact ⟨name, readEntry_eq_some_iff.mp hentry, rfl⟩
  · rintro ⟨name, hentry, rfl⟩
    exact ⟨by rw [Section.vendor?, readEntry_eq_some_iff.mpr hentry]; rfl, beq_self_eq_true vendor⟩

theorem exists_vendor?_iff {s : Section} {vendor : UInt16} :
    (∃ found, s.vendor? = some found ∧ found.id == vendor) ↔
      ∃ name, IsEntry s.header vendor name := by
  simp only [vendor?_eq_some_iff]
  constructor
  · rintro ⟨_, name, hentry, -⟩
    exact ⟨name, hentry⟩
  · rintro ⟨name, hentry⟩
    exact ⟨_, name, hentry, rfl⟩

/-- What the last line for a device says, or its number. -/
def titleIn (devices : List (UInt16 × String)) (device : UInt16) : String :=
  match devices.find? (·.1 == device) with
  | some (_, name) => name
  | none => "Device " ++ hex 4 device.toNat

section

variable {devices : List (List Char)} {device : UInt16} {title : String}

theorem titled_titleIn (devices : List (List Char)) (device : UInt16) :
    Titled devices device (titleIn (devices.filterMap readEntry).reverse device) := by
  rw [titleIn]
  cases h : (devices.filterMap readEntry).reverse.find? (·.1 == device) with
  | none =>
      refine .unnamed fun line hline hentry => ?_
      exact find?_last_eq_none_iff.mp h line hline (exists_readEntry_iff.mpr hentry)
  | some entry =>
      obtain ⟨before, line, after, hdevices, ⟨hentry, hid⟩, hafter⟩ := find?_last_eq_some_iff.mp h
      obtain rfl := eq_of_beq hid
      refine .named hdevices (readEntry_eq_some_iff.mp hentry) fun other hother hentry' => ?_
      exact hafter other hother (exists_readEntry_iff.mpr hentry')

theorem Titled.eq_titleIn (h : Titled devices device title) :
    title = titleIn (devices.filterMap readEntry).reverse device := by
  rw [titleIn]
  cases h with
  | @named before line after name hdevices hentry hafter =>
      have hfind : (devices.filterMap readEntry).reverse.find? (·.1 == device) =
          some (device, title) :=
        find?_last_eq_some_iff.mpr ⟨before, line, after, hdevices,
          ⟨readEntry_eq_some_iff.mpr hentry, beq_self_eq_true device⟩,
          fun other hother h => hafter other hother (exists_readEntry_iff.mp h)⟩
      rw [hfind]
  | unnamed hnone =>
      have hfind : (devices.filterMap readEntry).reverse.find? (·.1 == device) = none :=
        find?_last_eq_none_iff.mpr fun line hline h => hnone line hline (exists_readEntry_iff.mp h)
      rw [hfind]

end

theorem find?_eq (names : NameDatabase) (vendor device : UInt16) :
    names.find? vendor device =
      (names.vendors.find? (·.id == vendor)).map fun found =>
        found.name ++ " " ++ titleIn found.devices device := by
  rw [NameDatabase.find?]
  cases names.vendors.find? (·.id == vendor) with
  | none => rfl
  | some found =>
      have htitle : " Device " = " " ++ "Device " := by decide
      rw [Option.map_some, titleIn]
      simp only [bind, Option.bind]
      cases found.devices.find? (·.1 == device) with
      | none => simp only [htitle, String.append_assoc]; rfl
      | some entry => rfl

namespace Divides

variable {text : String} {orphans : List (List Char)} {sections : List Section}
  {vendor device : UInt16}

theorem find?_eq_none_iff (h : Divides orphans sections (vendorLines text)) :
    (read text).find? vendor device = none ↔
      ∀ s ∈ sections, ¬ ∃ name, IsEntry s.header vendor name := by
  rw [find?_eq, vendors_of_divides h, Option.map_eq_none_iff, find?_last_eq_none_iff]
  simp only [exists_vendor?_iff]

/-- The last section of the vendor has the answer. -/
theorem find?_eq_some_iff (h : Divides orphans sections (vendorLines text)) {answer : String} :
    (read text).find? vendor device = some answer ↔
      ∃ earlier s later name title, sections = earlier ++ s :: later ∧
        IsEntry s.header vendor name ∧
        (∀ other ∈ later, ¬ ∃ name, IsEntry other.header vendor name) ∧
        Titled s.devices device title ∧ answer = name ++ " " ++ title := by
  rw [find?_eq, vendors_of_divides h, Option.map_eq_some_iff]
  constructor
  · rintro ⟨found, hfind, rfl⟩
    obtain ⟨earlier, s, later, hsections, hfound, hlater⟩ := find?_last_eq_some_iff.mp hfind
    obtain ⟨name, hentry, rfl⟩ := vendor?_eq_some_iff.mp hfound
    simp only [exists_vendor?_iff] at hlater
    exact ⟨earlier, s, later, name, _, hsections, hentry, hlater, titled_titleIn _ _, rfl⟩
  · rintro ⟨earlier, s, later, name, title, hsections, hentry, hlater, htitled, rfl⟩
    refine ⟨⟨vendor, name, (s.devices.filterMap readEntry).reverse⟩, ?_, ?_⟩
    · refine find?_last_eq_some_iff.mpr ⟨earlier, s, later, hsections,
        vendor?_eq_some_iff.mpr ⟨name, hentry, rfl⟩, ?_⟩
      simpa only [exists_vendor?_iff] using hlater
    · rw [← htitled.eq_titleIn]

end Divides

/-- What is read depends on the lines that count. -/
theorem read_congr {text other : String} (h : vendorLines other = vendorLines text) :
    read other = read text := by
  obtain ⟨orphans, sections, hdivides⟩ := exists_divides (vendorLines text)
  have hvendors := vendors_of_divides (h ▸ hdivides)
  rw [← vendors_of_divides hdivides] at hvendors
  exact congrArg NameDatabase.mk hvendors

/-- **Looking up names.** The lines that count fall into sections in one way, and
no other line matters. A vendor has no name exactly if no header is an entry for
it. Otherwise the last section whose header is one has the name, and the lines
of that section tell what the device is called. -/
theorem lookup_declared (text : String) :
    (∀ other, vendorLines other = vendorLines text → read other = read text) ∧
    ∃ orphans sections, Divides orphans sections (vendorLines text) ∧
      (∀ orphans' sections', Divides orphans' sections' (vendorLines text) →
        orphans' = orphans ∧ sections' = sections) ∧
      ∀ vendor device,
        ((read text).find? vendor device = none ↔
          ∀ s ∈ sections, ¬ ∃ name, IsEntry s.header vendor name) ∧
        ∀ answer, (read text).find? vendor device = some answer ↔
          ∃ earlier s later name title, sections = earlier ++ s :: later ∧
            IsEntry s.header vendor name ∧
            (∀ other ∈ later, ¬ ∃ name, IsEntry other.header vendor name) ∧
            Titled s.devices device title ∧ answer = name ++ " " ++ title := by
  obtain ⟨orphans, sections, hdivides⟩ := exists_divides (vendorLines text)
  refine ⟨fun other => read_congr, orphans, sections, hdivides, ?_, fun vendor device => ?_⟩
  · exact fun orphans' sections' hdivides' => hdivides'.unique hdivides
  · exact ⟨hdivides.find?_eq_none_iff, fun answer => hdivides.find?_eq_some_iff⟩

/-- A vendor that comes twice, a header that is none, and a device class. -/
example :
    let names := read ("8086  Intel\n\t10d3  Left behind\n10ec  Realtek\n\t8139  RTL-8139\n" ++
      "80  No header\n\t8139  Lost\n8086  Intel Corporation\n\t\t10d3 10d3  Passed over\n" ++
      "\t10d3  82574L\nC 02  Network controller\n\t10d3  Ethernet controller\n")
    names.find? 0x8086 0x10d3 = some "Intel Corporation 82574L" ∧
      names.find? 0x10ec 0x8139 = some "Realtek RTL-8139" ∧
      names.find? 0x8086 0x8139 = some "Intel Corporation Device 8139" ∧
      names.find? 0x80 0x8139 = none := by
  decide +kernel

end PciBus.NameDatabase

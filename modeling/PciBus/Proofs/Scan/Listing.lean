import PciBus.Proofs.Scan.Kernel

/-!
# Entries and records

A name is read as a location in any spelling: the case of its digits does not
matter, nor do zeros before the digits of a domain. So two entries of a root
can be read as one location, and then the scan has a record from each of them
that answers, in the order of the listing (`Scan.filter_inBusOrder`). No
location has two records exactly if there are no such entries
(`Scan.nodup_found_iff`), and the order of the listing does not matter exactly
if such entries give the same record (`Scan.listing_irrelevant_iff`).

Config space is looked for under the name that the location has
(`Scan.AccessedAt`), whatever the spelling of the entry that the record is
from. That is this entry's config file only if the entry is spelled so too
(`Scan.entries_scanned`).
-/

namespace PciBus

namespace Scan

variable {files : Files} {root name : String} {names listing other : List String} {l : Location}
  {record : Record}

/-! ## Records of entries -/

/-- The record that an entry of a root gives. -/
def recordOf? (files : Files) (root name : String) : Option Record :=
  (Location.ofName? name).bind fun l =>
    (readFunction files (Files.join root name) l).result.toOption.join

/-- The entries of a listing that are read as a location. -/
def entriesOf (l : Location) (listing : List String) : List String :=
  listing.filter (Location.ofName? · = some l)

/-- An entry gives a record of the location that it is read as. -/
theorem location_of_recordOf? (h : recordOf? files root name = some record) :
    Location.ofName? name = some record.location := by
  obtain ⟨l, hname, hread⟩ := Option.bind_eq_some_iff.mp h
  obtain ⟨rfl, -⟩ := of_readFunction (toOption_join_eq_some_iff.mp hread)
  exact hname

theorem found_eq_filterMap (files : Files) (root : String) (listing : List String) :
    found files root listing = listing.filterMap (recordOf? files root) := by
  induction listing with
  | nil => rfl
  | cons name listing ih =>
      cases hname : Location.ofName? name with
      | none => simpa [found, functionsIn, recordOf?, hname] using ih
      | some l =>
          cases hread : (readFunction files (Files.join root name) l).result.toOption.join with
          | none => simpa [found, functionsIn, recordOf?, hname, hread] using ih
          | some record => simpa [found, functionsIn, recordOf?, hname, hread] using ih

/-- The records found at a location are those of the entries that are read as
it. -/
theorem filter_found (files : Files) (root : String) (listing : List String) (l : Location) :
    (found files root listing).filter (·.location = l) =
      (entriesOf l listing).filterMap (recordOf? files root) := by
  rw [found_eq_filterMap, entriesOf, List.filterMap_filter, List.filter_filterMap]
  congr 1
  funext name
  cases hrecord : recordOf? files root name with
  | none => simp
  | some record => simp [location_of_recordOf? hrecord, Option.filter]

/-! ## Records in bus order -/

/-- Sorting keeps the records at one location in the order they were found
in. -/
theorem filter_inBusOrder (records : List Record) (l : Location) :
    (inBusOrder records).filter (·.location = l) = records.filter (·.location = l) := by
  have hsub : (records.filter (·.location = l)).Sublist (inBusOrder records) := by
    apply List.sublist_mergeSort rank_le_trans rank_le_total ?_ List.filter_sublist
    apply List.pairwise_of_forall_mem_list
    intro a ha b hb
    rw [List.mem_filter, decide_eq_true_eq] at ha hb
    rw [ha.2, hb.2]
    exact decide_eq_true (Nat.le_refl _)
  have hkept := hsub.filter (·.location = l)
  rw [List.filter_filter] at hkept
  simp only [Bool.and_self] at hkept
  exact (hkept.eq_of_length (((inBusOrder_perm records).filter _).length_eq.symm)).symm

/-! ## Locations with one record -/

/-- No two entries that answer are read as one location. -/
def Unambiguous (files : Files) (root : String) (names : List String) : Prop :=
  ∀ a ∈ names, ∀ b ∈ names, ∀ record record', recordOf? files root a = some record →
    recordOf? files root b = some record' → record.location = record'.location → a = b

/-- Entries that are read as one location give the same record, if they
answer. -/
def Interchangeable (files : Files) (root : String) (names : List String) : Prop :=
  ∀ a ∈ names, ∀ b ∈ names, ∀ record record', recordOf? files root a = some record →
    recordOf? files root b = some record' → record.location = record'.location → record = record'

theorem Unambiguous.interchangeable (h : Unambiguous files root names) :
    Interchangeable files root names := by
  intro a ha b hb record record' hrecord hrecord' hsame
  obtain rfl := h a ha b hb record record' hrecord hrecord' hsame
  exact Option.some.inj (hrecord.symm.trans hrecord')

/-- Of two entries, either can be listed first. -/
theorem listed_first {a b : String} (ha : a ∈ names) (hb : b ∈ names) (hne : a ≠ b) :
    ∃ rest, (a :: b :: rest).Perm names := by
  refine ⟨(names.erase a).erase b, ?_⟩
  have hmem : b ∈ names.erase a := (List.mem_erase_of_ne hne.symm).mpr hb
  exact ((List.perm_cons_erase hmem).symm.cons a).trans (List.perm_cons_erase ha).symm

theorem nodup_found_iff (hnames : names.Nodup) :
    ((found files root names).map (·.location)).Nodup ↔ Unambiguous files root names := by
  constructor
  · intro h a ha b hb record record' hrecord hrecord' hsame
    by_contra hne
    obtain ⟨rest, hfirst⟩ := listed_first ha hb hne
    have hboth : ((found files root (a :: b :: rest)).map (·.location)).Nodup :=
      ((found_perm files root hfirst).map _).nodup_iff.mpr h
    rw [found_eq_filterMap, List.filterMap_cons_some hrecord, List.filterMap_cons_some hrecord',
      List.map_cons, List.map_cons, List.nodup_cons] at hboth
    exact hboth.1 (by simp [hsame])
  · intro h
    rw [found_eq_filterMap, List.Nodup, List.pairwise_map, List.pairwise_filterMap]
    refine hnames.imp_of_mem ?_
    intro a b ha hb hne record hrecord record' hrecord' hsame
    exact hne (h a ha b hb record record' hrecord hrecord' hsame)

/-! ## The order of the listing -/

/-- Every record is from an entry. -/
theorem exists_entry (hrecord : record ∈ found files root listing) :
    ∃ name ∈ listing, recordOf? files root name = some record := by
  rwa [found_eq_filterMap, List.mem_filterMap] at hrecord

theorem Interchangeable.injOn (h : Interchangeable files root names)
    (hlisting : listing.Perm names) :
    ∀ a ∈ found files root listing, ∀ b ∈ found files root listing,
      a.location = b.location → a = b := by
  intro a ha b hb hsame
  obtain ⟨name, hname, hread⟩ := exists_entry ha
  obtain ⟨name', hname', hread'⟩ := exists_entry hb
  rw [hlisting.mem_iff] at hname hname'
  exact h name hname name' hname' a b hread hread' hsame

theorem listing_irrelevant_iff (hlisting : listing.Perm names) :
    (∀ other, other.Perm names → inBusOrder (found files root other) =
      inBusOrder (found files root listing)) ↔ Interchangeable files root names := by
  constructor
  · intro h a ha b hb record record' hrecord hrecord' hsame
    by_cases hab : a = b
    · subst hab
      exact Option.some.inj (hrecord.symm.trans hrecord')
    -- list one entry first, and then the other
    obtain ⟨rest, hfirst⟩ := listed_first ha hb hab
    have hsecond : (b :: a :: rest).Perm names := (List.Perm.swap a b rest).trans hfirst
    have heq := (h _ hfirst).trans (h _ hsecond).symm
    have hat := congrArg (List.filter (·.location = record.location)) heq
    rw [filter_inBusOrder, filter_inBusOrder, found_eq_filterMap, found_eq_filterMap] at hat
    simp only [List.filterMap_cons_some hrecord, List.filterMap_cons_some hrecord',
      List.filter_cons_of_pos, hsame, decide_true] at hat
    exact (List.cons.inj hat).1
  · intro h other hother
    exact inBusOrder_eq_of_injOn (h.injOn hlisting)
      (found_perm files root (hother.trans hlisting.symm))

/-! ## Where config space is looked for -/

/-- The config file of an entry. -/
def configOf (root name : String) : String := Files.join (Files.join root name) "config"

/-- Config space of a location is what is in the file at a path, as the tree is
at the time; if no file is there, it cannot be read or written. -/
structure AccessedAt (scan : Scan) (l : Location) (path : String) : Prop where
  read : ∀ (now : Files) (id : Nat), now.fileAt path = .ok id → ∀ offset width,
    scan.read now l offset width =
      if offset.toNat + width.bytes ≤ (now.bytes id).size then
        .ok (.ofNat ((now.bytes id).number offset.toNat width.bytes))
      else
        .error (.config l offset
          (.shortRead ((now.bytes id).size - offset.toNat) width.bytes))
  write : ∀ (now : Files) (id : Nat), now.fileAt path = .ok id → ∀ offset width value,
    scan.write now l offset width value =
      .ok (now.write id offset.toNat (Bytes.ofNumber width.bytes value.toNat))
  absent : ∀ (now : Files) (e : FileFault), now.fileAt path = .error e →
    ∀ offset width value, (∃ step, scan.read now l offset width = .error (.file step path e)) ∧
      scan.write now l offset width value = .error (.file .opening path e)

theorem accessedAt_configPath (scan : Scan) (l : Location) :
    AccessedAt scan l (scan.configPath l) where
  read := by
    intro now id hfile offset width
    simp only [Scan.read, hfile]
  write := by
    intro now id hfile offset width value
    simp only [Scan.write, hfile]
  absent := by
    intro now e hfile offset width value
    constructor
    · rw [Scan.read, hfile]
      cases e <;> exact ⟨_, rfl⟩
    · simp only [Scan.write, hfile]

/-- The name of a location leads to the config file of an entry that is read as
it exactly if the entry is spelled so. -/
theorem resolve_configOf_iff (hname : Location.ofName? name = some l) {now : Files}
    {place : Path × Entry} (hplace : now.resolve (configOf root name) = .ok place) :
    now.resolve (configOf root l.name) = .ok place ↔ name = l.name := by
  constructor
  · intro hsame
    exact (Files.place_eq_iff (Location.isName_of_ofName? hname) (Location.isName_name l)
      Files.isName_config hplace hsame).mp rfl
  · intro hspelled
    rwa [← hspelled]

/-- **Entries and records.** In whatever order a root is listed, the scan has
its records in bus order, and those of a location are those that the entries
read as it give, in the order of the listing. So a location has no two records
exactly if no two entries that answer are read as it, and the order of the
listing does not matter exactly if such entries give the same record, as they
do if there are none. Every record is from an entry. Config space of
its location is looked for under the name of the location, and while this
entry's config file is there, it is the one that is found exactly if the entry
is spelled as that name. Resource tables may hold anything, the region of all
addresses included, whose size wraps around (`regionSize`). -/
theorem entries_scanned (hfiles : files.Distinct) (hnames : files.list root = .ok names)
    (hlisting : listing.Perm names) :
    ∃ scan, (ofListing files root listing).result = .ok scan ∧
      scan.records.Pairwise (fun a b => a.location.rank ≤ b.location.rank) ∧
      (∀ l, scan.records.filter (·.location = l) =
        (entriesOf l listing).filterMap (recordOf? files root)) ∧
      ((scan.records.map (·.location)).Nodup ↔ Unambiguous files root names) ∧
      ((∀ other, other.Perm names → (ofListing files root other).result = .ok scan) ↔
        Interchangeable files root names) ∧
      (Unambiguous files root names → Interchangeable files root names) ∧
      ∀ record ∈ scan.records,
        AccessedAt scan record.location (configOf root record.location.name) ∧
        (∃ name ∈ names, recordOf? files root name = some record) ∧
        ∀ name ∈ names, recordOf? files root name = some record →
          ∀ now place, Files.resolve now (configOf root name) = .ok place →
            (now.resolve (configOf root record.location.name) = .ok place ↔
              name = record.location.name) := by
  refine ⟨_, ofListing_eq files root listing, inBusOrder_ordered _, ?_, ?_, ?_,
    Unambiguous.interchangeable, ?_⟩
  · intro l
    exact (filter_inBusOrder _ l).trans (filter_found files root listing l)
  · rw [← nodup_found_iff (hfiles.nodup_list hnames)]
    exact (((inBusOrder_perm _).trans (found_perm files root hlisting)).map _).nodup_iff
  · rw [← listing_irrelevant_iff hlisting]
    simp only [ofListing_eq, Except.ok.injEq, Scan.mk.injEq, true_and, and_true]
  · intro record hrecord
    rw [(inBusOrder_perm _).mem_iff] at hrecord
    obtain ⟨name, hname, hread⟩ := exists_entry hrecord
    refine ⟨accessedAt_configPath _ _, ⟨name, hlisting.mem_iff.mp hname, hread⟩, ?_⟩
    intro name _ hread now place hplace
    exact resolve_configOf_iff (location_of_recordOf? hread) hplace

/-- A function under its name in capitals. -/
def capitalsTree : Files :=
  ({} : Files).put "0000:00:1F.2/config" (header [0x86, 0x80] 0 [0, 0, 0, 0])

/-- Another function beside it, under the name itself. -/
def bothCasesTree : Files :=
  capitalsTree.put "0000:00:1f.2/config" (header [0x22, 0x10] 0 [0, 0, 0, 0])

theorem bothCasesTree_list : bothCasesTree.list "/" = .ok ["0000:00:1F.2", "0000:00:1f.2"] := by
  rfl

theorem bothCasesTree_records :
    ∃ capitals plain, recordOf? bothCasesTree "/" "0000:00:1F.2" = some capitals ∧
      recordOf? bothCasesTree "/" "0000:00:1f.2" = some plain ∧
      capitals.location = ⟨0, 0, 0x1f, 2⟩ ∧ plain.location = ⟨0, 0, 0x1f, 2⟩ ∧
      capitals.vendor = 0x8086 ∧ plain.vendor = 0x1022 := by
  have hcapitals : (recordOf? bothCasesTree "/" "0000:00:1F.2").map
      (fun record => (record.location, record.vendor)) = some (⟨0, 0, 0x1f, 2⟩, 0x8086) := by
    decide +kernel
  have hplain : (recordOf? bothCasesTree "/" "0000:00:1f.2").map
      (fun record => (record.location, record.vendor)) = some (⟨0, 0, 0x1f, 2⟩, 0x1022) := by
    decide +kernel
  obtain ⟨capitals, hread, heq⟩ := Option.map_eq_some_iff.mp hcapitals
  obtain ⟨plain, hread', heq'⟩ := Option.map_eq_some_iff.mp hplain
  obtain ⟨hlocation, hvendor⟩ := Prod.mk.inj heq
  obtain ⟨hlocation', hvendor'⟩ := Prod.mk.inj heq'
  exact ⟨capitals, plain, hread, hread', hlocation, hlocation', hvendor, hvendor'⟩

/-- Listed from the end, the function under the plain name is recorded first;
that is the one which access reaches. -/
theorem bothCasesTree_scanned :
    bothCasesTree.Distinct ∧ ∃ scan,
      (ofListing bothCasesTree "/" ["0000:00:1f.2", "0000:00:1F.2"]).result = .ok scan ∧
      (scan.records.filter (·.location = ⟨0, 0, 0x1f, 2⟩)).map (·.vendor) = [0x1022, 0x8086] ∧
      scan.read bothCasesTree ⟨0, 0, 0x1f, 2⟩ Register.vendor .word = .ok 0x1022 := by
  have hfiles : bothCasesTree.Distinct := (Files.distinct_empty.put _ _).put _ _
  obtain ⟨scan, hscan, -, hrecords, -, -, -, haccess⟩ :=
    entries_scanned hfiles bothCasesTree_list (List.Perm.swap _ _ [])
  have hentries : entriesOf ⟨0, 0, 0x1f, 2⟩ ["0000:00:1f.2", "0000:00:1F.2"] =
      ["0000:00:1f.2", "0000:00:1F.2"] := by
    decide +kernel
  obtain ⟨capitals, plain, hcapitals, hplain, -, hlocation, hvendor, hvendor'⟩ :=
    bothCasesTree_records
  have hat : scan.records.filter (·.location = ⟨0, 0, 0x1f, 2⟩) = [plain, capitals] := by
    rw [hrecords, hentries, List.filterMap_cons_some hplain, List.filterMap_cons_some hcapitals]
    rfl
  refine ⟨hfiles, scan, hscan, by simp [hat, hvendor, hvendor'], ?_⟩
  have hmem : plain ∈ scan.records :=
    (List.mem_filter.mp (hat ▸ List.mem_cons_self : plain ∈ _)).1
  have hread := (haccess plain hmem).1.read bothCasesTree 1 (by rw [hlocation]; rfl)
    Register.vendor .word
  rw [hlocation] at hread
  exact hread

/-- The function under capitals is recorded, and not found again; if another
has the plain name, both are recorded at one location, in the order of the
listing, and access to the first reaches the second. -/
theorem capitals_not_found_again :
    (∃ scan, (take capitalsTree "/").result = .ok scan ∧
      ⟨0, 0, 0x1f, 2⟩ ∈ scan.records.map (·.location) ∧
      scan.read capitalsTree ⟨0, 0, 0x1f, 2⟩ Register.vendor .word =
        .error (.file .opening "/0000:00:1f.2/config" .absent)) ∧
    ∃ scan, (take bothCasesTree "/").result = .ok scan ∧
      ¬ (scan.records.map (·.location)).Nodup ∧
      (¬ ∀ listing, listing.Perm ["0000:00:1F.2", "0000:00:1f.2"] →
        (ofListing bothCasesTree "/" listing).result = .ok scan) ∧
      ∃ record ∈ scan.records, recordOf? bothCasesTree "/" "0000:00:1F.2" = some record ∧
        record.vendor = 0x8086 ∧
        scan.read bothCasesTree record.location Register.vendor .word = .ok 0x1022 := by
  constructor
  · refine ⟨_, ofListing_eq capitalsTree "/" ["0000:00:1F.2"], ?_, by decide +kernel⟩
    rw [((inBusOrder_perm _).map _).mem_iff]
    decide +kernel
  · obtain ⟨capitals, plain, hcapitals, hplain, hlocation, hlocation', hvendor, hvendor'⟩ :=
      bothCasesTree_records
    refine ⟨_, ofListing_eq bothCasesTree "/" ["0000:00:1F.2", "0000:00:1f.2"], ?_, ?_, capitals,
      ?_, hcapitals, hvendor, ?_⟩
    · rw [((inBusOrder_perm _).map _).nodup_iff]
      decide +kernel
    · intro hany
      have hsame : Interchangeable bothCasesTree "/" ["0000:00:1F.2", "0000:00:1f.2"] := by
        rw [← listing_irrelevant_iff (.refl _)]
        intro other hother
        simpa [ofListing_eq] using hany other hother
      have heq := hsame _ (by simp) _ (by simp) _ _ hcapitals hplain
        (hlocation.trans hlocation'.symm)
      rw [heq, hvendor'] at hvendor
      exact absurd hvendor (by decide)
    · rw [(inBusOrder_perm _).mem_iff, found_eq_filterMap, List.filterMap_cons_some hcapitals]
      exact List.mem_cons_self
    · rw [hlocation]
      decide +kernel

end Scan

end PciBus

import PciBus.Bus
import PciBus.Proofs.Location.Name
import PciBus.Scan

/-!
# Enumerating functions

A bus in memory takes the record of a function when it is plugged in
(`Bus.find?_plug`), and a scan takes it from the config file in the function's
directory (`Scan.take_enumerates`). One function with one config image gets
the same record both ways, but for the address of a bridge's expansion ROM:
the bus reads it where an ordinary function has it, the scan where the bridge
has it (`enumerations_agree`, `bridge_roms_differ`).
-/

namespace PciBus

/-! ## Plugging in -/

namespace Bus

theorem find?_insertSlot_self (slot : Slot) (slots : List Slot) :
    (insertSlot slot slots).find? (·.location == slot.location) = some slot := by
  induction slots with
  | nil => simp [insertSlot]
  | cons other rest ih =>
      rw [insertSlot]
      split
      · simp
      split
      · simp
      · rename_i hother
        rw [List.find?_cons_of_neg (by simpa using Ne.symm hother), ih]

theorem find?_insertSlot_of_ne {slot : Slot} {l : Location} (h : slot.location ≠ l)
    (slots : List Slot) :
    (insertSlot slot slots).find? (·.location == l) = slots.find? (·.location == l) := by
  induction slots with
  | nil => simp [insertSlot, h]
  | cons other rest ih =>
      rw [insertSlot]
      split
      · rw [List.find?_cons_of_neg (by simpa using h)]
      split
      · rename_i hsame
        rw [List.find?_cons_of_neg (by simpa using h),
          List.find?_cons_of_neg (by simpa [← hsame] using h)]
      · rw [List.find?_cons, List.find?_cons, ih]

/-- A card that is plugged in is found where it was plugged in, and the other
places are what they were. -/
theorem find?_plug (bus : Bus) (location other : Location) (card : Card) :
    (bus.plug location card).find? other =
      if location = other then some ⟨card.record location, card⟩ else bus.find? other := by
  have hlocation : Slot.location ⟨card.record location, card⟩ = location := rfl
  rw [find?, plug]
  split
  · rename_i hsame
    have hself := find?_insertSlot_self ⟨card.record location, card⟩ bus.slots
    rw [hlocation] at hself
    rw [← hsame, hself]
  · rename_i hother
    rw [find?_insertSlot_of_ne (hlocation ▸ hother)]
    rfl

/-- Taking a function off empties its place and no other. -/
theorem find?_unplug (bus : Bus) (location other : Location) :
    (bus.unplug location).find? other = if location = other then none else bus.find? other := by
  rw [find?, unplug, List.find?_filter]
  split
  · rename_i hsame
    simp [hsame]
  · rename_i hother
    congr 1
    funext slot
    by_cases h : slot.location = other
    · simp [h, Ne.symm hother]
    · simp [h]

end Bus

/-! ## Scanning -/

namespace Scan

variable {files : Files} {root name : String} {l : Location}

theorem readSizes_result (files : Files) (directory : String) (location : Location) :
    ∃ sizes, (readSizes files directory location).result = .ok sizes := by
  rw [readSizes]
  split
  · exact ⟨_, rfl⟩
  · exact ⟨[], rfl⟩

/-- The record of a function that answers. -/
theorem readFunction_answers {directory : String} {id : Nat}
    (hfile : files.fileAt (Files.join directory "config") = .ok id)
    (hlong : headerSize ≤ (files.bytes id).size)
    (hvendor : (files.bytes id).number Register.vendor.toNat 2 ≠ 0xffff) :
    ∃ sizes romSize, (readFunction files directory l).result =
      .ok (some (.ofConfig l (files.bytes id)
        (romRegister ((files.bytes id).byteAt Register.headerType.toNat)) sizes romSize)) := by
  obtain ⟨sizes, hsizes⟩ := readSizes_result files directory l
  have hread : files.readBytes (Files.join directory "config") = .ok (files.bytes id) := by
    rw [Files.readBytes, hfile]
    rfl
  refine ⟨.ofFn fun i => sizes.getD i 0, sizes.getD barCount 0, ?_⟩
  rw [readFunction, hread]
  simp only [if_neg (Nat.not_lt.mpr hlong), if_neg hvendor, Logged.result_bind, hsizes,
    Except.bind, Logged.result_pure]

/-- A record was taken from a whole config file. -/
theorem readFunction_eq_some {directory : String} {record : Record}
    (h : (readFunction files directory l).result = .ok (some record)) :
    ∃ config sizes romSize, files.readBytes (Files.join directory "config") = .ok config ∧
      headerSize ≤ config.size ∧ config.number Register.vendor.toNat 2 ≠ 0xffff ∧
      record = .ofConfig l config (romRegister (config.byteAt Register.headerType.toNat)) sizes
        romSize := by
  cases hconfig : files.readBytes (Files.join directory "config") with
  | error e => simp [readFunction, hconfig] at h
  | ok config =>
      obtain ⟨sizes, hsizes⟩ := readSizes_result files directory l
      by_cases hshort : config.size < headerSize
      · simp [readFunction, hconfig, hshort] at h
      by_cases hvendor : config.number Register.vendor.toNat 2 = 0xffff
      · simp [readFunction, hconfig, hshort, hvendor] at h
      · simp only [readFunction, hconfig, if_neg hshort, if_neg hvendor, Logged.result_bind,
          hsizes, Except.bind, Logged.result_pure, Except.ok.injEq, Option.some.injEq] at h
        exact ⟨config, _, _, rfl, Nat.le_of_not_lt hshort, hvendor, h.symm⟩

theorem toOption_join_eq_some_iff {x : Except Fault (Option Record)} {record : Record} :
    x.toOption.join = some record ↔ x = .ok (some record) := by
  cases x with
  | error e => simp [Except.toOption]
  | ok found => simp [Except.toOption]

/-- The records of named functions are those of the functions that answer. -/
theorem readFunctions_result (files : Files) (root : String) (entries : List (String × Location)) :
    (readFunctions files root entries).result =
      .ok (entries.flatMap fun (name, l) =>
        ((readFunction files (Files.join root name) l).result.toOption.join).toList) := by
  induction entries with
  | nil => rfl
  | cons entry rest ih =>
      obtain ⟨name, l⟩ := entry
      simp only [readFunctions, Logged.result_bind, Logged.result_attempt, Except.bind,
        List.flatMap_cons]
      cases hread : (readFunction files (Files.join root name) l).result with
      | error e =>
          simp only [Logged.result_bind, Logged.result_note, Logged.result_pure, ih, Except.bind]
          rfl
      | ok record =>
          simp only [Logged.result_bind, Logged.result_pure, ih, Except.bind]
          rfl

theorem ofListing_result (files : Files) (root : String) (listing : List String) :
    (ofListing files root listing).result =
      .ok { root := root
            records := inBusOrder ((functionsIn listing).flatMap fun (name, l) =>
              ((readFunction files (Files.join root name) l).result.toOption.join).toList)
            names := NameDatabase.installed? files } := by
  simp [ofListing, readFunctions_result, Except.bind]

/-- Under a directory, scanning finds the record of each function that
answers. -/
theorem take_enumerates {place : Path} (hroot : files.resolve root = .ok (place, .directory)) :
    ∃ scan, (take files root).result = .ok scan ∧ scan.root = root ∧
      ∀ name l id record, Files.IsName name → Location.ofName? name = some l →
        files.fileAt (Files.join (Files.join root name) "config") = .ok id →
        (readFunction files (Files.join root name) l).result = .ok (some record) →
        record ∈ scan.records := by
  obtain ⟨listing, hlisting⟩ : ∃ listing, files.list root = .ok listing :=
    ⟨_, by rw [Files.list, hroot]; rfl⟩
  refine ⟨_, by rw [take, hlisting]; exact ofListing_result files root listing, rfl, ?_⟩
  intro name l id record hname hlocation hfile hrecord
  -- the name stands in the root, so it is listed
  obtain ⟨found, hfound, -⟩ := Files.find?_of_fileAt Files.isName_config hfile
  obtain ⟨above, habove, hentry⟩ := Files.find?_of_follow_join hname hfound
  have hsame : above = place := by
    have hreached := Files.follow_of_resolve hroot
    rw [habove] at hreached
    exact (Prod.mk.inj (Except.ok.inj hreached)).1
  subst hsame
  obtain ⟨listing', hlisting', hmem⟩ := Files.mem_list hroot hentry
  obtain rfl : listing' = listing := Except.ok.inj (hlisting'.symm.trans hlisting)
  have hnamed : (name, l) ∈ functionsIn listing' := by
    rw [functionsIn, List.mem_filterMap]
    exact ⟨name, hmem, by rw [hlocation]; rfl⟩
  rw [inBusOrder, List.mem_mergeSort, List.mem_flatMap]
  exact ⟨(name, l), hnamed, by simp [hrecord, Except.toOption]⟩

end Scan

/-! ## The two records of a function -/

/-- Two records agree in everything that is read from the standard header but
the address of the expansion ROM. -/
structure Record.SameHeader (a b : Record) : Prop where
  location : a.location = b.location
  vendor : a.vendor = b.vendor
  device : a.device = b.device
  classCode : a.classCode = b.classCode
  header : a.header = b.header
  command : a.command = b.command
  bases : a.bases = b.bases

/-- The two ways of enumerating a function agree: `plugged` is what a bus has
recorded, and `scanned` what a scan has. -/
structure Record.Agree (config : Bytes) (plugged scanned : Record) : Prop where
  header : plugged.SameHeader scanned
  rom : Header.ofRegister plugged.header ≠ .bridge → plugged.romBase = scanned.romBase
  /-- The ROM of a bridge is the exception. -/
  bridgeRom : Header.ofRegister plugged.header = .bridge →
    plugged.romBase = .ofNat (config.number Register.rom.toNat 4) ∧
    scanned.romBase = .ofNat (config.number Register.bridgeRom.toNat 4)

theorem Record.agree_ofConfig (l : Location) (config : Bytes) (sizes sizes' : Vector UInt64 6)
    (romSize romSize' : UInt64) :
    Agree config (.ofConfig l config Register.rom sizes romSize)
      (.ofConfig l config (Scan.romRegister (config.byteAt Register.headerType.toNat)) sizes'
        romSize') where
  header := ⟨rfl, rfl, rfl, rfl, rfl, rfl, rfl⟩
  rom := by
    intro hbridge
    have hregister : Scan.romRegister (config.byteAt Register.headerType.toNat) = Register.rom :=
      if_neg hbridge
    rw [hregister]
    rfl
  bridgeRom := by
    intro hbridge
    have hregister : Scan.romRegister (config.byteAt Register.headerType.toNat) =
        Register.bridgeRom := if_pos hbridge
    rw [hregister]
    exact ⟨rfl, rfl⟩

/-- **Two ways to one record.** Plug a card in whose function answers, and let
a directory named like its location hold its config image in the file
`config`. Then scanning above that directory succeeds and finds a record, and
it is the one that the bus has, but for the address of a bridge's ROM. -/
theorem enumerations_agree {card : Card} {l : Location} {files : Files} {root name : String}
    {place : Path} {id : Nat}
    (hvendor : card.image.bytes.number Register.vendor.toNat 2 ≠ 0xffff)
    (hroot : files.resolve root = .ok (place, .directory)) (hname : Files.IsName name)
    (hlocation : Location.ofName? name = some l)
    (hfile : files.fileAt (Files.join (Files.join root name) "config") = .ok id)
    (hbytes : files.bytes id = card.image.bytes) (bus : Bus) :
    ∃ slot scan record, (bus.plug l card).find? l = some slot ∧
      (Scan.take files root).result = .ok scan ∧ record ∈ scan.records ∧
      (Scan.readFunction files (Files.join root name) l).result = .ok (some record) ∧
      Record.Agree card.image.bytes slot.record record := by
  have hlong : Scan.headerSize ≤ (files.bytes id).size := by
    rw [hbytes, card.image.size_eq]
    decide
  obtain ⟨sizes, romSize, hrecord⟩ :=
    Scan.readFunction_answers (l := l) hfile hlong (hbytes ▸ hvendor)
  obtain ⟨scan, htake, -, hfinds⟩ := Scan.take_enumerates hroot
  rw [hbytes] at hrecord
  refine ⟨_, scan, _, by rw [Bus.find?_plug, if_pos rfl], htake,
    hfinds name l id _ hname hlocation hfile hrecord, hrecord, ?_⟩
  exact Record.agree_ofConfig l card.image.bytes _ _ _ _

/-- A bridge with siblings, whose own ROM register holds something and where
an ordinary function has it there is nothing. -/
def bridgeCard : Card where
  image :=
    { bytes := (List.replicate 14 0 ++ 0x81 :: (List.replicate 41 0 ++ 1 ::
        List.replicate 199 (0 : UInt8))).toArray
      size_eq := by decide +kernel }
  sizes := .replicate 6 0
  romSize := 0
  name := none

def bridgeTree : Files where
  entries :=
    [(["0000:00:01.0"], .directory), (["0000:00:01.0", "config"], .file 0)]
  contents := #[bridgeCard.image.bytes]

/-- The class code of the bridge is scanned as it was plugged in. -/
theorem bridgeCard_enumerated :
    ∃ slot scan record, (({} : Bus).plug ⟨0, 0, 1, 0⟩ bridgeCard).find? ⟨0, 0, 1, 0⟩ = some slot ∧
      (Scan.take bridgeTree "/").result = .ok scan ∧ record ∈ scan.records ∧
      slot.record.SameHeader record := by
  have hvendor : bridgeCard.image.bytes.number Register.vendor.toNat 2 ≠ 0xffff := by
    decide +kernel
  have hroot : bridgeTree.resolve "/" = .ok ([], .directory) := by rfl
  have hfile : bridgeTree.fileAt
      (Files.join (Files.join "/" (Location.name ⟨0, 0, 1, 0⟩)) "config") = .ok 0 := by rfl
  obtain ⟨slot, scan, record, hslot, htake, hmem, -, hagree⟩ :=
    enumerations_agree hvendor hroot (Location.isName_name _)
      (Location.ofName?_name (by decide) (by decide)) hfile rfl {}
  exact ⟨slot, scan, record, hslot, htake, hmem, hagree.header⟩

/-- Of a bridge the two ways may give different ROM addresses. -/
theorem bridge_roms_differ :
    ¬ ∀ (card : Card) (l : Location) (files : Files) (directory : String) (record : Record),
      card.image.bytes.number Register.vendor.toNat 2 ≠ 0xffff →
      files.readBytes (Files.join directory "config") = .ok card.image.bytes →
      (Scan.readFunction files directory l).result = .ok (some record) →
      (card.record l).romBase = record.romBase := by
  intro h
  have hvendor : bridgeCard.image.bytes.number Register.vendor.toNat 2 ≠ 0xffff := by
    decide +kernel
  have hfile : bridgeTree.fileAt (Files.join "0000:00:01.0" "config") = .ok 0 := by rfl
  have hbytes : bridgeTree.bytes 0 = bridgeCard.image.bytes := rfl
  have hlong : Scan.headerSize ≤ (bridgeTree.bytes 0).size := by decide +kernel
  obtain ⟨sizes, romSize, hrecord⟩ :=
    Scan.readFunction_answers (l := ⟨0, 0, 1, 0⟩) hfile hlong (hbytes ▸ hvendor)
  have hread : bridgeTree.readBytes (Files.join "0000:00:01.0" "config") =
      .ok bridgeCard.image.bytes := by rw [Files.readBytes, hfile]; rfl
  have hsame := h bridgeCard ⟨0, 0, 1, 0⟩ bridgeTree "0000:00:01.0" _ hvendor hread hrecord
  have hplugged : UInt64.ofNat (bridgeCard.image.bytes.number Register.rom.toNat 4) = 0 := by
    decide +kernel
  have hscanned : UInt64.ofNat ((bridgeTree.bytes 0).number
      (Scan.romRegister ((bridgeTree.bytes 0).byteAt Register.headerType.toNat)).toNat 4) =
      1 := by
    decide +kernel
  have hdifferent : (0 : UInt64) = 1 := hplugged.symm.trans (hsame.trans hscanned)
  exact absurd hdifferent (by decide)

end PciBus

import PciBus.Proofs.Probe.Inspection

/-!
# Scanning a tree as the kernel keeps it

The kernel names the directory of a function as `Location.name` spells its
location, and keeps nothing else under a name that is read as a location
(`Scan.KernelShaped`). A scan of such a root finds exactly the functions that
answer, each once and in bus order, whatever the order of the listing
(`Scan.kernel_tree_scanned`).

It takes its records from whole config files, and config space is read from
the same files afterwards, byte ranges of them. So a record says what config
space says (`Record.Live`), as long as the file stays as it was.
-/

namespace PciBus

/-! ## Records in bus order -/

namespace Scan

theorem inBusOrder_perm (records : List Record) : (inBusOrder records).Perm records :=
  List.mergeSort_perm _ _

/-- Bus order is transitive. -/
theorem rank_le_trans (a b c : Record) (hab : decide (a.location.rank ≤ b.location.rank) = true)
    (hbc : decide (b.location.rank ≤ c.location.rank) = true) :
    decide (a.location.rank ≤ c.location.rank) = true :=
  decide_eq_true (Nat.le_trans (of_decide_eq_true hab) (of_decide_eq_true hbc))

/-- Bus order is total. -/
theorem rank_le_total (a b : Record) :
    (decide (a.location.rank ≤ b.location.rank) || decide (b.location.rank ≤ a.location.rank)) =
      true := by
  simp only [Bool.or_eq_true, decide_eq_true_eq]
  exact Nat.le_total _ _

theorem inBusOrder_ordered (records : List Record) :
    (inBusOrder records).Pairwise fun a b => a.location.rank ≤ b.location.rank := by
  have hsorted : (inBusOrder records).Pairwise fun a b =>
      decide (a.location.rank ≤ b.location.rank) = true :=
    List.pairwise_mergeSort rank_le_trans rank_le_total records
  simpa only [decide_eq_true_eq] using hsorted

/-- Records at different locations are in strict order. -/
theorem inBusOrder_strict {records : List Record} (h : (records.map (·.location)).Nodup) :
    (inBusOrder records).Pairwise fun a b => a.location.rank < b.location.rank := by
  have hdistinct : ((inBusOrder records).map (·.location)).Nodup :=
    ((inBusOrder_perm records).map _).nodup_iff.mpr h
  rw [List.Nodup, List.pairwise_map] at hdistinct
  refine ((inBusOrder_ordered records).and hdistinct).imp ?_
  rintro a b ⟨hle, hne⟩
  exact Nat.lt_of_le_of_ne hle fun heq => hne (Location.rank_inj heq)

/-- The order in which records were found does not matter, if there is one for
a location. -/
theorem inBusOrder_eq_of_injOn {records others : List Record}
    (h : ∀ a ∈ records, ∀ b ∈ records, a.location = b.location → a = b)
    (hperm : others.Perm records) : inBusOrder others = inBusOrder records := by
  have hsame : (inBusOrder others).Perm (inBusOrder records) :=
    ((inBusOrder_perm others).trans hperm).trans (inBusOrder_perm records).symm
  refine hsame.eq_of_pairwise ?_ (inBusOrder_ordered others) (inBusOrder_ordered records)
  intro a b ha hb hab hba
  rw [((inBusOrder_perm others).trans hperm).mem_iff] at ha
  rw [(inBusOrder_perm records).mem_iff] at hb
  exact h a ha b hb (Location.rank_inj (Nat.le_antisymm hab hba))

theorem inBusOrder_eq_of_perm {records others : List Record}
    (h : (records.map (·.location)).Nodup) (hperm : others.Perm records) :
    inBusOrder others = inBusOrder records :=
  inBusOrder_eq_of_injOn (fun _ ha _ hb => List.inj_on_of_nodup_map h ha hb) hperm

/-! ## What is found -/

variable {files : Files} {root : String} {names listing : List String} {l : Location}

/-- The records of the entries that are named like a function, as they are
listed. -/
def found (files : Files) (root : String) (listing : List String) : List Record :=
  (functionsIn listing).flatMap fun (name, l) =>
    ((readFunction files (Files.join root name) l).result.toOption.join).toList

theorem found_perm (files : Files) (root : String) (h : listing.Perm names) :
    (found files root listing).Perm (found files root names) :=
  (h.filterMap _).flatMap_right _

/-- An entry adds one record at most, that of its location. -/
theorem found_locations (files : Files) (root : String) (listing : List String) :
    ((found files root listing).map (·.location)).Sublist (listing.filterMap Location.ofName?) := by
  induction listing with
  | nil => exact .slnil
  | cons name listing ih =>
      cases hname : Location.ofName? name with
      | none => simpa [found, functionsIn, hname] using ih
      | some l =>
          have hcons : found files root (name :: listing) =
              (readFunction files (Files.join root name) l).result.toOption.join.toList ++
                found files root listing := by
            simp [found, functionsIn, hname]
          rw [hcons, List.filterMap_cons_some hname, List.map_append]
          cases hread : (readFunction files (Files.join root name) l).result.toOption.join with
          | none => exact ih.cons l
          | some record =>
              obtain ⟨rfl, -⟩ := of_readFunction (toOption_join_eq_some_iff.mp hread)
              exact ih.cons_cons _

/-! ## Kernel-shaped roots -/

/-- A root that can be listed, in which what is read as a location is spelled
as that location's name. -/
structure KernelShaped (files : Files) (root : String) (names : List String) : Prop where
  listed : files.list root = .ok names
  canonical : ∀ name ∈ names, ∀ l, Location.ofName? name = some l → name = l.name

/-- A function answers: the config file in the directory of its location has a
whole header, and its vendor number is not all ones. -/
def Answers (files : Files) (root : String) (l : Location) : Prop :=
  ∃ config, files.readBytes (Files.join (Files.join root l.name) "config") = .ok config ∧
    headerSize ≤ config.size ∧ config.number Register.vendor.toNat 2 ≠ 0xffff

namespace KernelShaped

/-- No two entries are read as one location. -/
theorem nodup_locations (h : KernelShaped files root names) (hfiles : files.Distinct) :
    (names.filterMap Location.ofName?).Nodup := by
  rw [List.Nodup, List.pairwise_filterMap]
  refine List.Pairwise.imp_of_mem ?_ (hfiles.nodup_list h.listed)
  intro a b ha hb hne l hl l' hl' hsame
  rw [h.canonical a ha l hl, h.canonical b hb l' hl', hsame] at hne
  exact hne rfl

theorem nodup_found (h : KernelShaped files root names) (hfiles : files.Distinct) :
    ((found files root names).map (·.location)).Nodup :=
  (h.nodup_locations hfiles).sublist (found_locations files root names)

end KernelShaped

end Scan

/-! ## Records and config space -/

/-- Config space reads as the record says. -/
structure Record.Live (record : Record) (read : ConfigReader) : Prop where
  vendor : read 0x00 .word = .ok record.vendor.toUInt32
  device : read 0x02 .word = .ok record.device.toUInt32
  command : read 0x04 .word = .ok record.command.toUInt32
  header : read 0x0e .byte = .ok record.header.toUInt32
  classCode : (read 0x08 .long).map (· >>> (8 : UInt32)) = .ok record.classCode
  bases : ∀ i : Fin 6, (read (0x10 + 4 * .ofNat i) .long).map UInt32.toUInt64 =
    .ok record.bases[i]
  /-- The ROM of a bridge stands elsewhere. -/
  romBase : (read (if record.header.toNat % 128 = 1 then 0x38 else 0x30) .long).map
    UInt32.toUInt64 = .ok record.romBase

namespace Bytes

variable (b : Bytes) (offset : Nat)

/-! The number in a few bytes, in types of several sizes. -/

theorem toUInt32_byte : UInt32.ofNat (b.number offset 1) = (b.byteAt offset).toUInt32 := by
  rw [number, number, Nat.mul_zero, Nat.add_zero, ← UInt8.toNat_toUInt32, UInt32.ofNat_toNat]

theorem toUInt32_word :
    UInt32.ofNat (b.number offset 2) = (UInt16.ofNat (b.number offset 2)).toUInt32 := by
  have hlt : b.number offset 2 < UInt16.size := b.number_lt offset 2
  rw [← UInt32.toNat_inj, UInt16.toNat_toUInt32, UInt16.toNat_ofNat_of_lt' hlt,
    UInt32.toNat_ofNat_of_lt' (Nat.lt_trans hlt (by decide))]

theorem toUInt64_dword :
    (UInt32.ofNat (b.number offset 4)).toUInt64 = UInt64.ofNat (b.number offset 4) := by
  have hlt : b.number offset 4 < UInt32.size := b.number_lt offset 4
  rw [← UInt64.toNat_inj, UInt32.toNat_toUInt64, UInt32.toNat_ofNat_of_lt' hlt,
    UInt64.toNat_ofNat_of_lt' (Nat.lt_trans hlt (by decide))]

theorem shiftRight_dword :
    UInt32.ofNat (b.number offset 4) >>> 8 = UInt32.ofNat (b.number offset 4 / 256) := by
  have hlt : b.number offset 4 < UInt32.size := b.number_lt offset 4
  rw [← UInt32.toNat_inj, UInt32.toNat_shiftRight, UInt32.toNat_ofNat_of_lt' hlt,
    UInt32.toNat_ofNat_of_lt' (Nat.lt_of_le_of_lt (Nat.div_le_self _ _) hlt)]
  exact Nat.shiftRight_eq_div_pow _ 8

end Bytes

namespace Scan

/-- Config space is what the config file holds. -/
theorem read_eq_number {scan : Scan} {files : Files} {l : Location} {config : Bytes}
    (hconfig : files.readBytes (scan.configPath l) = .ok config) {offset : UInt16} {width : Width}
    (hwithin : offset.toNat + width.bytes ≤ config.size) :
    scan.read files l offset width = .ok (.ofNat (config.number offset.toNat width.bytes)) := by
  obtain ⟨id, hfile, rfl⟩ := Files.readBytes_eq_ok_iff.mp hconfig
  rw [read, hfile]
  exact if_pos hwithin

theorem romRegister_within (header : UInt8) :
    (romRegister header).toNat + Width.long.bytes ≤ headerSize := by
  rw [romRegister]
  split <;> decide

theorem live_ofConfig {scan : Scan} {files : Files} {l : Location} {config : Bytes}
    (hconfig : files.readBytes (scan.configPath l) = .ok config)
    (hlong : headerSize ≤ config.size) (sizes : Vector UInt64 6) (romSize : UInt64) :
    (Record.ofConfig l config (romRegister (config.byteAt Register.headerType.toNat)) sizes
      romSize).Live (scan.read files l) := by
  have hread : ∀ {offset : UInt16} {width : Width}, offset.toNat + width.bytes ≤ headerSize →
      scan.read files l offset width = .ok (.ofNat (config.number offset.toNat width.bytes)) :=
    fun hwithin => read_eq_number hconfig (Nat.le_trans hwithin hlong)
  constructor
  · rw [hread (by decide)]
    exact congrArg Except.ok (config.toUInt32_word _)
  · rw [hread (by decide)]
    exact congrArg Except.ok (config.toUInt32_word _)
  · rw [hread (by decide)]
    exact congrArg Except.ok (config.toUInt32_word _)
  · rw [hread (by decide)]
    exact congrArg Except.ok (config.toUInt32_byte _)
  · rw [hread (by decide)]
    exact congrArg Except.ok (config.shiftRight_dword _)
  · intro i
    have hoffset : ∀ i : Fin 6, (0x10 + 4 * .ofNat i : UInt16).toNat = 0x10 + 4 * i := by
      decide
    have hwithin : (0x10 + 4 * .ofNat i : UInt16).toNat + Width.long.bytes ≤ headerSize := by
      rw [hoffset]
      change 16 + 4 * i.val + 4 ≤ 64
      omega
    rw [hread hwithin, hoffset]
    simp only [Record.ofConfig, Fin.getElem_fin, Vector.getElem_ofFn]
    exact congrArg Except.ok (config.toUInt64_dword _)
  · show (scan.read files l (if (config.byteAt Register.headerType.toNat).toNat % 128 = 1 then
      0x38 else 0x30) .long).map UInt32.toUInt64 = _
    rw [← romRegister_eq, hread (romRegister_within _)]
    exact congrArg Except.ok (config.toUInt64_dword _)

end Scan

/-- Where a header can be read, a register at any offset up to that of a
bridge's ROM is decoded; the upper half of a 64-bit BAR is within the header
too. -/
theorem Bar.classify_of_reads_header {read : ConfigReader} (hread : Probe.ReadsHeader read)
    (l : Location) {offset : UInt16} (hoffset : offset ≤ Register.bridgeRom) :
    ∃ bar, (classify read l offset nativeBits).result = .ok bar := by
  have hat : offset.toNat ≤ 0x38 := UInt16.le_iff_toNat_le.mp hoffset
  obtain ⟨register, hregister⟩ := hread Register.headerType .byte (by decide)
  obtain ⟨command, hcommand⟩ := hread Register.command .word (by decide)
  obtain ⟨raw, hraw⟩ := hread offset .long (by
    change offset.toNat + 4 ≤ 64
    omega)
  rw [classify_result, hregister, hraw, hcommand]
  simp only [Except.bind]
  cases kindAt (Header.ofRegister register.toUInt8) offset raw with
  | memory =>
      obtain ⟨upper, hupper⟩ : ∃ upper, upperHalf read offset raw = .ok upper := by
        rw [upperHalf]
        cases widthOf raw with
        | bits32 => exact ⟨0, rfl⟩
        | bits64 =>
            apply hread
            have hnext : (offset + 4).toNat = offset.toNat + 4 := by
              rw [UInt16.toNat_add]
              exact Nat.mod_eq_of_lt (by change offset.toNat + 4 < 65536; omega)
            rw [hnext]
            change offset.toNat + 4 + 4 ≤ 64
            omega
      have hnarrow : ¬ (upper ≠ 0 ∧ nativeBits < 64) := fun h => absurd h.2 (by decide)
      simp only [decoded, hupper, Except.bind, memoryBar, if_neg hnarrow]
      exact ⟨_, rfl⟩
  | io => exact ⟨_, rfl⟩
  | rom => exact ⟨_, rfl⟩
  | unknown => exact ⟨_, rfl⟩

namespace Scan

variable {files : Files} {root : String} {names : List String}

theorem ofListing_eq (files : Files) (root : String) (listing : List String) :
    (ofListing files root listing).result =
      .ok { root := root
            records := inBusOrder (found files root listing)
            names := NameDatabase.installed? files } :=
  ofListing_result files root listing

namespace KernelShaped

variable {record : Record} {l : Location}

/-- A record was taken from the config file in the directory of its location. -/
theorem of_mem_records (h : KernelShaped files root names) {scan : Scan}
    (hscan : (ofListing files root names).result = .ok scan) (hrecord : record ∈ scan.records) :
    (record.location.device < 32 ∧ record.location.function < 8) ∧
    ∃ config sizes romSize,
      files.readBytes (Files.join (Files.join root record.location.name) "config") = .ok config ∧
      headerSize ≤ config.size ∧ config.number Register.vendor.toNat 2 ≠ 0xffff ∧
      record = .ofConfig record.location config
        (romRegister (config.byteAt Register.headerType.toNat)) sizes romSize := by
  obtain ⟨name, hlisted, hname, hread⟩ := Scan.of_mem_records hscan hrecord
  rw [h.canonical name hlisted _ hname] at hread
  exact ⟨Location.range_of_ofName? hname, readFunction_eq_some hread⟩

/-- A function is recorded exactly if it answers; nothing is recorded where
there can be no function. -/
theorem recorded_iff (h : KernelShaped files root names) {scan : Scan}
    (hscan : (ofListing files root names).result = .ok scan) (l : Location) :
    (∃ record ∈ scan.records, record.location = l) ↔
      l.device < 32 ∧ l.function < 8 ∧ Answers files root l := by
  constructor
  · rintro ⟨record, hrecord, rfl⟩
    obtain ⟨⟨hdevice, hfunction⟩, config, -, -, hconfig, hlong, hvendor, -⟩ :=
      h.of_mem_records hscan hrecord
    exact ⟨hdevice, hfunction, config, hconfig, hlong, hvendor⟩
  · rintro ⟨hdevice, hfunction, config, hconfig, hlong, hvendor⟩
    obtain ⟨id, hfile, rfl⟩ := Files.readBytes_eq_ok_iff.mp hconfig
    obtain ⟨sizes, romSize, hrecord⟩ := readFunction_answers (l := l) hfile hlong hvendor
    obtain ⟨place, hroot, -⟩ := Files.list_eq_ok_iff.mp h.listed
    obtain ⟨scan', htake, -, hfinds⟩ := take_enumerates hroot
    have hmem := hfinds l.name l id _ (Location.isName_name l)
      (Location.ofName?_name hdevice hfunction) hfile hrecord
    rw [take, h.listed] at htake
    obtain rfl := Except.ok.inj (hscan.symm.trans htake)
    exact ⟨_, hmem, rfl⟩

/-- While its config file stays as it is, a record says what config space
says, and the BARs and the ROM can be decoded. -/
theorem live (h : KernelShaped files root names) {scan : Scan}
    (hscan : (ofListing files root names).result = .ok scan) (hroot : scan.root = root)
    (hrecord : record ∈ scan.records) {files' : Files}
    (hsame : files'.readBytes (scan.configPath record.location) =
      files.readBytes (scan.configPath record.location)) :
    record.Live (scan.read files' record.location) ∧
      ∀ offset ≤ Register.bridgeRom, ∃ bar,
        (Bar.classify (scan.read files' record.location) record.location offset
          Bar.nativeBits).result = .ok bar := by
  obtain ⟨-, config, sizes, romSize, hconfig, hlong, -, hofConfig⟩ := h.of_mem_records hscan hrecord
  have hnow : files'.readBytes (scan.configPath record.location) = .ok config := by
    rw [hsame, configPath, hroot, hconfig]
  have hreads : Probe.ReadsHeader (scan.read files' record.location) :=
    fun _ _ hwithin => ⟨_, read_eq_number hnow (Nat.le_trans hwithin hlong)⟩
  refine ⟨?_, fun offset hoffset => Bar.classify_of_reads_header hreads _ hoffset⟩
  have hlive := live_ofConfig hnow hlong sizes romSize
  rw [← hofConfig] at hlive
  exact hlive

end KernelShaped

/-- **Scanning a kernel-shaped root.** In whatever order the root is listed,
the scan succeeds and is the same, with its records in strict bus order. There
is one for each location that there can be and where a function answers; one
that does not answer takes no other with it. Whatever becomes of other files, as long as the config
file of a record stays as it was, config space reads as the record says, and a
BAR can be decoded at every offset up to that of a bridge's ROM, which is where
the last of the BARs and ROMs of any header stands. Resource tables may hold
anything, the region of all addresses included, whose size wraps around
(`regionSize`). -/
theorem kernel_tree_scanned (hfiles : files.Distinct) (h : KernelShaped files root names) :
    ∃ scan, (take files root).result = .ok scan ∧
      (∀ listing, listing.Perm names → (ofListing files root listing).result = .ok scan) ∧
      scan.records.Pairwise (fun a b => a.location.rank < b.location.rank) ∧
      (∀ l, (∃ record ∈ scan.records, record.location = l) ↔
        l.device < 32 ∧ l.function < 8 ∧ Answers files root l) ∧
      ∀ files' : Files, ∀ record ∈ scan.records,
        files'.readBytes (scan.configPath record.location) =
          files.readBytes (scan.configPath record.location) →
        record.Live (scan.read files' record.location) ∧
        ∀ offset ≤ Register.bridgeRom, ∃ bar,
          (Bar.classify (scan.read files' record.location) record.location offset
            Bar.nativeBits).result = .ok bar := by
  have hscan := ofListing_eq files root names
  refine ⟨_, ?_, ?_, ?_, h.recorded_iff hscan, ?_⟩
  · rw [take, h.listed]
    exact hscan
  · intro listing hperm
    rw [ofListing_eq, inBusOrder_eq_of_perm (h.nodup_found hfiles)
      (found_perm files root hperm)]
  · exact inBusOrder_strict (h.nodup_found hfiles)
  · intro files' record hrecord hsame
    exact h.live hscan rfl hrecord hsame

/-- The first 64 bytes of a config space: the vendor, the header type and one
register. -/
def header (vendor : List UInt8) (type : UInt8) (last : List UInt8) : Bytes :=
  (vendor ++ List.replicate 12 0 ++ type :: List.replicate 41 0 ++ last ++
    List.replicate 4 0).toArray

/-- A bridge and an ordinary function, a config file cut short, a function that
does not answer, and what is no function. -/
def mixedTree : Files :=
  ((((({} : Files).put "0000:00:02.0/config" (header [0x86, 0x80] 0 [0, 0, 0, 0])).put
    "0000:00:01.0/config" (header [0x86, 0x80] 1 [1, 0, 0xf8, 0xff])).put
    "0000:00:03.0/config" #[0x86, 0x80]).put
    "0000:00:04.0/config" (header [0xff, 0xff] 0 [0, 0, 0, 0])).put
    "0000:00:20.0/config" (header [0x86, 0x80] 0 [0, 0, 0, 0])

theorem mixedTree_shaped : KernelShaped mixedTree "/"
    ["0000:00:02.0", "0000:00:01.0", "0000:00:03.0", "0000:00:04.0", "0000:00:20.0"] where
  listed := by rfl
  canonical := by decide +kernel

/-- The bridge is found, listed from the end too; the file that was cut short
only hides its own function. -/
theorem mixedTree_scanned :
    mixedTree.Distinct ∧ ∃ scan, (take mixedTree "/").result = .ok scan ∧
      (ofListing mixedTree "/" ["0000:00:20.0", "0000:00:04.0", "0000:00:03.0", "0000:00:01.0",
        "0000:00:02.0"]).result = .ok scan ∧
      (∃ record ∈ scan.records, record.location = ⟨0, 0, 1, 0⟩ ∧ record.romBase = 0xfff80001 ∧
        record.Live (scan.read mixedTree record.location)) ∧
      ¬ ∃ record ∈ scan.records, record.location = ⟨0, 0, 3, 0⟩ := by
  have hfiles : mixedTree.Distinct :=
    ((((Files.distinct_empty.put _ _).put _ _).put _ _).put _ _).put _ _
  obtain ⟨scan, htake, hany, -, hfound, hlive⟩ := kernel_tree_scanned hfiles mixedTree_shaped
  have hroms : ∀ record ∈ scan.records, record.location = ⟨0, 0, 1, 0⟩ →
      record.romBase = 0xfff80001 := by
    have hall : ∀ record ∈ found mixedTree "/" ["0000:00:02.0", "0000:00:01.0", "0000:00:03.0",
        "0000:00:04.0", "0000:00:20.0"], record.location = ⟨0, 0, 1, 0⟩ →
        record.romBase = 0xfff80001 := by
      decide +kernel
    obtain rfl := Except.ok.inj ((ofListing_eq _ _ _).symm.trans (hany _ (.refl _)))
    exact fun record hrecord => hall record ((inBusOrder_perm _).mem_iff.mp hrecord)
  refine ⟨hfiles, scan, htake, hany _ (by decide +kernel), ?_, ?_⟩
  · obtain ⟨record, hrecord, hlocation⟩ := (hfound ⟨0, 0, 1, 0⟩).mpr
      ⟨by decide, by decide, header [0x86, 0x80] 1 [1, 0, 0xf8, 0xff], by rfl, by decide +kernel,
        by decide +kernel⟩
    exact ⟨record, hrecord, hlocation, hroms record hrecord hlocation,
      (hlive mixedTree record hrecord rfl).1⟩
  · intro hthere
    obtain ⟨-, -, config, hconfig, hlong, -⟩ := (hfound _).mp hthere
    have hshort : mixedTree.readBytes
        (Files.join (Files.join "/" (Location.name ⟨0, 0, 3, 0⟩)) "config") =
        .ok #[0x86, 0x80] := by rfl
    rw [hshort] at hconfig
    rw [← Except.ok.inj hconfig] at hlong
    exact absurd hlong (by decide)

/-- A directory whose name has a device past the last one is not looked at,
though a function in it would answer. -/
theorem mixedTree_passes_over_device :
    Answers mixedTree "/" ⟨0, 0, 0x20, 0⟩ ∧ ∃ scan, (take mixedTree "/").result = .ok scan ∧
      ¬ ∃ record ∈ scan.records, record.location = ⟨0, 0, 0x20, 0⟩ := by
  constructor
  · exact ⟨header [0x86, 0x80] 0 [0, 0, 0, 0], by rfl, by decide +kernel, by decide +kernel⟩
  · refine ⟨_, by rw [take, mixedTree_shaped.listed]; exact ofListing_eq _ _ _, ?_⟩
    intro hthere
    obtain ⟨hdevice, -⟩ := (mixedTree_shaped.recorded_iff (ofListing_eq _ _ _) _).mp hthere
    exact absurd hdevice (by decide)

end Scan

end PciBus

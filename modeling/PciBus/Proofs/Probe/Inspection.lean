import PciBus.Probe.Inspection
import PciBus.Proofs.Bar.Decoding
import PciBus.Proofs.Handle.Mapped
import PciBus.Proofs.Handle.Visit
import PciBus.Proofs.Scan.Enumeration

/-!
# When an inspection fails

An inspection reads config space, and nothing that it reads there can make it
fail: the function was scanned, so its config file has a whole header, and
within a header every register can be read (`Scan.reads_header`). A BAR that
cannot be decoded is a line of the report, and the ROM can always be decoded,
since its register stands where the layout has it (`Probe.inspectBars_succeeds`).
What is left is the register that is asked for. It can be read exactly when
`Probe.Readable` holds (`Probe.readRegister_eq_ok_iff`).
-/

namespace PciBus

/-! ## Config space of a scanned function -/

namespace Scan

variable {files : Files} {root directory : String} {location : Location} {record : Record}

/-- What is scanned is a config file with a whole header. -/
theorem of_readFunction
    (h : (readFunction files directory location).result = .ok (some record)) :
    record.location = location ∧ ∃ id, files.fileAt (Files.join directory "config") = .ok id ∧
      headerSize ≤ (files.bytes id).size := by
  obtain ⟨config, sizes, romSize, hconfig, hlong, -, rfl⟩ := readFunction_eq_some h
  obtain ⟨id, hfile, rfl⟩ := Files.readBytes_eq_ok_iff.mp hconfig
  exact ⟨rfl, id, hfile, hlong⟩

/-- Every record of a scan is that of a listed directory. -/
theorem of_mem_records {listing : List String} {scan : Scan}
    (hscan : (ofListing files root listing).result = .ok scan) (hrecord : record ∈ scan.records) :
    ∃ name ∈ listing, Location.ofName? name = some record.location ∧
      (readFunction files (Files.join root name) record.location).result = .ok (some record) := by
  rw [ofListing_result] at hscan
  obtain rfl := Except.ok.inj hscan
  simp only [inBusOrder, List.mem_mergeSort, List.mem_flatMap] at hrecord
  obtain ⟨⟨name, l⟩, hentry, hread⟩ := hrecord
  obtain ⟨listed, hlisted, hname⟩ := List.mem_filterMap.mp hentry
  obtain ⟨found, hfound, heq⟩ := Option.map_eq_some_iff.mp hname
  obtain ⟨rfl, rfl⟩ := Prod.mk.inj heq
  have hresult := toOption_join_eq_some_iff.mp (Option.mem_toList.mp hread)
  obtain ⟨rfl, -⟩ := of_readFunction hresult
  exact ⟨listed, hlisted, hfound, hresult⟩

/-- Where directories have the names of their locations, the config file of a
scanned function is the one that it was scanned from. -/
theorem config_of_mem_records {listing : List String} {scan : Scan}
    (hscan : (ofListing files root listing).result = .ok scan)
    (hcanonical : ∀ name ∈ listing, ∀ l, Location.ofName? name = some l → name = l.name)
    (hrecord : record ∈ scan.records) :
    ∃ id, files.fileAt (scan.configPath record.location) = .ok id ∧
      headerSize ≤ (files.bytes id).size := by
  have hroot : scan.root = root := by
    rw [ofListing_result] at hscan
    rw [← Except.ok.inj hscan]
  obtain ⟨name, hlisted, hname, hread⟩ := of_mem_records hscan hrecord
  obtain ⟨-, id, hfile, hlong⟩ := of_readFunction hread
  rw [hcanonical name hlisted record.location hname] at hfile
  exact ⟨id, by rw [configPath, hroot]; exact hfile, hlong⟩

theorem reads_header {scan : Scan} {id : Nat}
    (hfile : files.fileAt (scan.configPath location) = .ok id)
    (hlong : headerSize ≤ (files.bytes id).size) {offset : UInt16} {width : Width}
    (hwithin : offset.toNat + width.bytes ≤ headerSize) :
    ∃ value, scan.read files location offset width = .ok value := by
  refine ⟨.ofNat ((files.bytes id).number offset.toNat width.bytes), ?_⟩
  rw [read, hfile]
  exact if_pos (Nat.le_trans hwithin hlong)

end Scan

namespace Probe

/-! ## BARs and ROM -/

def ReadsHeader (read : ConfigReader) : Prop :=
  ∀ offset width, offset.toNat + width.bytes ≤ Scan.headerSize →
    ∃ value, read offset width = .ok value

/-- Where a layout has the ROM, a register is that of a ROM. -/
theorem kindAt_of_layout {header : Header} {count : Nat} {rom : UInt16}
    (h : layout? header = some (count, rom)) (raw : UInt32) :
    Bar.kindAt header rom raw = .rom ∧ rom.toNat + Width.long.bytes ≤ Scan.headerSize := by
  cases header with
  | ordinary =>
      obtain ⟨-, rfl⟩ := Prod.mk.inj (Option.some.inj h)
      exact ⟨rfl, by decide⟩
  | bridge =>
      obtain ⟨-, rfl⟩ := Prod.mk.inj (Option.some.inj h)
      exact ⟨rfl, by decide⟩
  | cardBus => cases h
  | other type => cases h

/-- Nothing in config space makes the inspection fail. -/
theorem inspectBars_succeeds {read : ConfigReader} (hread : ReadsHeader read)
    (location : Location) : (inspectBars read location).failure = none := by
  obtain ⟨register, hregister⟩ := hread Register.headerType .byte (by decide)
  rw [inspectBars, hregister]
  cases hlayout : layout? (.ofRegister register.toUInt8) with
  | none => simp only [hlayout]
  | some found =>
      obtain ⟨count, rom⟩ := found
      obtain ⟨-, hwithin⟩ := kindAt_of_layout hlayout 0
      obtain ⟨raw, hraw⟩ := hread rom .long hwithin
      obtain ⟨command, hcommand⟩ := hread Register.command .word (by decide)
      have hrom : (Bar.classify read location rom Bar.nativeBits).result =
          .ok ⟨.rom, .bits32, false, raw.toUInt64 &&& ~~~0x7ff⟩ := by
        rw [Bar.classify_result, hregister, hraw, hcommand]
        simp only [Except.bind, (kindAt_of_layout hlayout raw).1]
        rfl
      simp only [hlayout, hrom]

/-! ## The register that is asked for -/

def dwordAt (files : Files) (id : Nat) (offset : UInt64) : UInt32 :=
  .ofNat ((files.bytes id).number offset.toNat 4)

def registerLine (bar offset : UInt64) (value : UInt32) : String :=
  s!"BAR{bar.toNat}[0x{Text.hex 1 offset.toNat}] = 0x{Text.hex 8 value.toNat}"

/-- The register at an offset of a BAR can be read: the BAR is one of the six
and declares a size, its resource file, which has number `id`, is that long,
and the offset is a dword's within that size. -/
structure Readable (files : Files) (directory : String) (record : Record) (bar offset : UInt64)
    (id : Nat) : Prop where
  declared : ∃ size, record.sizes[bar.toNat]? = some size ∧ size ≠ 0 ∧
    size.toNat ≤ (files.bytes id).size ∧ offset.toNat + 4 ≤ size.toNat
  file : files.fileAt (Files.join directory s!"resource{bar.toNat}") = .ok id
  aligned : offset.toNat % 4 = 0

/-- Setting a flag makes no register readable and none unreadable. -/
theorem readable_overwrite {files : Files} {directory : String} {record : Record}
    {bar offset : UInt64} {id flag : Nat} {values : List UInt8} :
    Readable (files.overwrite flag 0 values) directory record bar offset id ↔
      Readable files directory record bar offset id := by
  have hsize : ((files.overwrite flag 0 values).bytes id).size = (files.bytes id).size := by
    rw [Files.bytes_overwrite]
    split <;> simp
  have hfile := (files.grows_overwrite flag 0 values).fileAt
    (Files.join directory s!"resource{bar.toNat}")
  constructor
  · rintro ⟨hdeclared, hopened, haligned⟩
    exact ⟨hsize ▸ hdeclared, hfile ▸ hopened, haligned⟩
  · rintro ⟨hdeclared, hopened, haligned⟩
    exact ⟨hsize.symm ▸ hdeclared, hfile.symm ▸ hopened, haligned⟩

theorem readRegister_mapped {τ : Type} {h mapped : Handle τ} {m : Mapping} {files : Files}
    {bar : UInt64} (hmap : (h.map files bar).result = .ok mapped) (hm : mapped.mapping = some m)
    (offset : UInt64) :
    readRegister h files bar offset =
      ((m.read files .dword offset).result.mapError Failure.ofFault).map
        (registerLine bar offset) := by
  rw [readRegister, hmap, ← Handle.read_of_mapped hm]
  cases hread : (mapped.read files .dword offset).result <;>
    simp [Except.mapError, bind, Except.bind, pure, Except.pure, Except.map, hread, registerLine]

/-- Through a handle that has nothing mapped yet the register is read exactly
when it is readable, and what is shown is the dword of the resource file. -/
theorem readRegister_eq_ok_iff {τ : Type} {h : Handle τ} (hnone : h.mapping = none)
    (files : Files) (bar offset : UInt64) (line : String) :
    readRegister h files bar offset = .ok line ↔
      ∃ id, Readable files h.path h.record bar offset id ∧
        line = registerLine bar offset (dwordAt files id offset) := by
  constructor
  · intro hline
    cases hmap : (h.map files bar).result with
    | error e =>
        rw [readRegister, hmap] at hline
        cases hline
    | ok mapped =>
        obtain ⟨hbar, hfound⟩ := Handle.map_eq_ok_iff.mp hmap
        rw [hnone] at hfound
        obtain ⟨id, hfile, hzero, hlong, rfl⟩ := hfound
        have hsize : h.record.sizes[bar.toNat]? = some (h.declared bar) := by
          rw [Handle.declared, dif_pos hbar, Vector.getElem?_eq_getElem hbar]
        rw [readRegister_mapped (m := ⟨id, h.declared bar⟩) hmap rfl] at hline
        -- the BAR is mapped: what can still go wrong is the offset
        by_cases hrange : InRange (h.declared bar) .dword offset
        · refine ⟨id, ⟨⟨_, hsize, hzero, hlong, hrange.2⟩, hfile, hrange.1⟩, ?_⟩
          rw [Mapping.read_eq_ok hrange, Mapping.peek_of_fits hlong hrange] at hline
          exact (Except.ok.inj hline).symm
        · obtain ⟨e, he⟩ := Mapping.check_refused (m := ⟨id, h.declared bar⟩) hrange
          simp [Mapping.read, he, Except.bind, Except.mapError, Except.map] at hline
  · rintro ⟨id, ⟨⟨size, hsize, hzero, hlong, hwithin⟩, hfile, haligned⟩, rfl⟩
    obtain ⟨hbar, hget⟩ := Vector.getElem?_eq_some_iff.mp hsize
    have hdeclared : h.declared bar = size := by rw [Handle.declared, dif_pos hbar, hget]
    have hmap : (h.map files bar).result = .ok { h with mapping := some ⟨id, size⟩ } := by
      rw [Handle.map_eq_ok_iff, hnone, hdeclared]
      exact ⟨hbar, id, hfile, hzero, hlong, rfl⟩
    have hrange : InRange size .dword offset := ⟨haligned, hwithin⟩
    rw [readRegister_mapped (m := ⟨id, size⟩) hmap rfl, Mapping.read_eq_ok hrange,
      Mapping.peek_of_fits hlong hrange]
    rfl

/-! ## The whole inspection -/

/-- Once the header can be read, an inspection fails only over the register
that is asked for; if that can be read, its line comes last. -/
theorem inspect_succeeds_iff {τ : Type} {read : ConfigReader} (hread : ReadsHeader read)
    (files : Files) (h : Handle τ) (wanted : Option (UInt64 × UInt64)) :
    ((inspect read files h wanted).failure = none ↔
      ∀ bar offset, wanted = some (bar, offset) →
        ∃ line, readRegister h files bar offset = .ok line) ∧
    ∀ bar offset line, wanted = some (bar, offset) →
      readRegister h files bar offset = .ok line →
      ∃ earlier, (inspect read files h wanted).lines = earlier ++ [line] := by
  have hbars := inspectBars_succeeds hread h.record.location
  cases wanted with
  | none => simp [inspect, hbars]
  | some asked =>
      obtain ⟨bar, offset⟩ := asked
      cases hline : readRegister h files bar offset with
      | error failure =>
          refine ⟨⟨fun hnone => ?_, fun hall => ?_⟩, ?_⟩
          · simp [inspect, hbars, hline] at hnone
          · obtain ⟨line, hok⟩ := hall bar offset rfl
            rw [hline] at hok
            cases hok
          · rintro bar' offset' line ⟨⟩ hok
            rw [hline] at hok
            cases hok
      | ok line =>
          refine ⟨⟨?_, fun _ => by simp [inspect, hbars, hline]⟩, ?_⟩
          · rintro - bar' offset' ⟨⟩
            exact ⟨line, hline⟩
          · rintro bar' offset' line' ⟨⟩ hok
            rw [hline] at hok
            obtain rfl := Except.ok.inj hok
            exact ⟨titleLine h :: (inspectBars read h.record.location).lines, by
              simp [inspect, hbars, hline]⟩

end Probe

end PciBus

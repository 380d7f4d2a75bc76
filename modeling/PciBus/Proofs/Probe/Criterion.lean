import PciBus.Proofs.Probe.Inspection
import PciBus.Proofs.Probe.Restoration

/-!
# When a probe succeeds

A probe goes through its settings, a scan, the choice of a device, switching
it on, the inspection and giving everything back. Each stage either fails, and
with it the probe, or hands a known value to the next; so the conditions of the
stages add up to one criterion, `Probe.Passes`. It says nothing of config space
or of giving the device back: neither can fail once a device was chosen
(`Probe.inspectBars_succeeds`, `Probe.conclude_switchedOn`).
-/

namespace PciBus.Probe

/-! ## The criterion -/

/-- The root of the scan: that of the options if there is one. -/
def rootOf (options : Options) (fallback : Settings) : String :=
  options.root.getD fallback.root

/-- The file with the name database, if there is to be one. -/
def namesOf (options : Options) (fallback : Settings) : Option String :=
  options.names <|> fallback.names

/-- The filter in force: that of the options if there is one. -/
def filterOf (options : Options) (fallback : Settings) : Except Filter.BadField Filter :=
  match options.filter with
  | some text => Filter.read text
  | none => .ok (fallback.filter.getD .any)

/-- A function passes the filter and is on the list of devices, which ends at
the first with vendor zero. -/
def accepts (options : Options) (filter : Filter) (record : Record) : Bool :=
  filter.accepts record.location &&
    (options.ids.takeWhile (·.vendor != 0)).any fun id =>
      id.vendor == record.vendor && id.device == record.device

/-- The root can be listed, the filter can be read, and of the functions that
are scanned this one alone is accepted. -/
def Chosen (options : Options) (fallback : Settings) (files : Files) (record : Record) : Prop :=
  ∃ listing scan filter, files.list (rootOf options fallback) = .ok listing ∧
    (Scan.ofListing files (rootOf options fallback) listing).result = .ok scan ∧
    filterOf options fallback = .ok filter ∧
    scan.records.filter (accepts options filter) = [record]

theorem Chosen.unique {options : Options} {fallback : Settings} {files : Files}
    {record other : Record} (h : Chosen options fallback files record)
    (hother : Chosen options fallback files other) : record = other := by
  obtain ⟨listing, scan, filter, hlist, hscan, hfilter, hone⟩ := h
  obtain ⟨listing', scan', filter', hlist', hscan', hfilter', hone'⟩ := hother
  obtain rfl := Except.ok.inj (hlist.symm.trans hlist')
  obtain rfl := Except.ok.inj (hscan.symm.trans hscan')
  obtain rfl := Except.ok.inj (hfilter.symm.trans hfilter')
  exact List.singleton_inj.mp (hone.symm.trans hone')

def directoryOf (options : Options) (fallback : Settings) (record : Record) : String :=
  Files.join (rootOf options fallback) record.location.name

/-- The function is chosen, its enable file, which has number `flag`, starts
with a flag, and the register that is asked for can be read. -/
structure Passes (options : Options) (fallback : Settings) (files : Files) (record : Record)
    (flag : Nat) : Prop where
  chosen : Chosen options fallback files record
  enable : files.fileAt (Files.join (directoryOf options fallback record) "enable") = .ok flag
  flagged : Flagged (files.bytes flag)
  register : ∀ bar offset, register? options = some (bar, offset) →
    ∃ id, Readable files (directoryOf options fallback record) record bar offset id

/-! ## The stages -/

section

variable {options : Options} {env : Environment} {fallback : Settings} {files : Files}
  {listing : List String}

/-- Settings as the options and the environment ask for. -/
structure Asked (options : Options) (fallback : Settings) (filter : Filter) (settings : Settings) :
    Prop where
  root : settings.root = rootOf options fallback
  names : settings.names = namesOf options fallback
  filter : settings.filter.getD .any = filter

theorem settings_asked (henv : Settings.ofEnvironment env = .ok fallback) {filter : Filter}
    (hfilter : filterOf options fallback = .ok filter) :
    ∃ settings, Probe.settings options env = .ok settings ∧
      Asked options fallback filter settings := by
  rw [filterOf] at hfilter
  cases htext : options.filter with
  | none =>
      rw [htext] at hfilter
      refine ⟨{ root := rootOf options fallback, names := namesOf options fallback,
                filter := fallback.filter }, ?_, rfl, rfl, Except.ok.inj hfilter⟩
      rw [Probe.settings, henv, htext]
      rfl
  | some text =>
      rw [htext] at hfilter
      simp only at hfilter
      refine ⟨{ root := rootOf options fallback, names := namesOf options fallback,
                filter := some filter }, ?_, rfl, rfl, rfl⟩
      rw [Probe.settings, henv, htext]
      simp only [Settings.readFilter, hfilter]
      rfl

theorem settings_refused (henv : Settings.ofEnvironment env = .ok fallback) {e : Filter.BadField}
    (hfilter : filterOf options fallback = .error e) :
    ∃ failure, Probe.settings options env = .error failure := by
  rw [filterOf] at hfilter
  cases htext : options.filter with
  | none => rw [htext] at hfilter; cases hfilter
  | some text =>
      rw [htext] at hfilter
      simp only at hfilter
      refine ⟨.ofFault (.badFilter e), ?_⟩
      rw [Probe.settings, henv, htext]
      simp only [Settings.readFilter, hfilter]
      rfl

/-- The name database changes nothing about what was scanned. -/
theorem scan_listed {settings : Settings} (hlist : files.list settings.root = .ok listing)
    (hnames : ∀ path, settings.names = some path → ∃ text, files.readText path = .ok text)
    {scan : Scan} (hscan : (Scan.ofListing files settings.root listing).result = .ok scan) :
    ∃ names, (settings.scan files).result = .ok { scan with names := names } := by
  have htake : (Scan.take files settings.root).result = .ok scan := by
    rw [Scan.take, hlist]
    exact hscan
  cases hpath : settings.names with
  | none => exact ⟨scan.names, by simp [Settings.scan, htake, hpath, Except.bind]⟩
  | some path =>
      obtain ⟨text, htext⟩ := hnames path hpath
      refine ⟨some (NameDatabase.read text), ?_⟩
      simp [Settings.scan, htake, hpath, Scan.withNames, NameDatabase.load, htext, Except.bind]

theorem scan_unlisted {settings : Settings} {e : FileFault}
    (hlist : files.list settings.root = .error e) :
    ∃ fault, (settings.scan files).result = .error fault := by
  refine ⟨.file .reading settings.root e, ?_⟩
  simp [Settings.scan, Scan.take, hlist, Except.bind]

/-- Once the tree is scanned, a probe goes on with that scan. -/
theorem probe_of_scan {settings : Settings} {scan : Scan} (hlog : checkLog options = .ok ())
    (hsettings : Probe.settings options env = .ok settings)
    (hscan : (settings.scan files).result = .ok scan) :
    probe options env files = probeScan options settings scan files := by
  simp only [probe, hlog, bind, Except.bind, hsettings, hscan]

theorem choices_fst {filter : Filter} {settings : Settings}
    (hfilter : settings.filter.getD .any = filter) (scan : Scan) :
    (choices options settings scan files).map Prod.fst =
      scan.records.filter (accepts options filter) := by
  have hentry : ∀ record, ((whitelist options).entryFor? record).isSome =
      (options.ids.takeWhile (·.vendor != 0)).any fun id =>
        id.vendor == record.vendor && id.device == record.device := by
    intro record
    rw [Bool.eq_iff_iff, Whitelist.entryFor?, Whitelist.active, whitelist, List.takeWhile_map,
      List.find?_isSome, List.any_eq_true]
    simp [Function.comp_def]
  rw [choices, Session.choices, Whitelist.candidates_fst]
  simp only [hentry, Settings.wanted, hfilter]
  rfl

/-- The new handle on a function has a flag exactly if the directory has an
enable file that starts with one. -/
theorem newHandle_hasFlag {filter : Filter} {settings : Settings} {scan : Scan}
    {found : Record × Supported Unit} {flag : Nat}
    (hasked : Asked options fallback filter settings) :
    (newHandle settings scan files found).HasFlag files flag ↔
      files.fileAt (Files.join (directoryOf options fallback found.1) "enable") = .ok flag ∧
        Flagged (files.bytes flag) := by
  have hpath : (newHandle settings scan files found).flagPath =
      Files.join (directoryOf options fallback found.1) "enable" := by
    rw [directoryOf, ← hasked.root]
    rfl
  rw [Handle.HasFlag, Handle.Governs, hpath]

/-! ## Through the stages -/

section

variable (hlog : checkLog options = .ok ()) (henv : Settings.ofEnvironment env = .ok fallback)
  (hnames : ∀ path, namesOf options fallback = some path →
    ∃ text, files.readText path = .ok text)
include hlog henv hnames

/-- Once there are settings and a scan, the scan decides. -/
theorem probe_scanned {filter : Filter} {scan : Scan}
    (hlist : files.list (rootOf options fallback) = .ok listing)
    (hscan : (Scan.ofListing files (rootOf options fallback) listing).result = .ok scan)
    (hfilter : filterOf options fallback = .ok filter) :
    ∃ settings names, Asked options fallback filter settings ∧
      probe options env files = probeScan options settings { scan with names := names } files := by
  obtain ⟨settings, hsettings, hasked⟩ := settings_asked henv hfilter
  obtain ⟨names, hnamed⟩ := scan_listed (hasked.root ▸ hlist) (hasked.names ▸ hnames)
    (hasked.root ▸ hscan)
  exact ⟨settings, names, hasked, probe_of_scan hlog hsettings hnamed⟩

/-- A chosen device that has a flag is inspected with the flag set. -/
theorem probe_chosen {record : Record} {flag : Nat} (hchosen : Chosen options fallback files record)
    (henable : files.fileAt (Files.join (directoryOf options fallback record) "enable") = .ok flag)
    (hflagged : Flagged (files.bytes flag))
    (hcanonical : ∀ listing, files.list (rootOf options fallback) = .ok listing →
      ∀ name ∈ listing, ∀ l, Location.ofName? name = some l → name = l.name) :
    ∃ read, ∃ h : Handle Unit, ReadsHeader read ∧ h.mapping = none ∧ h.record = record ∧
      h.path = directoryOf options fallback record ∧
      probe options env files =
        (inspect read (files.overwrite flag 0 [Handle.flagOn]) h (register? options), files) := by
  obtain ⟨listing, scan, filter, hlist, hscan, hfilter, hone⟩ := hchosen
  obtain ⟨settings, names, hasked, hprobe⟩ :=
    probe_scanned hlog henv hnames hlist hscan hfilter
  obtain ⟨found, hchoice, rfl⟩ := List.map_eq_singleton_iff.mp
    ((choices_fst hasked.filter { scan with names := names }).trans hone)
  have hflag : (newHandle settings { scan with names := names } files found).HasFlag files flag :=
    (newHandle_hasFlag hasked).mpr ⟨henable, hflagged⟩
  rw [hprobe, probeScan_found hchoice hflag]
  refine ⟨_, _, ?_, rfl, rfl, ?_, rfl⟩
  · -- setting the flag cuts no config file short
    have hmem : found.1 ∈ scan.records := by
      have hself : found.1 ∈ scan.records.filter (accepts options filter) := by rw [hone]; simp
      exact (List.mem_filter.mp hself).1
    obtain ⟨id, hfile, hlong⟩ := Scan.config_of_mem_records hscan (hcanonical _ hlist) hmem
    have hgrows := files.grows_overwrite flag 0 [Handle.flagOn]
    intro offset width hwithin
    exact Scan.reads_header ((hgrows.fileAt _).trans hfile)
      (Nat.le_trans hlong (hgrows.size id)) hwithin
  · rw [directoryOf, ← hasked.root]
    rfl

/-- Without a chosen device that has a flag the probe fails. -/
theorem probe_unchosen (hnone : ∀ record flag, Chosen options fallback files record →
      files.fileAt (Files.join (directoryOf options fallback record) "enable") = .ok flag →
      ¬ Flagged (files.bytes flag)) :
    ∃ failure, (probe options env files).1.failure = some failure := by
  cases hfilter : filterOf options fallback with
  | error e =>
      obtain ⟨failure, hfailed⟩ := settings_refused henv hfilter
      exact ⟨failure, by simp only [probe, hlog, bind, Except.bind, hfailed]⟩
  | ok filter =>
      cases hlist : files.list (rootOf options fallback) with
      | error e =>
          obtain ⟨settings, hsettings, hasked⟩ := settings_asked henv hfilter
          have hunlisted : files.list settings.root = .error e := hasked.root ▸ hlist
          obtain ⟨fault, hfault⟩ := scan_unlisted hunlisted
          exact ⟨_, by simp only [probe, hlog, bind, Except.bind, hsettings, hfault]; rfl⟩
      | ok listing =>
          obtain ⟨scan, hscan⟩ : ∃ scan,
              (Scan.ofListing files (rootOf options fallback) listing).result = .ok scan :=
            ⟨_, Scan.ofListing_result _ _ _⟩
          obtain ⟨settings, names, hasked, hprobe⟩ :=
            probe_scanned hlog henv hnames hlist hscan hfilter
          have hchoices : (choices options settings { scan with names := names } files).map
              Prod.fst = _ := choices_fst hasked.filter _
          have hunflagged : ∀ found flag,
              choices options settings { scan with names := names } files = [found] →
              ¬ (newHandle settings { scan with names := names } files found).HasFlag files
                flag := by
            intro found flag hchoice hflag
            obtain ⟨henable, hflagged⟩ := (newHandle_hasFlag hasked).mp hflag
            rw [hchoice] at hchoices
            exact hnone found.1 flag ⟨listing, scan, filter, hlist, hscan, hfilter, hchoices.symm⟩
              henable hflagged
          obtain ⟨failure, hfailed⟩ := probeScan_failed options settings _ files hunflagged
          exact ⟨failure, by rw [hprobe, hfailed]⟩

end

end

/-! ## The whole probe -/

/-- What a probe leaves when its arguments are in order. -/
theorem run_probe {arguments : List String} {env : Environment} {files : Files} {options : Options}
    (harguments : Request.read (env.bytes? logVariable) arguments = .ok (.probe options)) :
    run arguments env files =
      .ofReport (probe options env files).1 (probe options env files).2 := by
  rw [run, harguments]

theorem code_ofReport (report : Report) (files : Files) :
    ((Outcome.ofReport report files).code = 0 ↔ report.failure = none) ∧
      ((Outcome.ofReport report files).code ≠ 0 → (Outcome.ofReport report files).code = 1) := by
  cases hfailure : report.failure with
  | none => simp [Outcome.ofReport, hfailure]
  | some failure => simp [Outcome.ofReport, hfailure]

theorem output_ofReport {report : Report} {files : Files} {earlier : List String} {line : String}
    (hlines : report.lines = earlier ++ [line]) :
    (Outcome.ofReport report files).output =
      String.join (earlier.map (· ++ "\n")) ++ line ++ "\n" := by
  simp [Outcome.ofReport, hlines, String.append_assoc]

/-- **When a probe succeeds.** Let the arguments ask for a probe, the log filter
and the environment be in order, a name database be readable, and the
directories have the names of their locations. Then the probe answers 0 exactly
when some function passes, and 1 otherwise. If a register was asked for, the
last line of what it prints shows the dword of the resource file, as it is
while the flag is set; that is as it was, unless the file is the enable file by
another name. -/
theorem run_succeeds_iff {arguments : List String} {env : Environment} {files : Files}
    {options : Options} {fallback : Settings}
    (harguments : Request.read (env.bytes? logVariable) arguments = .ok (.probe options))
    (hlog : checkLog options = .ok ()) (henv : Settings.ofEnvironment env = .ok fallback)
    (hnames : ∀ path, namesOf options fallback = some path →
      ∃ text, files.readText path = .ok text)
    (hcanonical : ∀ listing, files.list (rootOf options fallback) = .ok listing →
      ∀ name ∈ listing, ∀ l, Location.ofName? name = some l → name = l.name) :
    let outcome := run arguments env files
    (outcome.code = 0 ↔ ∃ record flag, Passes options fallback files record flag) ∧
    (outcome.code ≠ 0 → outcome.code = 1) ∧
    ∀ bar offset, outcome.code = 0 → register? options = some (bar, offset) →
      ∃ record flag id earlier value, Passes options fallback files record flag ∧
        Readable files (directoryOf options fallback record) record bar offset id ∧
        outcome.output = earlier ++ registerLine bar offset value ++ "\n" ∧
        value = dwordAt (files.overwrite flag 0 [Handle.flagOn]) id offset ∧
        (id ≠ flag → value = dwordAt files id offset) := by
  intro outcome
  have houtcome : outcome = _ := run_probe harguments
  obtain ⟨hzero, hone⟩ := code_ofReport (probe options env files).1 (probe options env files).2
  rw [← houtcome] at hzero hone
  -- whatever device is chosen, its inspection fails only over the register
  have hinspected : ∀ record flag, Chosen options fallback files record →
      files.fileAt (Files.join (directoryOf options fallback record) "enable") = .ok flag →
      Flagged (files.bytes flag) →
      (outcome.code = 0 ↔ Passes options fallback files record flag) ∧
      ∀ bar offset id, register? options = some (bar, offset) →
        Readable files (directoryOf options fallback record) record bar offset id →
        ∃ earlier, outcome.output = earlier ++ registerLine bar offset
          (dwordAt (files.overwrite flag 0 [Handle.flagOn]) id offset) ++ "\n" := by
    intro record flag hchosen henable hflagged
    obtain ⟨read, h, hread, hnone, rfl, hpath, hprobe⟩ :=
      probe_chosen hlog henv hnames hchosen henable hflagged hcanonical
    obtain ⟨hfailure, hlast⟩ := inspect_succeeds_iff hread
      (files.overwrite flag 0 [Handle.flagOn]) h (register? options)
    simp only [readRegister_eq_ok_iff hnone, readable_overwrite, hpath] at hfailure hlast
    rw [hprobe] at hzero houtcome
    refine ⟨hzero.trans (hfailure.trans ⟨fun hall => ⟨hchosen, henable, hflagged, ?_⟩, ?_⟩), ?_⟩
    · intro bar offset hasked
      obtain ⟨-, id, hreadable, -⟩ := hall bar offset hasked
      exact ⟨id, hreadable⟩
    · intro hpasses bar offset hasked
      obtain ⟨id, hreadable⟩ := hpasses.register bar offset hasked
      exact ⟨_, id, hreadable, rfl⟩
    · intro bar offset id hasked hreadable
      obtain ⟨earlier, hlines⟩ := hlast bar offset _ hasked ⟨id, hreadable, rfl⟩
      rw [houtcome, output_ofReport hlines]
      exact ⟨_, rfl⟩
  have hsucceeds : outcome.code = 0 ↔ ∃ record flag, Passes options fallback files record flag := by
    constructor
    · intro hcode
      by_contra hfails
      obtain ⟨failure, hfailed⟩ := probe_unchosen hlog henv hnames
        fun record flag hchosen henable hflagged => hfails ⟨record, flag,
          (hinspected record flag hchosen henable hflagged).1.mp hcode⟩
      rw [hzero.mp hcode] at hfailed
      cases hfailed
    · rintro ⟨record, flag, hpasses⟩
      exact (hinspected record flag hpasses.chosen hpasses.enable hpasses.flagged).1.mpr hpasses
  refine ⟨hsucceeds, hone, fun bar offset hcode hasked => ?_⟩
  obtain ⟨record, flag, hpasses⟩ := hsucceeds.mp hcode
  obtain ⟨id, hreadable⟩ := hpasses.register bar offset hasked
  obtain ⟨earlier, houtput⟩ := (hinspected record flag hpasses.chosen hpasses.enable
    hpasses.flagged).2 bar offset id hasked hreadable
  refine ⟨record, flag, id, earlier, _, hpasses, hreadable, houtput, rfl, fun hother => ?_⟩
  rw [dwordAt, Files.bytes_overwrite, if_neg (Ne.symm hother)]
  rfl

/-- A device that is switched off, with a BAR of eight bytes. -/
def cardTree : Files where
  entries :=
    [(["0000:00:01.0"], .directory), (["0000:00:01.0", "config"], .file 0),
      (["0000:00:01.0", "enable"], .file 1), (["0000:00:01.0", "resource"], .file 2),
      (["0000:00:01.0", "resource0"], .file 3)]
  contents :=
    #[([0x86, 0x80, 0x34, 0x12] ++ List.replicate 60 (0 : UInt8)).toArray, #[0x30, 0x0a],
      "0x1000 0x1007\n".toUTF8.data, #[0, 0, 0, 0, 0x78, 0x56, 0x34, 0x12]]

/-- Options that ask for the last register of the BAR. -/
def lastRegister : Options where
  ids := [⟨0x8086, 0x1234⟩]
  root := some "/"
  read := some 4

theorem cardTree_probed :
    ∃ earlier, (run ["--sysfs-root", "/", "--id", "8086:1234", "--read=0x4"] [] cardTree).code = 0 ∧
      (run ["--sysfs-root", "/", "--id", "8086:1234", "--read=0x4"] [] cardTree).output =
        earlier ++ registerLine 0 4 0x12345678 ++ "\n" := by
  have hlist : cardTree.list "/" = .ok ["0000:00:01.0"] := by rfl
  have hcanonical : ∀ listing, cardTree.list "/" = .ok listing →
      ∀ name ∈ listing, ∀ l, Location.ofName? name = some l → name = l.name := by
    intro listing hlisting name hname l hl
    obtain rfl := Except.ok.inj (hlist.symm.trans hlisting)
    obtain rfl := List.mem_singleton.mp hname
    obtain rfl : ⟨0, 0, 1, 0⟩ = l := Option.some.inj hl
    rfl
  have harguments : Request.read (Environment.bytes? [] logVariable)
      ["--sysfs-root", "/", "--id", "8086:1234", "--read=0x4"] = .ok (.probe lastRegister) := by
    rfl
  have henv : Settings.ofEnvironment [] = .ok {} := by rfl
  have hnames : ∀ path, namesOf lastRegister {} = some path →
      ∃ text, cardTree.readText path = .ok text := fun path hpath => by cases hpath
  obtain ⟨hsucceeds, -, hregister⟩ :=
    run_succeeds_iff harguments (by rfl) henv hnames hcanonical
  -- the one device is chosen
  obtain ⟨scan, hscan, hscanned⟩ : ∃ scan,
      (Scan.ofListing cardTree "/" ["0000:00:01.0"]).result = .ok scan ∧
      (scan.records.filter (accepts lastRegister .any)).map (fun r => (r.location, r.sizes[0]?)) =
        [(⟨0, 0, 1, 0⟩, some 8)] :=
    ⟨_, Scan.ofListing_result _ _ _, by decide +kernel⟩
  obtain ⟨record, hone, hrecord⟩ := List.map_eq_singleton_iff.mp hscanned
  obtain ⟨hlocation, hsize⟩ := Prod.mk.inj hrecord
  have hchosen : Chosen lastRegister {} cardTree record :=
    ⟨_, scan, .any, hlist, hscan, rfl, hone⟩
  have hdirectory : directoryOf lastRegister {} record = "/0000:00:01.0" := by
    rw [directoryOf, hlocation]
    rfl
  have henable : cardTree.fileAt (Files.join (directoryOf lastRegister {} record) "enable") =
      .ok 1 := by
    rw [hdirectory]
    rfl
  have hfile : cardTree.fileAt
      (Files.join (directoryOf lastRegister {} record) s!"resource{(0 : UInt64).toNat}") =
        .ok 3 := by
    rw [hdirectory]
    rfl
  have hpasses : Passes lastRegister {} cardTree record 1 := by
    refine ⟨hchosen, henable, .inl rfl, ?_⟩
    rintro bar offset ⟨⟩
    exact ⟨3, ⟨8, hsize, by decide, by decide, by decide⟩, hfile, by decide⟩
  -- and its register is shown
  have hcode := hsucceeds.mpr ⟨record, 1, hpasses⟩
  obtain ⟨other, flag, id, earlier, value, hother, hreadable, houtput, -, hvalue⟩ :=
    hregister 0 4 hcode rfl
  obtain rfl := hchosen.unique hother.chosen
  obtain rfl := Except.ok.inj (henable.symm.trans hother.enable)
  obtain rfl := Except.ok.inj (hfile.symm.trans hreadable.file)
  have hnumber : dwordAt cardTree 3 4 = 0x12345678 := by decide +kernel
  rw [hvalue (by decide), hnumber] at houtput
  exact ⟨earlier, hcode, houtput⟩

end PciBus.Probe

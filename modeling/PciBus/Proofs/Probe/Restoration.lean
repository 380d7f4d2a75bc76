import PciBus.Probe
import PciBus.Proofs.Session.Opening

/-!
# A probe leaves the files as they were

A probe is read-only but for one thing: it switches the device on, and that
it takes back. There are two ways through it. Either a device is chosen that
has a flag, and then the report is that of the inspection, made while the
flag is set, and giving the device back neither fails nor leaves a trace
(`Probe.probeScan_found`). Or the probe fails before anything was written
(`Probe.probeScan_failed`). So the files are the same whatever becomes of it
(`Probe.run_files`).
-/

namespace PciBus.Probe

variable {options : Options} {settings : Settings} {scan : Scan} {files : Files}
  {found : Record × Supported Unit} {id : Nat}

/-! ## Giving the device back -/

/-- After the inspection the handle is closed or dropped and the session is
ended. None of this fails, so the report stands, and the files are those that
were there before the device was switched on. -/
theorem conclude_switchedOn {h : Handle Unit} {b : Bench} (hflag : h.HasFlag files id)
    (hfiles : b.machine.files = files.overwrite id 0 [Handle.flagOn])
    (hdue : b.session.registry.due = [.release]) (report : Report) :
    conclude report (h.switchedOn ((files.bytes id).byteAt 0 = Handle.flagOff)) b =
      (report, files) := by
  obtain ⟨hclosed, hleft⟩ := Handle.close_switchedOn hflag
  generalize h.switchedOn ((files.bytes id).byteAt 0 = Handle.flagOff) = on at hclosed hleft ⊢
  have hdropped := hleft
  rw [← hfiles] at hclosed hleft hdropped
  rw [Handle.close_files, ← Handle.drop_files] at hdropped
  cases hfailure : report.failure with
  | some failure =>
      have hended := Session.drop_of_release (b := (Bench.onFiles on.drop b).2) hdue
      have hstate : (Bench.onFiles on.drop b).2.machine.files = files := hdropped
      simp only [conclude, hfailure, hended, hstate]
  | none =>
      obtain ⟨hclean, hended⟩ :=
        Session.shutdown_of_release (b := (Bench.onFiles on.close b).2) hdue
      have hresult : (Bench.onFiles on.close b).1.result = .ok () := hclosed
      have hstate : (Bench.onFiles on.close b).2.machine.files = files := hleft
      simp only [conclude, hfailure, hresult, hclean, hended, hstate]
      obtain ⟨lines, failure⟩ := report
      obtain rfl : failure = none := hfailure
      rfl

/-! ## The two ways -/

/-- The bench of a probe. -/
def bench (settings : Settings) (files : Files) : Bench where
  session := settings.session
  machine := { files := files }

/-- The functions among which a probe chooses. -/
def choices (options : Options) (settings : Settings) (scan : Scan) (files : Files) :
    List (Record × Supported Unit) :=
  Session.choices (.tree scan) (whitelist options) settings.wanted (bench settings files)

/-- The handle on a function, before it is switched on. -/
def newHandle (settings : Settings) (scan : Scan) (files : Files)
    (found : Record × Supported Unit) : Handle Unit :=
  Session.newHandle (.tree scan) (bench settings files) found

/-- The inspection is made with the flag set, and it alone decides. -/
theorem probeScan_found (hchoice : choices options settings scan files = [found])
    (hflag : (newHandle settings scan files found).HasFlag files id) :
    probeScan options settings scan files =
      (inspect (scan.read (files.overwrite id 0 [Handle.flagOn]) found.1.location)
        (files.overwrite id 0 [Handle.flagOn])
        ((newHandle settings scan files found).switchedOn
          ((files.bytes id).byteAt 0 = Handle.flagOff)) (register? options), files) := by
  have hfree : (bench settings files).session.context = none := rfl
  obtain ⟨hresult, hstate⟩ := Session.openDevice_found hfree hchoice hflag
  have hconclude := conclude_switchedOn (b := (Session.installed (.tree scan)
    (bench settings files)).withFiles (files.overwrite id 0 [Handle.flagOn])) hflag rfl rfl
  rw [bench] at hresult hstate
  simp only [probeScan, hresult, hstate]
  exact hconclude _

theorem probeScan_failed (options : Options) (settings : Settings) (scan : Scan) (files : Files)
    (hnone : ∀ found id, choices options settings scan files = [found] →
      ¬ (newHandle settings scan files found).HasFlag files id) :
    ∃ failure, probeScan options settings scan files =
      ({ failure := some failure }, files) := by
  have hfree : (bench settings files).session.context = none := rfl
  obtain ⟨⟨e, he⟩, hstate⟩ := Session.openDevice_failed hfree hnone
  have hended := Session.drop_of_release
    (b := Session.installed (.tree scan) (bench settings files)) rfl
  rw [bench] at he hstate hended
  refine ⟨.ofFault e, ?_⟩
  simp only [probeScan, he, hstate, hended]
  rfl

theorem probeScan_files (options : Options) (settings : Settings) (scan : Scan) (files : Files) :
    (probeScan options settings scan files).2 = files := by
  by_cases hfound : ∃ found id, choices options settings scan files = [found] ∧
      (newHandle settings scan files found).HasFlag files id
  · obtain ⟨found, id, hchoice, hflag⟩ := hfound
    rw [probeScan_found hchoice hflag]
  · have hnone : ∀ found id, choices options settings scan files = [found] →
        ¬ (newHandle settings scan files found).HasFlag files id :=
      fun found id hchoice hflag => hfound ⟨found, id, hchoice, hflag⟩
    obtain ⟨failure, hfailed⟩ := probeScan_failed options settings scan files hnone
    rw [hfailed]

/-- **A probe leaves the files as it found them**, whatever its arguments, the
environment and the files, and at whatever point it fails. -/
theorem run_files (arguments : List String) (env : Environment) (files : Files) :
    (run arguments env files).files = files := by
  have hprobe : ∀ options, (probe options env files).2 = files := by
    intro options
    unfold probe
    split
    · rfl
    split
    · rfl
    · exact probeScan_files _ _ _ _
  unfold run
  split
  · rfl
  · rfl
  · rfl
  · exact hprobe _

end PciBus.Probe

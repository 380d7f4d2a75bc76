import PciBus.Probe.Arguments
import PciBus.Probe.Inspection
import PciBus.Probe.LogFilter
import PciBus.Settings

/-!
# Probing a device

A probe finds the one device that is accepted, switches it on, inspects it,
and puts everything back. It answers an exit code, what it prints and the
files it leaves: 0 for a device that was inspected, 1 for a failure, 2 for
arguments that are refused.
-/

namespace PciBus

open Text

namespace Probe

/-- What a probe leaves behind. -/
structure Outcome where
  code : Nat
  output : String := ""
  errors : String := ""
  files : Files
  deriving DecidableEq

/-! ## Preparation -/

/-- The variable that stands in for the log filter. -/
def logVariable : String := "PCIDEV_LOG"

/-- Checks the log filter that is asked for. -/
def checkLog (options : Options) : Except Failure Unit :=
  (LogFilter.check (options.logLevel.getD "info")).mapError fun e =>
    ⟨"invalid --log-level", e.causes⟩

/-- What the environment asks for, with the options in its place where they
are given. -/
def settings (options : Options) (env : Environment) : Except Failure Settings := do
  let settings ← (Settings.ofEnvironment env).mapError fun e =>
    (Failure.ofFault e).during "invalid PCIDEV_* environment"
  let filter ←
    match options.filter with
    | some text => some <$> (Settings.readFilter text).mapError Failure.ofFault
    | none => pure settings.filter
  return {
    root := options.root.getD settings.root
    names := options.names <|> settings.names
    filter := filter }

/-- The accepted devices, in the order they were given. -/
def whitelist (options : Options) : Whitelist Unit :=
  options.ids.map fun id => ⟨id.vendor, id.device, .works, ()⟩

/-- The BAR and the offset of the register to read. -/
def register? (options : Options) : Option (UInt64 × UInt64) :=
  options.read.map fun offset => (options.bar.getD 0, offset)

/-! ## The probe -/

/-- A failure for actions that could not be carried out. -/
def shutdownFailure? (report : ShutdownReport) : Option Failure :=
  if report.isClean then none
  else some ⟨s!"{report.failed} of {report.executed} shutdown actions failed", []⟩

/-- Gives the device back after the inspection and ends the session. After a
failed inspection what goes wrong here is not reported. -/
def conclude (report : Report) (handle : Handle Unit) (bench : Bench) : Report × Files :=
  match report.failure with
  | some _ =>
      let bench := (Bench.onFiles handle.drop bench).2
      (report, (Session.drop bench).2.machine.files)
  | none =>
      let (closed, bench) := Bench.onFiles handle.close bench
      match closed.result with
      | .error e =>
          let failure := (Failure.ofFault e).during "restore device state"
          ({ report with failure := some failure }, (Session.drop bench).2.machine.files)
      | .ok () =>
          let (ended, bench) := Session.shutdown bench
          let failure := ended.result.toOption.bind shutdownFailure?
          ({ report with failure := failure }, bench.machine.files)

/-- Probes one device in a scanned tree. -/
def probeScan (options : Options) (settings : Settings) (scan : Scan) (files : Files) :
    Report × Files :=
  let bench : Bench := { session := settings.session, machine := { files := files } }
  let (opened, bench) :=
    Session.openDevice (.tree scan) (whitelist options) settings.wanted bench
  match opened.result with
  | .error e =>
      ({ failure := some (.ofFault e) }, (Session.drop bench).2.machine.files)
  | .ok handle =>
      let read := (Context.tree scan).read bench.machine handle.record.location
      let report := inspect read bench.machine.files handle (register? options)
      conclude report handle bench

/-- Probes one device. -/
def probe (options : Options) (env : Environment) (files : Files) : Report × Files :=
  match (do checkLog options; settings options env) with
  | .error failure => ({ failure := some failure }, files)
  | .ok settings =>
      match (settings.scan files).result with
      | .error e =>
          let failure := (Failure.ofFault e).during s!"scan {settings.root}"
          ({ failure := some failure }, files)
      | .ok scan => probeScan options settings scan files

/-! ## The command -/

/-- What `--version` prints. -/
def versionText : String := "pcidev-probe 0.1.0\n"

/-- What `--help` prints. -/
def helpText : String :=
  "Resolve exactly one supported PCI device, show its BARs and optionally read a register " ++
    "through a mapped BAR.\n\nUsage: pcidev-probe [OPTIONS] --id <VVVV:DDDD>\n\nOptions:\n" ++
    String.join (Key.all.map fun key => s!"  {key.text}\n") ++ "  --help\n  --version\n"

/-- What is printed of refused arguments. -/
def refusalText (refusal : Refusal) : String :=
  s!"error: {refusal.message}\n\nFor more information, try '--help'.\n"

/-- The outcome of a probe that came to an end. -/
def Outcome.ofReport (report : Report) (files : Files) : Outcome where
  code := if report.failure.isSome then 1 else 0
  output := String.join (report.lines.map (· ++ "\n"))
  errors := (report.failure.map Failure.text).getD ""
  files := files

/-- Runs the command on its arguments, the environment and the files. -/
def run (arguments : List String) (env : Environment) (files : Files) : Outcome :=
  match Request.read (env.bytes? logVariable) arguments with
  | .error refusal => { code := 2, errors := refusalText refusal, files := files }
  | .ok .help => { code := 0, output := helpText, files := files }
  | .ok .version => { code := 0, output := versionText, files := files }
  | .ok (.probe options) =>
      let (report, files) := probe options env files
      .ofReport report files

end Probe

end PciBus

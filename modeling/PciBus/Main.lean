import PciBus.Probe

/-!
# The command line

Reads the files that a probe may look at, runs it on them, writes back what
it has changed and prints what it answers. What cannot be read is left out
of the files.
-/

namespace PciBus

namespace Command

/-! ## What a probe may look at -/

/-- The variables that a probe looks at. -/
def variableNames : List String :=
  [Settings.rootVariable, Settings.namesVariable, Settings.filterVariable, Probe.logVariable]

/-- The files of a function that a probe may look at. -/
def functionFiles (options : Probe.Options) : List String :=
  ["config", "resource", "enable"] ++
    match Probe.register? options with
    | some (bar, _) => [s!"resource{bar.toNat}"]
    | none => []

/-- The files under a root with the given entries. -/
def treeFiles (options : Probe.Options) (root : String) (listing : List String) : List String :=
  (Scan.functionsIn listing).flatMap fun (name, _) =>
    (functionFiles options).map fun file => Files.join (Files.join root name) file

/-- The settings of the probe that the arguments ask for, if they ask for
one. -/
def requested? (arguments : List String) (env : Environment) :
    Option (Probe.Options × Settings) :=
  match Probe.Request.read (env.bytes? Probe.logVariable) arguments with
  | .ok (.probe options) => ((Probe.settings options env).toOption).map (options, ·)
  | _ => none

/-! ## Reading and writing -/

def readEnvironment : IO Environment := do
  let values ← variableNames.mapM fun name => do
    return (← IO.getEnv name).map fun value => (name, value.toUTF8.data)
  return values.filterMap id

/-- The names in a directory; none if the path is no directory. -/
def listDirectory (path : String) : IO (Option (List String)) :=
  try
    let directory ← IO.FS.realPath path
    if ← directory.isDir then
      return some ((← directory.readDir).toList.map (·.fileName))
    else return none
  catch _ =>
    return none

/-- The files with the one at a path, if it can be read. -/
def addFile (files : Files) (path : String) : IO Files :=
  try
    return files.put path (← IO.FS.readBinFile path).data
  catch _ =>
    return files

/-- The files that a probe may look at, and their paths. -/
def readFiles (options : Probe.Options) (settings : Settings) : IO (Files × List String) := do
  let (files, paths) ←
    match ← listDirectory settings.root with
    | some listing =>
        pure (Files.makeDirectory {} (Files.placeOf settings.root),
          treeFiles options settings.root listing)
    | none => pure ({}, [settings.root])
  let paths := paths ++ NameDatabase.searchPaths ++ settings.names.toList
  return (← paths.foldlM addFile files, paths)

/-- Writes the files that differ. -/
def writeChanges (paths : List String) (before after : Files) : IO Unit := do
  for path in paths do
    match before.readBytes path, after.readBytes path with
    | .ok old, .ok new => if old != new then IO.FS.writeBinFile path ⟨new⟩
    | _, _ => pure ()

end Command

end PciBus

/-- Probes a device as the arguments and the environment ask. -/
def main (arguments : List String) : IO UInt32 := do
  let env ← PciBus.Command.readEnvironment
  let (files, paths) ←
    match PciBus.Command.requested? arguments env with
    | some (options, settings) => PciBus.Command.readFiles options settings
    | none => pure ({}, [])
  let outcome := PciBus.Probe.run arguments env files
  PciBus.Command.writeChanges paths files outcome.files
  IO.print outcome.output
  IO.eprint outcome.errors
  return .ofNat outcome.code

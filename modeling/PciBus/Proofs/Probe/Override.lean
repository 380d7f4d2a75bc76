import PciBus.Proofs.Probe.ArgumentList
import PciBus.Proofs.Probe.Criterion

/-!
# Options in place of the environment

Three variables of the environment stand in for options that are not given: the
filter, the root and the name database. Where all three options are given, the
settings are those of the options (`Probe.settings_given`), so the variables
make no difference to a run (`Probe.options_override_environment`).

The variables are read all the same. A filter variable that is no filter makes
every probe fail, whatever the options say (`Probe.probe_out_of_order`).
-/

namespace PciBus.Probe

variable {log : Option Bytes} {o o' : Options} {key other : Key} {value text : String}
  {env env' : Environment}

/-! ## Options that are given -/

/-- The text of an option that the environment stands in for. -/
def Options.textOf (o : Options) : Key → Option String
  | .filter => o.filter
  | .root => o.root
  | .names => o.names
  | _ => none

/-- The options that the environment stands in for. -/
def replaceable : List Key := [.filter, .root, .names]

theorem Taken.given (h : Taken o value key o') (hkey : key ∈ replaceable) :
    o'.textOf key = some value := by
  cases h with
  | filter _ => rfl
  | root _ _ => rfl
  | names _ _ => rfl
  | _ => simp [replaceable] at hkey

/-- An option that has a text keeps it. -/
theorem Taken.kept (h : Taken o value key o') (hold : o.textOf other = some text) :
    o'.textOf other = some text := by
  cases h with
  | filter hnone =>
      cases other with
      | filter => cases hold.symm.trans hnone
      | _ => exact hold
  | root hnone hempty =>
      cases other with
      | root => cases hold.symm.trans hnone
      | _ => exact hold
  | names hnone hempty =>
      cases other with
      | names => cases hold.symm.trans hnone
      | _ => exact hold
  | _ => cases other <;> exact hold

theorem withLog_textOf (h : o.withLog log = .ok o') (other : Key) :
    o'.textOf other = o.textOf other := by
  have hlog : ∃ level, o' = { o with logLevel := level } := by
    unfold Options.withLog at h
    split at h
    · split at h
      · exact ⟨_, (Except.ok.inj h).symm⟩
      · cases h
    · exact ⟨o.logLevel, (Except.ok.inj h).symm⟩
  obtain ⟨level, rfl⟩ := hlog
  cases other <;> rfl

section

variable {options : Options}

/-- What is set before a clause is still set at the end. -/
theorem gather_kept (cs : List Clause) :
    ∀ o : Options, gather log o cs = some (.probe options) → o.textOf other = some text →
      options.textOf other = some text := by
  induction cs with
  | nil =>
      intro o h hold
      obtain ⟨o', ho', hprobe⟩ := Option.map_eq_some_iff.mp h
      obtain rfl := Request.probe.inj hprobe
      rw [withLog_textOf (toOption_eq_some_iff.mp ho'), hold]
  | cons c rest ih =>
      intro o h hold
      cases c with
      | given key value =>
          obtain ⟨o', htaken, hrest⟩ := gather_given_eq_some_iff.mp h
          exact ih o' hrest (htaken.kept hold)
      | help => cases h
      | version => cases h
      | lacking key => cases h
      | stray argument => cases h

/-- An option that is given has its value at the end. -/
theorem gather_given (hkey : key ∈ replaceable) (cs : List Clause) :
    ∀ o : Options, gather log o cs = some (.probe options) → .given key value ∈ cs →
      options.textOf key = some value := by
  induction cs with
  | nil => intro o h hmem; cases hmem
  | cons c rest ih =>
      intro o h hmem
      cases c with
      | given first firstValue =>
          obtain ⟨o', htaken, hrest⟩ := gather_given_eq_some_iff.mp h
          rcases List.mem_cons.mp hmem with heq | hmem
          · obtain ⟨rfl, rfl⟩ := Clause.given.inj heq
            exact gather_kept rest o' hrest (htaken.given hkey)
          · exact ih o' hrest hmem
      | help => cases h
      | version => cases h
      | lacking key => cases h
      | stray argument => cases h

end

/-! ## The environment -/

/-- The filter variable is unset, blank, not text, or a filter. -/
def InOrder (env : Environment) : Prop :=
  ∀ text, env.text? Settings.filterVariable = some text →
    ∃ filter, Settings.readFilter text = .ok filter

theorem inOrder_iff :
    InOrder env ↔ (env.text? Settings.filterVariable).all
      (fun text => (Settings.readFilter text).toOption.isSome) = true := by
  unfold InOrder
  cases env.text? Settings.filterVariable with
  | none => simp
  | some text =>
      cases hread : Settings.readFilter text <;> simp [hread, Except.toOption]

instance : Decidable (InOrder env) := decidable_of_iff _ inOrder_iff.symm

theorem ofEnvironment_of_inOrder (h : InOrder env) :
    ∃ fallback, Settings.ofEnvironment env = .ok fallback := by
  unfold InOrder at h
  unfold Settings.ofEnvironment
  cases htext : env.text? Settings.filterVariable with
  | none => exact ⟨_, rfl⟩
  | some text =>
      obtain ⟨filter, hread⟩ := h text htext
      exact ⟨_, by simp only [Option.mapM_some, hread]; rfl⟩

theorem ofEnvironment_out_of_order (h : ¬ InOrder env) :
    ∃ text fault, env.text? Settings.filterVariable = some text ∧
      Settings.readFilter text = .error fault ∧ Settings.ofEnvironment env = .error fault := by
  unfold InOrder at h
  push Not at h
  obtain ⟨text, htext, hbad⟩ := h
  cases hread : Settings.readFilter text with
  | ok filter => exact absurd hread (hbad filter)
  | error fault =>
      refine ⟨text, fault, htext, hread, ?_⟩
      unfold Settings.ofEnvironment
      simp only [htext, Option.mapM_some, hread]
      rfl

variable {options : Options} {filter root names : String}

/-- Where the options say everything, the environment only has to be in order. -/
theorem settings_given (hfilter : options.filter = some filter) (hroot : options.root = some root)
    (hnames : options.names = some names) (henv : InOrder env) :
    settings options env = ((Settings.readFilter filter).mapError Failure.ofFault).map fun found =>
      { root := root, names := some names, filter := some found } := by
  obtain ⟨fallback, hfallback⟩ := ofEnvironment_of_inOrder henv
  unfold settings
  rw [hfallback, hfilter, hroot, hnames]
  cases hread : Settings.readFilter filter with
  | error fault => simp only [hread]; rfl
  | ok found => simp only [hread]; rfl

/-- A filter variable that is no filter makes every probe fail. -/
theorem probe_out_of_order (h : ¬ InOrder env) (options : Options) (files : Files) :
    ∃ failure, probe options env files = ({ failure := some failure }, files) := by
  obtain ⟨text, fault, -, -, henv⟩ := ofEnvironment_out_of_order h
  unfold probe settings
  rw [henv]
  cases checkLog options with
  | error failure => exact ⟨failure, rfl⟩
  | ok => exact ⟨_, rfl⟩

/-! ## The whole probe -/

/-- In an environment that is not in order, a run that would probe fails. -/
theorem run_out_of_order (h : ¬ InOrder env) {arguments : List String}
    (hread : Request.read (env.bytes? logVariable) arguments = .ok (.probe options))
    (files : Files) : (run arguments env files).seen = (1, "", files) := by
  obtain ⟨failure, hprobe⟩ := probe_out_of_order h options files
  rw [run_seen, hread]
  show (Outcome.ofReport (probe options env files).1 (probe options env files).2).seen = _
  rw [hprobe]
  rfl

/-- In environments that are in order, a probe that is told everything does the
same. -/
theorem probe_told {arguments : List String}
    (hgiven : ∀ key ∈ replaceable, ∃ value, .given key value ∈ clauses arguments)
    (hread : Request.read log arguments = .ok (.probe options)) (h : InOrder env)
    (h' : InOrder env') : probe options env = probe options env' := by
  have hgather := gather_of_read hread
  obtain ⟨filter, hfilter⟩ := hgiven .filter (by decide)
  obtain ⟨root, hroot⟩ := hgiven .root (by decide)
  obtain ⟨names, hnames⟩ := hgiven .names (by decide)
  have hfilter : options.filter = some filter := gather_given (by decide) _ _ hgather hfilter
  have hroot : options.root = some root := gather_given (by decide) _ _ hgather hroot
  have hnames : options.names = some names := gather_given (by decide) _ _ hgather hnames
  funext files
  unfold probe
  rw [settings_given hfilter hroot hnames h, settings_given hfilter hroot hnames h']

/-- **Options override the environment.** Let the arguments give the filter, the
root and the name database, and let two environments agree but for the variables
that stand in for these. If in both of them the filter variable is in order, a
run does exactly the same. If it is in order in neither, what is seen of the run
is the same. Where it is not in order, a run that would probe fails. -/
theorem options_override_environment {arguments : List String}
    (hgiven : ∀ key ∈ replaceable, ∃ value, .given key value ∈ clauses arguments)
    (hsame : ∀ name, name ≠ Settings.rootVariable → name ≠ Settings.namesVariable →
      name ≠ Settings.filterVariable → env.bytes? name = env'.bytes? name) (files : Files) :
    (InOrder env → InOrder env' → run arguments env files = run arguments env' files) ∧
    ((InOrder env ↔ InOrder env') →
      (run arguments env files).seen = (run arguments env' files).seen) ∧
    (¬ InOrder env → ∀ options,
      Request.read (env.bytes? logVariable) arguments = .ok (.probe options) →
      (run arguments env files).seen = (1, "", files)) := by
  have hlog : env.bytes? logVariable = env'.bytes? logVariable :=
    hsame logVariable (by decide) (by decide) (by decide)
  have hboth : InOrder env → InOrder env' →
      run arguments env files = run arguments env' files := by
    intro h h'
    unfold run
    rw [← hlog]
    cases hread : Request.read (env.bytes? logVariable) arguments with
    | error refusal => rfl
    | ok request =>
        cases request with
        | help => rfl
        | version => rfl
        | probe options =>
            simp only [probe_told hgiven hread h h']
  refine ⟨hboth, ?_, fun h options hread => run_out_of_order h hread files⟩
  intro hiff
  by_cases h : InOrder env
  · rw [hboth h (hiff.mp h)]
  · have h' : ¬ InOrder env' := fun h' => h (hiff.mpr h')
    cases hread : Request.read (env.bytes? logVariable) arguments with
    | error refusal =>
        rw [run_seen, run_seen, ← hlog, hread]
        rfl
    | ok request =>
        cases request with
        | help =>
            rw [run_seen, run_seen, ← hlog, hread]
            rfl
        | version =>
            rw [run_seen, run_seen, ← hlog, hread]
            rfl
        | probe options =>
            rw [run_out_of_order h hread, run_out_of_order h' (hlog ▸ hread)]

/-- Arguments that say everything, for the device of `cardTree`. -/
def everything : List String :=
  ["--pci", "00:01.0", "--sysfs-root=/", "--pci-ids", "/0000:00:01.0/resource", "--id", "8086:1234"]

theorem everything_given : ∀ key ∈ replaceable, ∃ value, .given key value ∈ clauses everything := by
  have hclauses : clauses everything = [.given .filter "00:01.0", .given .root "/",
      .given .names "/0000:00:01.0/resource", .given .id "8086:1234"] := by decide +kernel
  simp [replaceable, hclauses]

/-- An environment that asks for another device in another tree is passed
over. -/
theorem otherWishes_overridden :
    let env := [(Settings.filterVariable, "1f".toUTF8.data),
      (Settings.rootVariable, "/nowhere".toUTF8.data)]
    run everything env cardTree = run everything [] cardTree ∧
      (run everything [] cardTree).code = 0 := by
  intro env
  have hsame : ∀ name, name ≠ Settings.rootVariable → name ≠ Settings.namesVariable →
      name ≠ Settings.filterVariable →
        Environment.bytes? env name = Environment.bytes? [] name := by
    intro name hroot _ hfilter
    simp [env, Environment.bytes?, List.lookup_cons, beq_false_of_ne hroot, beq_false_of_ne hfilter]
  obtain ⟨hrun, -, -⟩ := options_override_environment everything_given hsame cardTree
  exact ⟨hrun (by decide +kernel) (by decide +kernel), by decide +kernel⟩

/-- A filter variable that is no filter is not overridden. -/
theorem badFilter_not_overridden :
    ¬ ∀ (arguments : List String) (env env' : Environment) (files : Files),
      (∀ key ∈ replaceable, ∃ value, .given key value ∈ clauses arguments) →
      (∀ name, name ≠ Settings.rootVariable → name ≠ Settings.namesVariable →
        name ≠ Settings.filterVariable → env.bytes? name = env'.bytes? name) →
      (run arguments env files).seen = (run arguments env' files).seen := by
  intro h
  have hsame : ∀ name, name ≠ Settings.rootVariable → name ≠ Settings.namesVariable →
      name ≠ Settings.filterVariable →
      Environment.bytes? [(Settings.filterVariable, "zz".toUTF8.data)] name =
        Environment.bytes? [] name := by
    intro name _ _ hfilter
    simp [Environment.bytes?, List.lookup_cons, beq_false_of_ne hfilter]
  have hseen := h everything _ [] cardTree everything_given hsame
  exact absurd (congrArg Prod.fst hseen) (by decide +kernel)

end PciBus.Probe

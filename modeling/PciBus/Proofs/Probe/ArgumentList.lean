import PciBus.Probe

/-!
# What an argument list says

An argument list is a sequence of clauses: options with their values, the flags,
and what has no business in it. Reading the list comes to taking the clauses in
their order (`Probe.read_clauses`): the values are set one after the other, up
to a flag or to the first clause that is in the way. That a value from an
argument of its own is looked at late decides only which of two refusals is
reported, so it is not seen here, where a refusal has no text.

Whether a device was named at all is asked at the end (`Request.complete`).
What a run shows apart from its errors depends on the request that is made
(`Probe.run_seen`).
-/

namespace PciBus.Probe

/-! ## Values -/

theorem once_eq_ok_iff {α : Type} {key : Key} {old found : Option α} {value : String}
    {read : String → Except String α} :
    once key old value read = .ok found ↔
      old = none ∧ ∃ a, read value = .ok a ∧ found = some a := by
  unfold once
  cases old with
  | some a => simp
  | none => cases read value <;> simp [eq_comm]

theorem oncePath_eq_ok_iff {key : Key} {old found : Option String} {value : String} :
    oncePath key old value = .ok found ↔ old = none ∧ value ≠ "" ∧ found = some value := by
  unfold oncePath once
  cases old with
  | some path => simp [bind, Except.bind]
  | none =>
      by_cases hempty : value = "" <;>
        simp [bind, Except.bind, pure, Except.pure, hempty, eq_comm]

/-- The options once an option has got a value. -/
inductive Taken (o : Options) (value : String) : Key → Options → Prop
  | id {id} : DeviceId.read value = .ok id → Taken o value .id { o with ids := o.ids ++ [id] }
  | filter : o.filter = none → Taken o value .filter { o with filter := some value }
  | bar {bar} : o.bar = none → readBarNumber value = .ok bar →
      Taken o value .bar { o with bar := some bar }
  | root : o.root = none → value ≠ "" → Taken o value .root { o with root := some value }
  | names : o.names = none → value ≠ "" → Taken o value .names { o with names := some value }
  | read {offset} : o.read = none → readOffset value = .ok offset →
      Taken o value .read { o with read := some offset }
  | logLevel : o.logLevel = none → Taken o value .logLevel { o with logLevel := some value }

theorem bind_eq_ok_iff {α β : Type} {x : Except Refusal α} {f : α → Except Refusal β} {b : β} :
    (x >>= f) = .ok b ↔ ∃ a, x = .ok a ∧ f a = .ok b := by
  cases x with
  | error refusal => exact ⟨nofun, fun ⟨_, h, _⟩ => nomatch h⟩
  | ok a => exact ⟨fun h => ⟨a, rfl, h⟩, fun ⟨_, ha, h⟩ => by cases ha; exact h⟩

theorem set_eq_ok_iff {o o' : Options} {key : Key} {value : String} :
    o.set key value = .ok o' ↔ Taken o value key o' := by
  constructor
  · intro h
    cases key with
    | id =>
        simp only [Options.set] at h
        cases hread : DeviceId.read value with
        | error reason =>
            rw [hread] at h
            cases h
        | ok id =>
            rw [hread] at h
            obtain rfl := Except.ok.inj h
            exact .id hread
    | filter =>
        obtain ⟨found, hfound, h⟩ := bind_eq_ok_iff.mp h
        obtain ⟨hnone, text, hread, rfl⟩ := once_eq_ok_iff.mp hfound
        obtain rfl := Except.ok.inj hread
        obtain rfl := Except.ok.inj h
        exact .filter hnone
    | bar =>
        obtain ⟨found, hfound, h⟩ := bind_eq_ok_iff.mp h
        obtain ⟨hnone, bar, hread, rfl⟩ := once_eq_ok_iff.mp hfound
        obtain rfl := Except.ok.inj h
        exact .bar hnone hread
    | root =>
        obtain ⟨found, hfound, h⟩ := bind_eq_ok_iff.mp h
        obtain ⟨hnone, hempty, rfl⟩ := oncePath_eq_ok_iff.mp hfound
        obtain rfl := Except.ok.inj h
        exact .root hnone hempty
    | names =>
        obtain ⟨found, hfound, h⟩ := bind_eq_ok_iff.mp h
        obtain ⟨hnone, hempty, rfl⟩ := oncePath_eq_ok_iff.mp hfound
        obtain rfl := Except.ok.inj h
        exact .names hnone hempty
    | read =>
        obtain ⟨found, hfound, h⟩ := bind_eq_ok_iff.mp h
        obtain ⟨hnone, offset, hread, rfl⟩ := once_eq_ok_iff.mp hfound
        obtain rfl := Except.ok.inj h
        exact .read hnone hread
    | logLevel =>
        obtain ⟨found, hfound, h⟩ := bind_eq_ok_iff.mp h
        obtain ⟨hnone, text, hread, rfl⟩ := once_eq_ok_iff.mp hfound
        obtain rfl := Except.ok.inj hread
        obtain rfl := Except.ok.inj h
        exact .logLevel hnone
  · intro h
    cases h with
    | id hread => simp only [Options.set, hread]; rfl
    | filter hnone =>
        exact bind_eq_ok_iff.mpr ⟨_, once_eq_ok_iff.mpr ⟨hnone, _, rfl, rfl⟩, rfl⟩
    | bar hnone hread =>
        exact bind_eq_ok_iff.mpr ⟨_, once_eq_ok_iff.mpr ⟨hnone, _, hread, rfl⟩, rfl⟩
    | root hnone hempty =>
        exact bind_eq_ok_iff.mpr ⟨_, oncePath_eq_ok_iff.mpr ⟨hnone, hempty, rfl⟩, rfl⟩
    | names hnone hempty =>
        exact bind_eq_ok_iff.mpr ⟨_, oncePath_eq_ok_iff.mpr ⟨hnone, hempty, rfl⟩, rfl⟩
    | read hnone hread =>
        exact bind_eq_ok_iff.mpr ⟨_, once_eq_ok_iff.mpr ⟨hnone, _, hread, rfl⟩, rfl⟩
    | logLevel hnone =>
        exact bind_eq_ok_iff.mpr ⟨_, once_eq_ok_iff.mpr ⟨hnone, _, rfl, rfl⟩, rfl⟩

/-! ## Clauses -/

/-- A part of an argument list that means something. -/
inductive Clause where
  | given (key : Key) (value : String)
  /-- An option without its value. -/
  | lacking (key : Key)
  | help
  | version
  /-- What cannot stand here. -/
  | stray (argument : String)
  deriving DecidableEq, Repr

/-- The clauses of an argument list. The mark `--` has nothing behind it. -/
def clauses : List String → List Clause
  | [] => []
  | argument :: rest =>
      match Word.ofArgument argument with
      | .option key (some value) => .given key value :: clauses rest
      | .option key none =>
          match rest with
          | [] => [.lacking key]
          | value :: rest =>
              if Word.ofArgument value = .plain then .given key value :: clauses rest
              else .lacking key :: clauses (value :: rest)
      | .help => .help :: clauses rest
      | .version => .version :: clauses rest
      | .flagged _ _ | .unknown _ | .plain => .stray argument :: clauses rest
      | .ending =>
          match rest with
          | [] => []
          | other :: _ => [.stray other]

/-! ## Requests -/

/-- The request that the clauses make, if none of them is in the way. -/
def gather (log : Option Bytes) (o : Options) : List Clause → Option Request
  | [] => (o.withLog log).toOption.map .probe
  | .given key value :: rest => (o.set key value).toOption.bind fun o => gather log o rest
  | .help :: _ => some .help
  | .version :: _ => some .version
  | .lacking _ :: _ | .stray _ :: _ => none

theorem toOption_eq_some_iff {α : Type} {x : Except Refusal α} {a : α} :
    x.toOption = some a ↔ x = .ok a := by
  cases x <;> simp [Except.toOption]

/-- A request that goes on behind a value has taken it. -/
theorem gather_given_eq_some_iff {log : Option Bytes} {o : Options} {key : Key} {value : String}
    {rest : List Clause} {request : Request} :
    gather log o (.given key value :: rest) = some request ↔
      ∃ o', Taken o value key o' ∧ gather log o' rest = some request := by
  rw [gather, Option.bind_eq_some_iff]
  simp only [toOption_eq_some_iff, set_eq_ok_iff]

/-- A request, if a probe is told which devices it accepts. -/
def Request.complete : Request → Option Request
  | .help => some .help
  | .version => some .version
  | .probe options => if options.ids.isEmpty then none else some (.probe options)

theorem toOption_bind {α β : Type} (x : Except Refusal α) (f : α → Except Refusal β) :
    (x >>= f).toOption = x.toOption.bind fun a => (f a).toOption := by
  cases x <;> rfl

/-- The end of the arguments, when no value is missing. -/
theorem finish_settled (log : Option Bytes) (o : Options) (waiting : Option Waiting) :
    (finish log o waiting).toOption =
      (o.settle waiting).toOption.bind fun o => (gather log o []).bind Request.complete := by
  unfold finish
  rw [toOption_bind]
  congr 1
  funext settled
  rw [toOption_bind, gather, Option.bind_map]
  congr 1
  funext o
  show (if o.ids.isEmpty then Except.error Refusal.noIds else .ok (Request.probe o)).toOption =
    if o.ids.isEmpty then none else some (Request.probe o)
  cases o.ids.isEmpty <;> rfl

/-- An option that waits for its value makes every list be refused that does not
go on with one. -/
theorem readFrom_lacking (log : Option Bytes) (o : Options) (key : Key) {arguments : List String}
    (hplain : ∀ argument ∈ arguments.head?, Word.ofArgument argument ≠ .plain) :
    (readFrom log o (some ⟨key, none⟩) arguments).toOption = none := by
  cases arguments with
  | nil => rfl
  | cons argument rest =>
      rw [readFrom.eq_def]
      dsimp only
      cases hword : Word.ofArgument argument with
      | option other value => cases value <;> rfl
      | help => rfl
      | version => rfl
      | flagged flag value => rfl
      | unknown name => rfl
      | ending => cases rest <;> rfl
      | plain => exact absurd hword (hplain argument rfl)

/-- Reading is settling what waits and taking the clauses. The induction is on
the argument list, for every value that may wait, since the list says later what
becomes of it. -/
theorem readFrom_clauses (log : Option Bytes) (arguments : List String) :
    ∀ (o : Options) (waiting : Option Waiting), wantsValue waiting = none →
      (readFrom log o waiting arguments).toOption =
        (o.settle waiting).toOption.bind fun o =>
          (gather log o (clauses arguments)).bind Request.complete := by
  induction arguments using clauses.induct with
  | case1 =>
      intro o waiting _
      exact finish_settled log o waiting
  | case2 argument rest key value hword ih =>
      intro o waiting _
      rw [readFrom.eq_def, clauses.eq_def]
      simp only [hword, toOption_bind, gather, Option.bind_assoc]
      congr 1
      funext settled
      congr 1
      funext o
      exact ih o none rfl
  | case3 argument key hword =>
      intro o waiting _
      rw [readFrom.eq_def, clauses.eq_def]
      simp only [hword, toOption_bind]
      rfl
  | case4 argument key hword value rest hplain ih =>
      intro o waiting _
      rw [readFrom.eq_def, clauses.eq_def]
      simp only [hword, hplain, toOption_bind, gather, Option.bind_assoc, if_true]
      congr 1
      funext settled
      rw [readFrom.eq_def]
      simp only [hplain, wantsValue]
      exact ih settled (some ⟨key, some value⟩) rfl
  | case5 argument key hword value rest hplain ih =>
      intro o waiting _
      rw [readFrom.eq_def, clauses.eq_def]
      simp only [hword, hplain, toOption_bind, gather, if_false]
      congr 1
      funext settled
      exact readFrom_lacking log settled key (by simpa using hplain)
  | case6 argument rest hword ih =>
      intro o waiting _
      rw [readFrom.eq_def, clauses.eq_def]
      simp only [hword, toOption_bind]
      rfl
  | case7 argument rest hword ih =>
      intro o waiting _
      rw [readFrom.eq_def, clauses.eq_def]
      simp only [hword, toOption_bind]
      rfl
  | case8 argument rest flag value hword ih =>
      intro o waiting _
      rw [readFrom.eq_def, clauses.eq_def]
      simp only [hword, gather, Option.bind_none, Option.bind_fun_none]
      rfl
  | case9 argument rest name hword ih =>
      intro o waiting _
      rw [readFrom.eq_def, clauses.eq_def]
      simp only [hword, gather, Option.bind_none, Option.bind_fun_none]
      rfl
  | case10 argument rest hword ih =>
      intro o waiting hnothing
      rw [readFrom.eq_def, clauses.eq_def]
      simp only [hword, hnothing, gather, Option.bind_none, Option.bind_fun_none]
      rfl
  | case11 argument hword =>
      intro o waiting _
      rw [readFrom.eq_def, clauses.eq_def]
      simp only [hword]
      exact finish_settled log o waiting
  | case12 argument hword other rest =>
      intro o waiting _
      rw [readFrom.eq_def, clauses.eq_def]
      simp only [hword, gather, Option.bind_none, Option.bind_fun_none]
      rfl

/-- Reading an argument list is taking its clauses. -/
theorem read_clauses (log : Option Bytes) (arguments : List String) :
    (Request.read log arguments).toOption =
      (gather log {} (clauses arguments)).bind Request.complete :=
  readFrom_clauses log arguments {} none rfl

theorem gather_of_read {log : Option Bytes} {arguments : List String} {options : Options}
    (h : Request.read log arguments = .ok (.probe options)) :
    gather log {} (clauses arguments) = some (.probe options) := by
  have hrequest := read_clauses log arguments
  rw [h] at hrequest
  obtain ⟨request, hrequest, hcomplete⟩ := Option.bind_eq_some_iff.mp hrequest.symm
  cases request with
  | help => cases hcomplete
  | version => cases hcomplete
  | probe other =>
      rw [Request.complete] at hcomplete
      split at hcomplete
      · cases hcomplete
      · rw [hrequest, ← hcomplete]

/-! ## What is seen of a run -/

/-- The outcome apart from the text of its errors: the exit code, what is
printed and the files. -/
def Outcome.seen (outcome : Outcome) : Nat × String × Files :=
  (outcome.code, outcome.output, outcome.files)

/-- What is seen of a run by the request that its arguments make, if any. -/
def seenOf (env : Environment) (files : Files) : Option Request → Nat × String × Files
  | none => (2, "", files)
  | some .help => (0, helpText, files)
  | some .version => (0, versionText, files)
  | some (.probe options) =>
      (Outcome.ofReport (probe options env files).1 (probe options env files).2).seen

theorem run_seen (arguments : List String) (env : Environment) (files : Files) :
    (run arguments env files).seen =
      seenOf env files (Request.read (env.bytes? logVariable) arguments).toOption := by
  unfold run
  cases Request.read (env.bytes? logVariable) arguments with
  | error refusal => rfl
  | ok request => cases request <;> rfl

end PciBus.Probe

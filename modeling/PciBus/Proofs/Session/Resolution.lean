import PciBus.Proofs.Session.Drain
import PciBus.Proofs.Whitelist.Selection

/-!
# Resolving a device

`survivors` are the enumerated functions that pass the filter, are listed and
have an address in the BAR that is asked for. Resolving answers the one there
is, and otherwise says whether there is none or how many there are
(`find_resolves`). Their order does not matter, and of the whitelist no more
than the first entry of each function.

Resolving installs a context, so it registers a release. A release that an
earlier context has left behind is due beside it (`releases_pile_up`).
-/

namespace PciBus

variable {τ : Type}

/-! ## What is asked of a function -/

/-- The BAR decodes to an address other than zero. -/
def Bar.HasAddress (read : ConfigReader) (location : Location) (offset : UInt16) : Prop :=
  ∃ bar, (classify read location offset nativeBits).result = .ok bar ∧ bar.address ≠ 0

instance (read : ConfigReader) (location : Location) (offset : UInt16) :
    Decidable (Bar.HasAddress read location offset) :=
  match h : (Bar.classify read location offset Bar.nativeBits).result with
  | .ok bar => decidable_of_iff (bar.address ≠ 0) (by simp [Bar.HasAddress, h])
  | .error e => isFalse (by simp [Bar.HasAddress, h])

/-- The function passes the filter, is listed and has an address in the BAR
that is asked for. -/
structure Qualifies (read : Location → ConfigReader) (whitelist : Whitelist τ)
    (wanted : Wanted) (record : Record) : Prop where
  accepted : ∀ filter ∈ wanted.filter, filter.accepts record.location
  listed : whitelist.Lists record
  addressed : ∀ offset ∈ wanted.bar, Bar.HasAddress (read record.location) record.location offset

/-- The part of that which is read from config space. -/
def Wanted.addressed (wanted : Wanted) (read : Location → ConfigReader) (record : Record) :
    Bool :=
  wanted.bar.all fun offset => Bar.HasAddress (read record.location) record.location offset

theorem qualifies_iff {read : Location → ConfigReader} {whitelist : Whitelist τ}
    {wanted : Wanted} {record : Record} :
    ((wanted.filter.getD .any).accepts record.location &&
        (whitelist.entryFor? record).isSome && wanted.addressed read record) = true ↔
      Qualifies read whitelist wanted record := by
  have hfilter : (wanted.filter.getD .any).accepts record.location = true ↔
      ∀ filter ∈ wanted.filter, filter.accepts record.location := by
    cases wanted.filter <;> simp
  have hbar : wanted.addressed read record = true ↔
      ∀ offset ∈ wanted.bar,
        Bar.HasAddress (read record.location) record.location offset := by
    unfold Wanted.addressed
    cases wanted.bar <;> simp
  rw [Bool.and_eq_true, Bool.and_eq_true, hfilter, Whitelist.isSome_entryFor?_iff, hbar]
  constructor
  · rintro ⟨⟨haccepted, hlisted⟩, haddressed⟩
    exact ⟨haccepted, hlisted, haddressed⟩
  · rintro ⟨haccepted, hlisted, haddressed⟩
    exact ⟨⟨haccepted, hlisted⟩, haddressed⟩

instance (read : Location → ConfigReader) (whitelist : Whitelist τ) (wanted : Wanted)
    (record : Record) : Decidable (Qualifies read whitelist wanted record) :=
  decidable_of_iff _ qualifies_iff

/-- The enumerated functions that qualify. -/
def survivors (context : Context) (m : Machine) (whitelist : Whitelist τ) (wanted : Wanted) :
    List Record :=
  (context.records m).filter fun record => Qualifies (context.read m) whitelist wanted record

/-- What resolving answers if these functions qualify. -/
def verdict : List Record → Except Fault Record
  | [record] => .ok record
  | [] => .error .noDevice
  | many => .error (.manyDevices many.length)

section

variable {records : List Record}

theorem verdict_eq_ok_iff {record : Record} :
    verdict records = .ok record ↔ records = [record] := by
  match records with
  | [] => simp [verdict]
  | [only] => simp [verdict]
  | first :: second :: rest => simp [verdict]

theorem verdict_eq_noDevice_iff : verdict records = .error .noDevice ↔ records = [] := by
  match records with
  | [] => simp [verdict]
  | [only] => simp [verdict]
  | first :: second :: rest => simp [verdict]

theorem verdict_eq_manyDevices_iff {count : Nat} :
    verdict records = .error (.manyDevices count) ↔
      1 < records.length ∧ count = records.length := by
  match records with
  | [] => simp [verdict]
  | [only] => simp [verdict]
  | first :: second :: rest => simp [verdict, eq_comm]

/-- The order of the functions does not matter. -/
theorem verdict_perm {records' : List Record} (h : records.Perm records') :
    verdict records = verdict records' := by
  match records with
  | [] => rw [h.nil_eq]
  | [only] => rw [List.singleton_perm.mp h]
  | first :: second :: rest =>
      have hmany : verdict records' = .error (.manyDevices (first :: second :: rest).length) :=
        verdict_eq_manyDevices_iff.mpr ⟨h.length_eq ▸ by simp, h.length_eq⟩
      rw [hmany]
      rfl

end

theorem survivors_perm {context other : Context} {m m' : Machine}
    (hrecords : (context.records m).Perm (other.records m'))
    (hread : context.read m = other.read m') (whitelist : Whitelist τ) (wanted : Wanted) :
    (survivors context m whitelist wanted).Perm (survivors other m' whitelist wanted) := by
  unfold survivors
  rw [hread]
  exact hrecords.filter _

/-! ## What resolving answers -/

namespace Session

variable {context : Context} {whitelist : Whitelist Names} {wanted : Wanted} {b : Bench}

theorem hasAddress_result (context : Context) (m : Machine) (offset : UInt16)
    (record : Record) :
    (hasAddress context m offset record).result =
      .ok (Bar.HasAddress (context.read m record.location) record.location offset) := by
  unfold hasAddress
  cases h : (Bar.classify (context.read m record.location) record.location offset
      Bar.nativeBits).result with
  | error e => simp [Bar.HasAddress, h, Except.bind]
  | ok bar => simp [Bar.HasAddress, h, Except.bind]

/-- What resolving selects on a machine. -/
def selection (context : Context) (whitelist : Whitelist Names) (wanted : Wanted)
    (m : Machine) : Logged (Record × Supported Names) :=
  whitelist.select (wanted.filter.getD .any)
    (fun record =>
      match wanted.bar with
      | none => pure true
      | some offset => hasAddress context m offset record)
    (context.records m)

/-- The survivors, each with its entry. -/
def hits (context : Context) (whitelist : Whitelist Names) (wanted : Wanted) (m : Machine) :
    List (Record × Supported Names) :=
  (whitelist.candidates (wanted.filter.getD .any) (context.records m)).filter
    (wanted.addressed (context.read m) ∘ Prod.fst)

theorem hits_fst (context : Context) (whitelist : Whitelist Names) (wanted : Wanted)
    (m : Machine) :
    (hits context whitelist wanted m).map Prod.fst = survivors context m whitelist wanted := by
  unfold hits survivors
  rw [← List.filter_map, Whitelist.candidates_fst, List.filter_filter]
  apply List.filter_congr
  intro record _
  rw [Bool.and_comm, Bool.eq_iff_iff, qualifies_iff, decide_eq_true_iff]

theorem selection_result (context : Context) (whitelist : Whitelist Names) (wanted : Wanted)
    (m : Machine) :
    (selection context whitelist wanted m).result =
      (Whitelist.theOnly (hits context whitelist wanted m)).result := by
  apply Whitelist.select_result
  intro record
  unfold Wanted.addressed
  cases wanted.bar with
  | none => rfl
  | some offset => exact hasAddress_result context m offset record

theorem selection_verdict (context : Context) (whitelist : Whitelist Names) (wanted : Wanted)
    (m : Machine) :
    (selection context whitelist wanted m).result.map Prod.fst =
      verdict (survivors context m whitelist wanted) := by
  rw [selection_result, ← hits_fst]
  match hits context whitelist wanted m with
  | [] => rfl
  | [found] => rfl
  | first :: second :: rest => simp [Whitelist.theOnly, verdict, Except.bind, Except.map]

/-- What is said of the function that is resolved. -/
def foundText (record : Record) (entry : Supported Names) : String :=
  let title := entry.tag.vendor ++ " " ++ entry.tag.device
  s!"Found \"{title}\" ({record.idText}, BDF {record.location.short})"

theorem find_eq (context : Context) (whitelist : Whitelist Names) (wanted : Wanted) :
    find context whitelist wanted = (do
      install context
      let bench ← Action.get
      let found ← selection context whitelist wanted bench.machine
      Action.note .info (foundText found.1 found.2)
      return found.1) := rfl

theorem find_selected (hfree : b.session.context = none) {found : Record × Supported Names}
    (hselected : (selection context whitelist wanted b.machine).result = .ok found) :
    (find context whitelist wanted b).1.result = .ok found.1 ∧
      ∃ log, (find context whitelist wanted b).1.log =
        log ++ [⟨.info, foundText found.1 found.2, []⟩] := by
  obtain ⟨hok, hstate⟩ := install_free context hfree
  have hmachine : (installed context b).machine = b.machine := rfl
  rw [find_eq, Action.bind_apply_ok _ hok, hstate]
  constructor
  · simp only [Action.result_bind, Action.get_apply, Logged.result_pure, Action.lift_apply,
      hmachine, hselected, Except.bind, Action.note_apply, Logged.result_note, Action.pure_apply]
  · refine ⟨(install context b).1.log ++ (selection context whitelist wanted b.machine).log, ?_⟩
    simp only [Action.log_bind, Action.get_apply, Logged.result_pure, Action.lift_apply,
      hmachine, hselected, Action.note_apply, Logged.result_note, Action.pure_apply,
      Logged.log_pure, Logged.log_note, List.append_nil, List.nil_append, List.append_assoc]

theorem find_refused (hfree : b.session.context = none) {e : Fault}
    (hselected : (selection context whitelist wanted b.machine).result = .error e) :
    (find context whitelist wanted b).1.result = .error e := by
  obtain ⟨hok, hstate⟩ := install_free context hfree
  have hmachine : (installed context b).machine = b.machine := rfl
  rw [find_eq, Action.bind_apply_ok _ hok, hstate]
  simp only [Action.result_bind, Action.get_apply, Logged.result_pure, Action.lift_apply,
    hmachine, hselected, Except.bind]

theorem find_verdict (hfree : b.session.context = none) :
    (find context whitelist wanted b).1.result =
      verdict (survivors context b.machine whitelist wanted) := by
  rw [← selection_verdict]
  cases hselected : (selection context whitelist wanted b.machine).result with
  | error e => exact find_refused hfree hselected
  | ok found => exact (find_selected hfree hselected).1

/-- A function that is resolved is reported under the title of its first
entry. -/
theorem find_reports (hfree : b.session.context = none) {record : Record}
    (hfound : (find context whitelist wanted b).1.result = .ok record) :
    ∃ entry log, whitelist.FirstFor record entry ∧
      (find context whitelist wanted b).1.log = log ++ [⟨.info, foundText record entry, []⟩] := by
  cases hselected : (selection context whitelist wanted b.machine).result with
  | error e =>
      rw [find_refused hfree hselected] at hfound
      cases hfound
  | ok found =>
      obtain ⟨hresult, log, hlog⟩ := find_selected hfree hselected
      obtain rfl : found.1 = record := Except.ok.inj (hresult.symm.trans hfound)
      rw [selection_result, Whitelist.theOnly_eq_ok_iff] at hselected
      have hmem : found ∈ hits context whitelist wanted b.machine := by simp [hselected]
      exact ⟨found.2, log, Whitelist.firstFor_of_mem_candidates (List.mem_filter.mp hmem).1, hlog⟩

/-- Resolving looks at the first entries only. -/
theorem find_congr {whitelist' : Whitelist Names}
    (h : ∀ record, whitelist.entryFor? record = whitelist'.entryFor? record) (context : Context)
    (wanted : Wanted) : find context whitelist wanted = find context whitelist' wanted := by
  rw [find_eq, find_eq]
  unfold selection Whitelist.select
  simp only [Whitelist.candidates_congr h]

end Session

/-- What resolving a device comes to. -/
structure Resolution (context : Context) (whitelist : Whitelist Names) (wanted : Wanted)
    (b : Bench) : Prop where
  found : ∀ record, (Session.find context whitelist wanted b).1.result = .ok record ↔
    survivors context b.machine whitelist wanted = [record]
  missing : (Session.find context whitelist wanted b).1.result = .error .noDevice ↔
    survivors context b.machine whitelist wanted = []
  ambiguous : ∀ count,
    (Session.find context whitelist wanted b).1.result = .error (.manyDevices count) ↔
      1 < (survivors context b.machine whitelist wanted).length ∧
        count = (survivors context b.machine whitelist wanted).length
  /-- The entry that is used is the first one for the function. -/
  entry : ∀ record, (Session.find context whitelist wanted b).1.result = .ok record →
    ∃ entry log, whitelist.FirstFor record entry ∧
      (Session.find context whitelist wanted b).1.log =
        log ++ [⟨.info, Session.foundText record entry, []⟩]
  /-- Nothing from the end of the whitelist on makes a difference. -/
  ended : ∀ listed last unread, whitelist = listed ++ last :: unread → last.vendor = 0 →
    Session.find context whitelist wanted b = Session.find context listed wanted b
  /-- Nor does an entry that repeats an earlier one. -/
  repeated : ∀ before entry rest earlier, whitelist = before ++ entry :: rest →
    earlier ∈ before → earlier.vendor = entry.vendor → earlier.device = entry.device →
    Session.find context whitelist wanted b = Session.find context (before ++ rest) wanted b
  /-- Nor does the order in which functions are enumerated. -/
  permuted : ∀ other b', b'.session.context = none →
    (context.records b.machine).Perm (Context.records other b'.machine) →
    (∀ location offset width, context.read b.machine location offset width =
      Context.read other b'.machine location offset width) →
    (Session.find other whitelist wanted b').1.result =
      (Session.find context whitelist wanted b).1.result
  machine : (Session.find context whitelist wanted b).2.machine = b.machine
  /-- The context is installed, and one release is due beside what was. -/
  session : (Session.find context whitelist wanted b).2.session =
    { context := some context
      registry := ⟨.release :: b.session.registry.due⟩
      root := b.session.root }

/-- **Resolving a device.** In a session without a context, on every machine
and for every whitelist, resolving answers the only function that qualifies. -/
theorem find_resolves {context : Context} {whitelist : Whitelist Names} {wanted : Wanted}
    {b : Bench} (hfree : b.session.context = none) : Resolution context whitelist wanted b := by
  have hverdict : (Session.find context whitelist wanted b).1.result =
      verdict (survivors context b.machine whitelist wanted) := Session.find_verdict hfree
  have hstate : (Session.find context whitelist wanted b).2 = Session.installed context b := by
    rw [Session.find_state, (Session.install_free context hfree).2]
  exact {
    found := fun record => by rw [hverdict, verdict_eq_ok_iff]
    missing := by rw [hverdict, verdict_eq_noDevice_iff]
    ambiguous := fun count => by rw [hverdict, verdict_eq_manyDevices_iff]
    entry := fun record => Session.find_reports hfree
    ended := by
      rintro listed last unread rfl hlast
      rw [Session.find_congr (Whitelist.entryFor?_ended hlast)]
    repeated := by
      rintro before entry rest earlier rfl hearlier hvendor hdevice
      rw [Session.find_congr (Whitelist.entryFor?_repeated hearlier hvendor hdevice)]
    permuted := by
      intro other b' hfree' hrecords hread
      have hread : context.read b.machine = other.read b'.machine := by
        funext location offset width
        exact hread location offset width
      rw [hverdict, Session.find_verdict hfree']
      exact (verdict_perm (survivors_perm hrecords hread whitelist wanted)).symm
    machine := by rw [hstate]; rfl
    session := by rw [hstate]; rfl }

/-! ## Two functions of one card -/

/-- One of the functions, as it was enumerated. -/
def twinPort (function : UInt8) : Record where
  location := ⟨0, 0, 3, function⟩
  vendor := 0x8086
  device := 0x100e
  classCode := 0x020000
  header := 0
  command := 0
  bases := .replicate 6 0
  sizes := .replicate 6 0
  romBase := 0
  romSize := 0

def twinPorts : Machine where
  buses := [{ slots := [0, 1].map fun function => ⟨twinPort function, .new 0x8086 0x100e⟩ }]

/-- The card is listed twice, and once more after the end of the list. -/
def twinList : Whitelist Names :=
  let entry : Supported Names := ⟨0x8086, 0x100e, .works, ⟨"Intel", "82540EM"⟩⟩
  [entry, entry, ⟨0, 0, .notApplicable, ⟨"", ""⟩⟩, entry]

/-- The filter decides between the two; without it there are two too many. -/
theorem twinPorts_resolved :
    (Session.find (.bus 0) twinList { filter := some { function := some 1 } }
        (Bench.fresh "/devices" twinPorts)).1.result = .ok (twinPort 1) ∧
      (Session.find (.bus 0) twinList {} (Bench.fresh "/devices" twinPorts)).1.result =
        .error (.manyDevices 2) :=
  ⟨((find_resolves rfl).found (twinPort 1)).mpr (by decide +kernel),
    ((find_resolves rfl).ambiguous 2).mpr (by decide +kernel)⟩

/-- In a session whose context was taken out, its release is still due, and
resolving makes it two. -/
theorem releases_pile_up :
    ¬ ∀ (root : String) (machine : Machine) (steps : List Step) (context : Context)
      (whitelist : Whitelist Names) (wanted : Wanted),
      let b := after steps (Bench.fresh root machine)
      b.session.context = none →
      (Session.find context whitelist wanted b).2.session.registry.due.countP
        Cleanup.isRelease = 1 := by
  intro h
  have hone := h "/devices" {} [.install (.bus 0), .release] (.bus 0) [] {} rfl
  rw [Session.find_state] at hone
  exact absurd hone (by decide)

end PciBus

import PciBus.Proofs.Handle.Visit
import PciBus.Proofs.Session.Drain
import PciBus.Proofs.Whitelist.Selection

/-!
# Opening a device

A session that opens a device enables a new handle on the one function that
passes the filter and has an entry (`Session.openDevice_found`), and fails
without touching a file when there is none or it has no flag
(`Session.openDevice_failed`). Either way the context is installed and its
release is due.
-/

namespace PciBus

variable {τ : Type}

/-! ## Opening -/

namespace Session

variable {b : Bench} {context : Context} {whitelist : Whitelist τ} {wanted : Wanted}
  {found : Record × Supported τ} {id : Nat}

/-- The functions that opening a device chooses among. -/
def choices (context : Context) (whitelist : Whitelist τ) (wanted : Wanted) (b : Bench) :
    List (Record × Supported τ) :=
  whitelist.candidates (wanted.filter.getD .any) (context.records b.machine)

/-- The handle on a function, before it is switched on. -/
def newHandle (context : Context) (b : Bench) (found : Record × Supported τ) : Handle τ where
  name := (context.name? b.machine found.1.vendor found.1.device).getD "unknown"
  record := found.1
  path := Files.join b.session.root found.1.location.name
  tag := found.2.tag

theorem newHandle_isNew : (newHandle context b found).IsNew := ⟨rfl, rfl, rfl⟩

/-- Opening a device, once a function is chosen: the new handle is enabled. -/
theorem openDevice_chosen (hfree : b.session.context = none)
    (hchoice : choices context whitelist wanted b = [found]) :
    (openDevice context whitelist wanted b).1.result =
        ((newHandle context b found).enable b.machine.files).1.result ∧
      (openDevice context whitelist wanted b).2 = (installed context b).withFiles
        ((newHandle context b found).enable b.machine.files).2 := by
  obtain ⟨hok, hstate⟩ := install_free context hfree
  have hselect : (whitelist.select (wanted.filter.getD .any) (fun _ => pure true)
      (context.records (installed context b).machine)).result = .ok found :=
    (Whitelist.select_eq_ok_iff fun _ => rfl).mpr hchoice
  -- that the context is installed by now makes no difference to the handle
  generalize hfresh : newHandle context b found = fresh
  have hnew : fresh.IsNew := hfresh ▸ newHandle_isNew
  have hmade : Handle.mk
      ((context.name? (installed context b).machine found.1.vendor found.1.device).getD "unknown")
      found.1 (Files.join (installed context b).session.root found.1.location.name) found.2.tag
      none false false = fresh := hfresh
  have hfiles : (installed context b).machine.files = b.machine.files := rfl
  rw [openDevice, Action.bind_apply_ok _ hok, hstate]
  simp only [Action.result_bind, Action.state_bind, Action.get_apply, Logged.result_pure,
    Action.lift_apply, Except.bind, hselect, Action.note_apply, Logged.result_note, hmade]
  cases henable : (fresh.enable b.machine.files).1.result with
  | error e =>
      -- the handle is given up, and it has written nothing
      have hunchanged := Handle.enable_failed henable
      simp only [Bench.onFiles, hfiles, henable, hunchanged, Handle.drop_files_of_isNew hnew,
        Handle.drop_result, Action.attempt_apply, Action.within_apply, Logged.result_attempt,
        Action.result_bind, Action.state_bind]
      exact ⟨rfl, rfl⟩
  | ok handle =>
      simp only [Bench.onFiles, hfiles, henable, Action.attempt_apply, Action.within_apply,
        Logged.result_attempt, Action.pure_apply, Logged.result_pure]
      exact ⟨trivial, rfl⟩

theorem openDevice_found (hfree : b.session.context = none)
    (hchoice : choices context whitelist wanted b = [found])
    (hflag : (newHandle context b found).HasFlag b.machine.files id) :
    (openDevice context whitelist wanted b).1.result = .ok ((newHandle context b found).switchedOn
        ((b.machine.files.bytes id).byteAt 0 = Handle.flagOff)) ∧
      (openDevice context whitelist wanted b).2 = (installed context b).withFiles
        (b.machine.files.overwrite id 0 [Handle.flagOn]) := by
  obtain ⟨hresult, hfiles⟩ := Handle.enable_flagged newHandle_isNew hflag
  obtain ⟨hanswer, hstate⟩ := openDevice_chosen hfree hchoice
  rw [hanswer, hstate, hresult, hfiles]
  exact ⟨rfl, rfl⟩

/-- Where no function is chosen, or it has no flag, nothing is written. -/
theorem openDevice_failed (hfree : b.session.context = none)
    (hnone : ∀ found id, choices context whitelist wanted b = [found] →
      ¬ (newHandle context b found).HasFlag b.machine.files id) :
    (∃ e, (openDevice context whitelist wanted b).1.result = .error e) ∧
      (openDevice context whitelist wanted b).2 = installed context b := by
  cases hselect : (whitelist.select (wanted.filter.getD .any) (fun _ => pure true)
      (context.records (installed context b).machine)).result with
  | error e =>
      obtain ⟨hok, hstate⟩ := install_free context hfree
      rw [openDevice, Action.bind_apply_ok _ hok, hstate]
      simp only [Action.result_bind, Action.state_bind, Action.get_apply, Logged.result_pure,
        Action.lift_apply, Except.bind, hselect]
      exact ⟨⟨e, rfl⟩, trivial⟩
  | ok found =>
      have hchoice : choices context whitelist wanted b = [found] :=
        (Whitelist.select_eq_ok_iff fun _ => rfl).mp hselect
      obtain ⟨e, he⟩ := Handle.enable_unflagged newHandle_isNew fun id => hnone found id hchoice
      obtain ⟨hanswer, hstate⟩ := openDevice_chosen hfree hchoice
      refine ⟨⟨e, hanswer.trans he⟩, ?_⟩
      rw [hstate, Handle.enable_failed he]
      rfl

/-- Opening a device looks at the first entries only. -/
theorem openDevice_congr {whitelist' : Whitelist τ}
    (h : ∀ record, whitelist.entryFor? record = whitelist'.entryFor? record) (context : Context)
    (wanted : Wanted) :
    openDevice context whitelist wanted = openDevice context whitelist' wanted := by
  unfold openDevice Whitelist.select
  simp only [Whitelist.candidates_congr h]

/-! ## Ending -/

/-- Where nothing is due but the release, ending a session changes nothing on
the machine, and is clean. -/
theorem shutdown_of_release (hdue : b.session.registry.due = [.release]) :
    (shutdown b).1.result = .ok ⟨1, 0⟩ ∧ (shutdown b).2.machine = b.machine := by
  constructor
  · rw [shutdown_result, Bench.turns, Registry.size, hdue]
    rfl
  · rw [shutdown_state, hdue, drained_cons, drained_nil, Turn.left_release]
    rfl

theorem drop_of_release (hdue : b.session.registry.due = [.release]) :
    (drop b).2.machine = b.machine := by
  rw [drop_state]
  exact (shutdown_of_release hdue).2

end Session

end PciBus

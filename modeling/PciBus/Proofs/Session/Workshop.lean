import Mathlib.Logic.Function.Basic
import PciBus.Proofs.Handle.Sharing
import PciBus.Proofs.Session.Opening

/-!
# Sessions and handles on one machine

Sessions open devices, and the handles outlive what becomes of the session.
A run is a list of acts: sessions open devices or are otherwise used, and
handles are used, closed and dropped, in any order.

Each act exchanges handles, so a run keeps the flag of a device restorable
(`worked_restorable`). When no handle on the device is left, the flag is what
it was at first, whatever was done with how many handles (`flag_accounted`).
-/

namespace PciBus

variable {τ : Type}

/-! ## Opening a device -/

/-- Opening a device fails and leaves the files alone, or it enables a new
handle. -/
theorem Session.openDevice_cases (context : Context) (whitelist : Whitelist τ) (wanted : Wanted)
    (b : Bench) :
    ((openDevice context whitelist wanted b).1.result.toOption = none ∧
      (openDevice context whitelist wanted b).2.machine.files = b.machine.files) ∨
    ∃ fresh : Handle τ, fresh.IsNew ∧
      (openDevice context whitelist wanted b).1.result.toOption =
        some (Use.perform .enable ⟨fresh, b.machine.files⟩).handle ∧
      (openDevice context whitelist wanted b).2.machine.files =
        (Use.perform .enable ⟨fresh, b.machine.files⟩).files := by
  cases hcontext : b.session.context with
  | some old =>
      obtain ⟨hresult, hstate⟩ : _ ∧ (openDevice context whitelist wanted b).2 = b :=
        openDevice_taken whitelist wanted hcontext
      rw [hresult, hstate]
      exact .inl ⟨rfl, rfl⟩
  | none =>
      by_cases hchoice : ∃ found, choices context whitelist wanted b = [found]
      · obtain ⟨found, hchoice⟩ := hchoice
        obtain ⟨hanswer, hstate⟩ := openDevice_chosen hcontext hchoice
        rw [hanswer, hstate]
        cases henable : ((newHandle context b found).enable b.machine.files).1.result with
        | error e => exact .inl ⟨rfl, Handle.enable_failed henable⟩
        | ok handle =>
            refine .inr ⟨newHandle context b found, newHandle_isNew, ?_, rfl⟩
            simp [henable, Except.toOption, Use.perform, Use.answered_of_ok]
      · have hnone : ∀ found id, choices context whitelist wanted b = [found] →
            ¬ (newHandle context b found).HasFlag b.machine.files id :=
          fun found _ h => absurd ⟨found, h⟩ hchoice
        obtain ⟨⟨e, he⟩, hstate⟩ := openDevice_failed hcontext hnone
        rw [he, hstate]
        exact .inl ⟨rfl, rfl⟩

/-! ## A workshop -/

/-- Sessions and open handles on one machine. Sessions have numbers, and the
handles stand in the order in which they were opened. -/
structure Workshop (τ : Type) where
  machine : Machine
  sessions : Nat → Session
  handles : List (Handle τ) := []

/-- Exchanges the handle at an index and the files. -/
def Workshop.exchange (w : Workshop τ) (index : Nat)
    (f : Handle τ → List (Handle τ) × Files) : Workshop τ :=
  match w.handles[index]? with
  | none => w
  | some h =>
      { w with
        machine.files := (f h).2
        handles := w.handles.take index ++ (f h).1 ++ w.handles.drop (index + 1) }

/-- One thing that happens in a workshop. -/
inductive Act (τ : Type) where
  /-- A session opens a device; the handle joins the others. -/
  | openDevice (number : Nat) (context : Context) (whitelist : Whitelist τ) (wanted : Wanted)
  /-- Something else happens to a session. -/
  | session (number : Nat) (step : Step)
  | use (index : Nat) (call : Use)
  | close (index : Nat)
  | drop (index : Nat)
  /-- Somebody else changes the machine. -/
  | outside (change : Machine → Machine)

/-- The workshop after an act. -/
def Act.perform : Act τ → Workshop τ → Workshop τ
  | .openDevice number context whitelist wanted, w =>
      let opened := Session.openDevice context whitelist wanted ⟨w.sessions number, w.machine⟩
      { machine := opened.2.machine
        sessions := Function.update w.sessions number opened.2.session
        handles := w.handles ++ opened.1.result.toOption.toList }
  | .session number step, w =>
      let b := step.perform ⟨w.sessions number, w.machine⟩
      { w with
        machine := b.machine
        sessions := Function.update w.sessions number b.session }
  | .use index call, w =>
      w.exchange index fun h =>
        ([(call.perform ⟨h, w.machine.files⟩).handle], (call.perform ⟨h, w.machine.files⟩).files)
  | .close index, w => w.exchange index fun h => ([], (h.close w.machine.files).2)
  | .drop index, w => w.exchange index fun h => ([], (h.drop w.machine.files).2)
  | .outside change, w => { w with machine := change w.machine }

/-- The workshop after a run of acts. -/
def worked (acts : List (Act τ)) (w : Workshop τ) : Workshop τ :=
  acts.foldl (fun w act => act.perform w) w

@[simp] theorem worked_nil (w : Workshop τ) : worked [] w = w := rfl

@[simp] theorem worked_cons (act : Act τ) (acts : List (Act τ)) (w : Workshop τ) :
    worked (act :: acts) w = worked acts (act.perform w) := rfl

/-! ## Leaving a file to the handles -/

/-- Unless the act is a call that opens, uses or closes a handle, it leaves the
file alone. -/
def Act.LeavesToHandles (id : Nat) (w : Workshop τ) : Act τ → Prop
  | .session number step =>
      Files.SameAt id w.machine.files (step.perform ⟨w.sessions number, w.machine⟩).machine.files
  | .use _ call => call.LeavesToHandle id w.machine.files
  | .outside change => Files.SameAt id w.machine.files (change w.machine).files
  | _ => True

/-- Releasing a context changes no file. -/
theorem Act.leavesToHandles_release {id : Nat} {w : Workshop τ} (number : Nat) :
    (Act.session number .release).LeavesToHandles id w :=
  Files.SameAt.refl id w.machine.files

/-- Throughout the run the file is changed by handles only. -/
def LeftToHandles (id : Nat) : List (Act τ) → Workshop τ → Prop
  | [], _ => True
  | act :: acts, w => act.LeavesToHandles id w ∧ LeftToHandles id acts (act.perform w)

/-! ## What an act keeps -/

section

variable {id : Nat} {original : Bytes} {w : Workshop τ}

/-- Exchanging one handle keeps the flag restorable if what is done with that
handle is an exchange. -/
theorem Workshop.exchange_restorable {index : Nat} {f : Handle τ → List (Handle τ) × Files}
    (h : Restorable id original w.machine.files w.handles)
    (hf : ∀ handle, w.handles[index]? = some handle →
      Exchange id w.machine.files (f handle).2 [handle] (f handle).1 ∧
      (∀ path, (f handle).2.fileAt path = .ok id ↔ w.machine.files.fileAt path = .ok id) ∧
      ∀ left ∈ (f handle).1, ∀ m, left.mapping = some m → m.file ≠ id) :
    Restorable id original (w.exchange index f).machine.files (w.exchange index f).handles := by
  cases hindex : w.handles[index]? with
  | none =>
      rw [Workshop.exchange, hindex]
      exact h
  | some handle =>
      rw [Workshop.exchange, hindex]
      obtain ⟨hexchange, hpaths, hunmapped⟩ := hf handle hindex
      have hsplit : w.handles =
          w.handles.take index ++ [handle] ++ w.handles.drop (index + 1) := by
        obtain ⟨hlt, hget⟩ := List.getElem?_eq_some_iff.mp hindex
        rw [← hget, List.append_assoc, List.singleton_append, ← List.drop_eq_getElem_cons hlt,
          List.take_append_drop]
      rw [hsplit] at h
      exact h.exchange hpaths hunmapped hexchange

theorem Act.openDevice_restorable (h : Restorable id original w.machine.files w.handles)
    (number : Nat) (context : Context) (whitelist : Whitelist τ) (wanted : Wanted) :
    let w' := (Act.openDevice number context whitelist wanted).perform w
    Restorable id original w'.machine.files w'.handles := by
  intro w'
  obtain ⟨hnone, hfiles⟩ | ⟨fresh, hnew, hsome, hfiles⟩ :=
    Session.openDevice_cases context whitelist wanted ⟨w.sessions number, w.machine⟩
  · have hhandles : w'.handles = w.handles := by
      simp only [w', Act.perform, hnone]
      exact List.append_nil _
    rw [hhandles, show w'.machine.files = w.machine.files from hfiles]
    exact h
  · have hhandles : w'.handles =
        w.handles ++ [(Use.perform .enable ⟨fresh, w.machine.files⟩).handle] ++ [] := by
      simp only [w', Act.perform, hsome]
      simp
    have hexchange := (Use.enable_exchange id ⟨fresh, w.machine.files⟩).of_unmarked hnew.not_marked
    have hunmapped := Use.unmapped_perform .enable (d := ⟨fresh, w.machine.files⟩)
      (fun bar => h.apart fresh.path bar) (by simp [hnew.mapping])
    rw [hhandles, show w'.machine.files = _ from hfiles]
    have hbefore : Restorable id original w.machine.files (w.handles ++ [] ++ []) := by
      simpa using h
    refine hbefore.exchange (fun path => ?_) (by simpa using hunmapped) hexchange
    have hleaves : Use.LeavesToHandle id w.machine.files .enable := trivial
    exact Use.fileAt_perform hleaves path

theorem Act.perform_restorable {act : Act τ}
    (h : Restorable id original w.machine.files w.handles) (hleaves : act.LeavesToHandles id w) :
    Restorable id original (act.perform w).machine.files (act.perform w).handles := by
  -- closing and dropping do the same to the files
  have hclosed : ∀ (index : Nat) (f : Handle τ → Files),
      (∀ handle, f handle = (handle.disable w.machine.files).2) →
      Restorable id original (w.exchange index fun handle => ([], f handle)).machine.files
        (w.exchange index fun handle => ([], f handle)).handles := by
    intro index f hf
    refine Workshop.exchange_restorable h fun handle _ => ?_
    have hgrows := (handle.disable_switched w.machine.files).files
    simp only [hf]
    refine ⟨handle.disable_exchange h.flagged (by simp), fun path => ?_, by simp⟩
    rw [hgrows.fileAt]
  cases act with
  | openDevice number context whitelist wanted =>
      exact openDevice_restorable h number context whitelist wanted
  | session number step => exact h.of_sameAt hleaves
  | use index call =>
      refine Workshop.exchange_restorable h fun handle hindex => ?_
      have hmapped := h.unmapped handle (List.mem_of_getElem? hindex)
      have hnew := Use.unmapped_perform call (d := ⟨handle, w.machine.files⟩)
        (fun bar => h.apart handle.path bar) hmapped
      have hcall : call.LeavesToHandle id w.machine.files := hleaves
      exact ⟨Use.exchange (d := ⟨handle, w.machine.files⟩) hcall h.flagged hmapped,
        Use.fileAt_perform hcall, by simpa using hnew⟩
  | close index => exact hclosed index _ fun handle => handle.close_files _
  | drop index => exact hclosed index _ fun handle => handle.drop_files _
  | outside change => exact h.of_sameAt hleaves

theorem worked_restorable {acts : List (Act τ)}
    (h : Restorable id original w.machine.files w.handles) (hleft : LeftToHandles id acts w) :
    Restorable id original (worked acts w).machine.files (worked acts w).handles := by
  induction acts generalizing w with
  | nil => exact h
  | cons act acts ih =>
      rw [worked_cons]
      exact ih (Act.perform_restorable h hleft.1) hleft.2

end

/-! ## The account -/

/-- What became of a flag that was `original` at first. -/
structure FlagAccount (id : Nat) (original : Bytes) (w : Workshop τ) : Prop where
  /-- Nothing behind the flag is changed. -/
  size : (w.machine.files.bytes id).size = original.size
  tail : ∀ i, i ≠ 0 → (w.machine.files.bytes id).byteAt i = original.byteAt i
  /-- A flag that was set stays, and no call on a handle writes it. -/
  untouched : original.byteAt 0 = Handle.flagOn → w.machine.files.bytes id = original ∧
    (∀ h : Handle τ, h.Governs w.machine.files id →
      (h.enable w.machine.files).2 = w.machine.files) ∧
    ∀ h ∈ w.handles, h.Governs w.machine.files id →
      (h.disable w.machine.files).2 = w.machine.files ∧
      (h.close w.machine.files).2 = w.machine.files ∧
      (h.drop w.machine.files).2 = w.machine.files
  /-- A flag that was clear is set only while a handle on the device is enabled
  that found it clear. -/
  held : original.byteAt 0 = Handle.flagOff →
    (w.machine.files.bytes id).byteAt 0 = Handle.flagOn →
    ∃ h ∈ w.handles, h.Governs w.machine.files id ∧ h.enabled = true ∧ h.wasDisabled = true
  /-- Such a handle leaves it clear when it switches the device off. -/
  cleared : ∀ h ∈ w.handles, h.Governs w.machine.files id → h.enabled = true →
    h.wasDisabled = true →
    ((h.disable w.machine.files).2.bytes id).byteAt 0 = Handle.flagOff ∧
    ((h.close w.machine.files).2.bytes id).byteAt 0 = Handle.flagOff ∧
    ((h.drop w.machine.files).2.bytes id).byteAt 0 = Handle.flagOff
  /-- With no handle left on the device, the file is what it was. -/
  restored : (∀ h ∈ w.handles, ¬ h.Governs w.machine.files id) →
    w.machine.files.bytes id = original

section

variable {id : Nat} {original : Bytes} {files : Files} {h : Handle τ}

theorem Handle.Governs.enable_files (hgoverns : h.Governs files id)
    (hset : (files.bytes id).byteAt 0 = Handle.flagOn) : (h.enable files).2 = files := by
  have hseen := hgoverns.flag?_eq (.inr hset)
  have hfiles : (h.enable files).2 = (Use.perform .enable ⟨h, files⟩).files := rfl
  rw [hfiles]
  obtain ⟨-, hperform⟩ | ⟨-, ⟨other, hclear, -⟩ | ⟨other, -, hperform⟩ | ⟨-, hperform⟩⟩ :=
    Use.perform_enable_cases ⟨h, files⟩
  · rw [hperform]
  · have hflag := (Prod.mk.inj (Option.some.inj (hseen.symm.trans hclear))).2
    rw [hset] at hflag
    exact absurd hflag (by decide)
  · rw [hperform]
  · rw [hperform]

theorem Handle.disable_files_of_unmarked (hgoverns : h.Governs files id)
    (hunmarked : ¬ h.Marked files id) : (h.disable files).2 = files := by
  have hfiles : (h.disable files).2 = (Use.perform .disable ⟨h, files⟩).files := rfl
  rw [hfiles]
  obtain ⟨-, hperform⟩ | ⟨hmine, -⟩ := Use.perform_disable_cases ⟨h, files⟩
  · rw [hperform]
  · exact absurd ⟨hgoverns, hmine.2⟩ hunmarked

theorem Handle.Holds.disable_clears (hholds : h.Holds files id)
    (hflagged : Flagged (files.bytes id)) :
    ((h.disable files).2.bytes id).byteAt 0 = Handle.flagOff := by
  obtain ⟨-, hbytes⟩ | ⟨hnot, -⟩ := h.disable_files_cases hflagged
  · rw [hbytes, Bytes.byteAt_overwrite_first hflagged.size_pos, if_pos rfl]
  · exact absurd hholds hnot

/-- Nothing behind the flag is ever changed. -/
theorem Restorable.bytes_eq {handles : List (Handle τ)}
    (h : Restorable id original files handles)
    (hfirst : (files.bytes id).byteAt 0 = original.byteAt 0) : files.bytes id = original := by
  refine Bytes.eq_of_byteAt h.size fun i _ => ?_
  by_cases hi : i = 0
  · rw [hi, hfirst]
  · exact h.tail i hi

theorem Restorable.account {w : Workshop τ} (horiginal : Flagged original)
    (h : Restorable id original w.machine.files w.handles) : FlagAccount id original w where
  size := h.size
  tail := h.tail
  untouched := by
    intro hon
    obtain ⟨hset, hunmarked⟩ := h.unmarked hon
    refine ⟨h.bytes_eq (hset.trans hon.symm), fun handle hgoverns => hgoverns.enable_files hset,
      fun handle hmem hgoverns => ?_⟩
    have hidle := handle.disable_files_of_unmarked hgoverns (hunmarked handle hmem)
    rw [handle.close_files, handle.drop_files]
    exact ⟨hidle, hidle, hidle⟩
  held := by
    intro hoff hset
    obtain ⟨handle, hmem, ⟨hgoverns, hwas⟩, henabled⟩ := h.held hoff hset
    exact ⟨handle, hmem, hgoverns, henabled, hwas⟩
  cleared := by
    intro handle _ hgoverns henabled hwas
    rw [handle.close_files, handle.drop_files]
    have hclears := Handle.Holds.disable_clears ⟨⟨hgoverns, hwas⟩, henabled⟩ h.flagged
    exact ⟨hclears, hclears, hclears⟩
  restored := by
    intro hnone
    apply h.bytes_eq
    rcases horiginal with hoff | hon
    · rcases h.flagged with hclear | hset
      · exact hclear.trans hoff.symm
      · obtain ⟨handle, hmem, hholds⟩ := h.held hoff hset
        exact absurd hholds.1.1 (hnone handle hmem)
    · exact (h.unmarked hon).1.trans hon.symm

/-- A flag is restorable while no handle is open. -/
theorem Restorable.start {directory : String} (hlink : files.Unlinked id)
    (hfile : files.fileAt (Files.join directory "enable") = .ok id)
    (hflag : Flagged (files.bytes id)) :
    Restorable (τ := τ) id (files.bytes id) files [] where
  apart := by
    intro root bar hbar hresource
    have hname := hlink.name_eq Files.isName_enable (Files.isName_resource hbar) hfile hresource
    have hother : ∀ n < 6, "enable" ≠ s!"resource{n}" := by decide +kernel
    exact hother bar.toNat hbar hname
  unmapped := by simp
  size := rfl
  tail := fun _ _ => rfl
  flagged := hflag
  unmarked := fun hon => ⟨hon, by simp⟩
  held := fun hoff hon => absurd (hoff.symm.trans hon) (by decide)

end

/-- **Flags are restored.** Let the enable file of a directory start with a
flag, have no second name, and be changed by handles only. Whatever sessions
open devices then, and whatever is done with the handles in whatever order,
the account of the flag comes out right. -/
theorem flag_accounted {w : Workshop τ} {directory : String} {id : Nat} (hnone : w.handles = [])
    (hlink : w.machine.files.Unlinked id)
    (hfile : w.machine.files.fileAt (Files.join directory "enable") = .ok id)
    (hflag : Flagged (w.machine.files.bytes id)) {acts : List (Act τ)}
    (hleft : LeftToHandles id acts w) :
    FlagAccount id (w.machine.files.bytes id) (worked acts w) := by
  have hstart : Restorable id (w.machine.files.bytes id) w.machine.files w.handles := by
    rw [hnone]
    exact .start hlink hfile hflag
  exact (worked_restorable hstart hleft).account hflag

/-- A device that is switched off and has a BAR, on a bus that several sessions
use. -/
def sharedDevice : Workshop Unit where
  machine :=
    { files :=
        { entries := [(["0000:00:01.0"], .directory), (["0000:00:01.0", "enable"], .file 0),
            (["0000:00:01.0", "resource0"], .file 1)]
          contents := #[#[0x30, 0x0a], #[0, 0, 0, 0]] }
      buses := [({} : Bus).plug ⟨0, 0, 1, 0⟩
        { image :=
            { bytes := ([0x86, 0x80, 0x34, 0x12] ++ List.replicate 252 (0 : UInt8)).toArray
              size_eq := by decide +kernel }
          sizes := #v[4, 0, 0, 0, 0, 0]
          romSize := 0
          name := none }] }
  sessions := fun _ => { root := "/" }

/-- A session opens the device and releases its context, opens it once more,
and so does another session. The first handle switches the device off under
the others and on again, and is closed last. -/
def crossedHandles : List (Act Unit) :=
  let whitelist : Whitelist Unit := [⟨0x8086, 0x1234, .works, ()⟩]
  [.openDevice 0 (.bus 0) whitelist {},
   .session 0 .release,
   .openDevice 0 (.bus 0) whitelist {},
   .openDevice 1 (.bus 0) whitelist {},
   .use 0 .disable,
   .use 2 (.map 0),
   .use 2 (.write .dword 0 0x31313131),
   .use 0 .enable,
   .use 1 .disable,
   .drop 1,
   .close 1,
   .close 0]

/-- There were three handles, and the file is what it was. -/
theorem crossedHandles_restored :
    (worked (crossedHandles.take 4) sharedDevice).handles.length = 3 ∧
      (worked crossedHandles sharedDevice).machine.files.bytes 0 = #[0x30, 0x0a] := by
  have hlink : sharedDevice.machine.files.Unlinked 0 :=
    Files.unlinked_of_entries (by decide +kernel)
  have hfile : sharedDevice.machine.files.fileAt (Files.join "0000:00:01.0" "enable") = .ok 0 := by
    rfl
  have hleft : LeftToHandles 0 crossedHandles sharedDevice :=
    ⟨trivial, Act.leavesToHandles_release _, trivial, trivial, trivial, trivial, trivial, trivial,
      trivial, trivial, trivial, trivial, trivial⟩
  have hflag : Flagged (sharedDevice.machine.files.bytes 0) := .inl rfl
  have haccount := flag_accounted rfl hlink hfile hflag hleft
  have hgone : (worked crossedHandles sharedDevice).handles.length = 0 := by decide +kernel
  refine ⟨by decide +kernel, haccount.restored ?_⟩
  rw [List.eq_nil_of_length_eq_zero hgone]
  simp

end PciBus

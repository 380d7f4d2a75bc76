import Mathlib.Data.List.TakeWhile
import PciBus.Proofs.Session.Backends
import PciBus.Proofs.Session.Pending
import PciBus.Proofs.Session.Rollback

/-!
# Writes that fail

A write registers its undo before it is attempted, so a write that fails leaves
one behind, unless nothing could be captured. Here two runs are compared, one
with such a call and one without it (`failed_write_left_out`).

Up to the turn of the undo they are the same. If the undo fails in its turn,
they are the same afterwards, too, and one more failure is counted. If it goes
through, the two buses differ at one function (`Apart`), and no later turn can
tell the difference: what it asks of a bus is whether a function is there
(`Apart.turn`).
-/

namespace PciBus

variable {id : Nat} {location : Location} {context : Context}

/-! ## Machines that differ at one function -/

/-- The callback does not look at the bus, and it changes no bus and no lock. -/
structure Aloof (id : Nat) (effect : Action Machine Unit) : Prop where
  unaware : ∀ m bus, effect (m.setBus id bus) = ((effect m).1, (effect m).2.setBus id bus)
  buses : ∀ m, (effect m).2.buses = m.buses
  locked : ∀ m, (effect m).2.locked = m.locked

def AllAloof (id : Nat) (due : List Cleanup) : Prop :=
  ∀ name effect, .callback name effect ∈ due → Aloof id effect

theorem Aloof.spares {effect : Action Machine Unit} (h : Aloof id effect) (location : Location) :
    Spares id location effect where
  slot m := by rw [Machine.slot?, Machine.bus, h.buses]; rfl
  locked m := by rw [h.locked]

/-- The two machines differ in what the function at one location of one bus
holds, and in nothing else. -/
structure Apart (id : Nat) (location : Location) (m m' : Machine) : Prop where
  bus : ∃ bus, m' = m.setBus id bus
  made : id < m.buses.length
  present : (m'.slot? id location).isSome = (m.slot? id location).isSome
  others : ∀ other, other ≠ location → m'.slot? id other = m.slot? id other

theorem Machine.setBus_setBus (m : Machine) (id : Nat) (bus bus' : Bus) :
    (m.setBus id bus).setBus id bus' = m.setBus id bus' := by
  simp [setBus]

namespace Apart

variable {m m' : Machine}

theorem isSome_slot? (h : Apart id location m m') (other : Location) :
    (m'.slot? id other).isSome = (m.slot? id other).isSome := by
  by_cases hother : other = location
  · rw [hother, h.present]
  · rw [h.others other hother]

theorem refuses_iff (h : Apart id location m m') (context : Context) (other : Location) :
    context.Refuses m' other ↔ context.Refuses m other := by
  obtain ⟨bus, rfl⟩ := h.bus
  cases context <;> exact Iff.rfl

/-- A write that one machine takes the other takes, too. -/
theorem write (h : Apart id location m m') (hbus : context.busId? = some id)
    {target : Location} {offset : UInt16} {width : Width} {value : UInt32} {after : Machine}
    (hwrite : context.write m target offset width value = .ok after) :
    ∃ after', context.write m' target offset width value = .ok after' ∧
      Apart id location after after' := by
  obtain ⟨hrefuses, next, hnext, rfl⟩ := (Context.write_eq_ok_iff hbus).mp hwrite
  obtain ⟨hspace, hpresent, -⟩ := Bus.write_eq_ok_iff.mp hnext
  -- a write asks for a function and for no lock, and there the machines agree
  have hpresent' : (m'.slot? id target).isSome := by
    rw [h.isSome_slot?]
    exact hpresent
  obtain ⟨after', hwrite'⟩ := Context.write_isOk hbus
    (fun hr => hrefuses ((h.refuses_iff context target).mp hr)) hpresent' hspace value
  obtain ⟨-, next', -, hafter'⟩ := (Context.write_eq_ok_iff hbus).mp hwrite'
  have hslot : ∀ other, (m.setBus id next).slot? id other = _ :=
    fun _ => Context.slot?_write hbus hwrite
  have hslot' : ∀ other, after'.slot? id other = _ := fun _ => Context.slot?_write hbus hwrite'
  refine ⟨after', hwrite', ⟨next', ?_⟩, ?_, ?_, fun other hother => ?_⟩
  · obtain ⟨bus, rfl⟩ := h.bus
    rw [hafter', Machine.setBus_setBus, Machine.setBus_setBus]
  · simpa [Machine.setBus] using h.made
  · rw [hslot, hslot', Option.isSome_map, Option.isSome_map, h.present]
  · rw [hslot, hslot', h.others other hother]

theorem symm (h : Apart id location m m') : Apart id location m' m where
  bus := by
    obtain ⟨bus, rfl⟩ := h.bus
    refine ⟨m.bus id, ?_⟩
    have hget : m.bus id = m.buses.get ⟨id, h.made⟩ := by simp [Machine.bus, h.made]
    rw [Machine.setBus_setBus, Machine.setBus, hget, List.get_eq_getElem, List.set_getElem_self]
  made := by
    obtain ⟨bus, rfl⟩ := h.bus
    simpa [Machine.setBus] using h.made
  present := h.present.symm
  others other hother := (h.others other hother).symm

theorem isSome_find? (h : Apart id location m m') (hbus : context.busId? = some id)
    (target : Location) :
    (context.find? m' target).isSome = (context.find? m target).isSome := by
  rw [Context.find?_of_busId? hbus, Context.find?_of_busId? hbus, Option.isSome_map,
    Option.isSome_map, h.isSome_slot?]

theorem toBool_write (h : Apart id location m m') (hbus : context.busId? = some id)
    (target : Location) (offset : UInt16) (width : Width) (value : UInt32) :
    (context.write m' target offset width value).toBool =
      (context.write m target offset width value).toBool := by
  cases hwrite : context.write m target offset width value with
  | ok after =>
      obtain ⟨after', hwrite', -⟩ := h.write hbus hwrite
      rw [hwrite']
      rfl
  | error e =>
      cases hwrite' : context.write m' target offset width value with
      | error e' => rfl
      | ok after' =>
          obtain ⟨after, hok, -⟩ := h.symm.write hbus hwrite'
          rw [hwrite] at hok
          cases hok

end Apart

/-! ## Turns that cannot tell -/

def Bench.withMachine (b : Bench) (m : Machine) : Bench := { b with machine := m }

namespace Apart

variable {b : Bench} {m' : Machine}

theorem restored (h : Apart id location b.machine m') (hbus : b.OnBus id) (undo : Undo) :
    Apart id location (Turn.restored undo b) (Turn.restored undo (b.withMachine m')) := by
  obtain ⟨⟨context, registry, root⟩, m⟩ := b
  cases context with
  | none => exact h
  | some context =>
      have hon : context.busId? = some id := hbus context rfl
      have hfind := h.isSome_find? hon undo.location
      have hbool := h.toBool_write hon undo.location undo.register undo.previous.width
        undo.previous.raw
      simp only [Turn.restored, Bench.withMachine, hfind]
      split
      · cases hwrite : context.write m undo.location undo.register undo.previous.width
            undo.previous.raw with
        | ok after =>
            obtain ⟨after', hwrite', hafter⟩ := h.write hon hwrite
            rw [hwrite']
            exact hafter
        | error e =>
            rw [hwrite] at hbool
            cases hwrite' : context.write m' undo.location undo.register undo.previous.width
                undo.previous.raw with
            | ok after => rw [hwrite'] at hbool; cases hbool
            | error e' => exact h
      · exact h

theorem failed_restore (h : Apart id location b.machine m') (hbus : b.OnBus id) (undo : Undo) :
    (Turn.mk (.restore undo) (b.withMachine m')).failed = (Turn.mk (.restore undo) b).failed := by
  obtain ⟨⟨context, registry, root⟩, m⟩ := b
  cases context with
  | none => rfl
  | some context =>
      have hon : context.busId? = some id := hbus context rfl
      have hbool := h.toBool_write hon undo.location undo.register undo.previous.width
        undo.previous.raw
      simp only [Turn.failed, Turn.faulted, Turn.skipped, Turn.refused, Bench.withMachine,
        ← Option.not_isSome, h.isSome_find? hon, hbool]

/-- An aloof callback takes the difference along as it is. -/
theorem callback {m : Machine} (h : Apart id location m m') {effect : Action Machine Unit}
    (heffect : Aloof id effect) :
    (effect m').1 = (effect m).1 ∧ Apart id location (effect m).2 (effect m').2 := by
  have hbuses := heffect.buses m
  have hslot : ∀ l, (effect m).2.slot? id l = m.slot? id l := by
    intro l
    rw [Machine.slot?, Machine.bus, hbuses]
    rfl
  have hbuses' := heffect.buses m'
  have hslot' : ∀ l, (effect m').2.slot? id l = m'.slot? id l := by
    intro l
    rw [Machine.slot?, Machine.bus, hbuses']
    rfl
  obtain ⟨bus, hm'⟩ := h.bus
  have hsame : effect m' = ((effect m).1, (effect m).2.setBus id bus) := by
    rw [hm', heffect.unaware]
  refine ⟨by rw [hsame], ⟨bus, by rw [hsame]⟩, hbuses ▸ h.made, ?_, fun other hother => ?_⟩
  · rw [hslot, hslot', h.present]
  · rw [hslot, hslot', h.others other hother]

/-- A turn does the same to both machines, and it fails with both or with
none. -/
theorem turn (h : Apart id location b.machine m') (hbus : b.OnBus id) {action : Cleanup}
    (haloof : AllAloof id [action]) :
    (Turn.mk action (b.withMachine m')).failed = (Turn.mk action b).failed ∧
      ∃ m'', (Turn.mk action (b.withMachine m')).left = (Turn.mk action b).left.withMachine m'' ∧
        Apart id location (Turn.mk action b).left.machine m'' := by
  cases action with
  | release =>
      rw [Turn.left_release, Turn.left_release]
      exact ⟨rfl, m', rfl, h⟩
  | restore undo =>
      rw [Turn.left_restore, Turn.left_restore]
      exact ⟨h.failed_restore hbus undo, _, rfl, h.restored hbus undo⟩
  | callback name effect =>
      have heffect := haloof name effect (List.mem_singleton.mpr rfl)
      have hcalled : Apart id location (Turn.calledOn ⟨.callback name effect, b⟩ name)
          (Turn.calledOn ⟨.callback name effect, b.withMachine m'⟩ name) := by
        obtain ⟨bus, hm'⟩ := h.bus
        exact ⟨⟨bus, by rw [Bench.withMachine, hm']; rfl⟩, h.made, h.present, h.others⟩
      obtain ⟨hsame, hapart⟩ := hcalled.callback heffect
      rw [Turn.left_callback, Turn.left_callback]
      refine ⟨?_, _, rfl, hapart⟩
      simp only [Turn.failed, Turn.faulted, Turn.skipped, Turn.refused, hsame]

/-- Nor can a whole drain tell the two machines apart. -/
theorem drained {due : List Cleanup} (haloof : AllAloof id due) {b : Bench} {m' : Machine}
    (h : Apart id location b.machine m') (hbus : b.OnBus id) :
    (course due (b.withMachine m')).countP Turn.failed = (course due b).countP Turn.failed ∧
      ∃ m'', drained due (b.withMachine m') = (PciBus.drained due b).withMachine m'' ∧
        Apart id location (PciBus.drained due b).machine m'' := by
  induction due generalizing b m' with
  | nil => exact ⟨rfl, m', rfl, h⟩
  | cons action rest ih =>
      obtain ⟨hfailed, m'', hleft, hnext⟩ := h.turn hbus fun name effect hmem =>
        haloof name effect (List.mem_singleton.mp hmem ▸ List.mem_cons_self)
      obtain ⟨hcount, last, hdrained, hlast⟩ :=
        ih (fun name effect hmem => haloof name effect (List.mem_cons_of_mem _ hmem)) hnext
          (Turn.left_onBus _ hbus)
      refine ⟨?_, last, ?_, hlast⟩
      · rw [course, course, List.countP_cons, List.countP_cons, hleft, hcount, hfailed]
      · rw [drained_cons, drained_cons, hleft, hdrained]

end Apart

/-! ## The turn of an undo -/

section

variable {b : Bench} {undo : Undo}

/-- An undo within config space goes through exactly where the session has its
context still, and the function is there and not locked. -/
theorem Turn.restore_goes_through_iff (hbus : b.OnBus id)
    (hspace : Bus.inSpace undo.register undo.previous.width = true) :
    (Turn.mk (.restore undo) b).failed = false ↔
      ∃ context, b.session.context = some context ∧
        Writable context id undo.location b.machine := by
  have hfind : ∀ context, b.session.context = some context →
      (context.find? b.machine undo.location).isSome =
        (b.machine.slot? id undo.location).isSome := by
    intro context hcontext
    rw [Context.find?_of_busId? (hbus context hcontext), Option.isSome_map]
  constructor
  · intro h
    obtain ⟨context, after, hcontext, hfound, hwrite⟩ := through_iff.mp h
    rw [hfind context hcontext] at hfound
    exact ⟨context, hcontext, hfound,
      ((Context.write_eq_ok_iff (hbus context hcontext)).mp hwrite).1⟩
  · rintro ⟨context, hcontext, hpresent, hrefuses⟩
    obtain ⟨after, hwrite⟩ := Context.write_isOk (hbus context hcontext) hrefuses hpresent hspace
      undo.previous.raw
    exact through_iff.mpr
      ⟨context, after, hcontext, (hfind context hcontext).trans hpresent, hwrite⟩

/-- An undo that goes through makes a difference to its own function only. -/
theorem apart_restored (hbus : b.OnBus id) (hcontext : b.session.context = some context)
    (hwritable : Writable context id undo.location b.machine)
    (hspace : Bus.inSpace undo.register undo.previous.width = true) :
    Apart id undo.location b.machine (Turn.restored undo b) := by
  have hon := hbus context hcontext
  obtain ⟨hpresent, hrefuses⟩ := hwritable
  obtain ⟨after, hwrite⟩ := Context.write_isOk hon hrefuses hpresent hspace undo.previous.raw
  obtain ⟨-, bus, -, hafter⟩ := (Context.write_eq_ok_iff hon).mp hwrite
  have hfind : (context.find? b.machine undo.location).isSome := by
    rw [Context.find?_of_busId? hon, Option.isSome_map, hpresent]
  rw [Turn.restored_of_through hcontext hfind hwrite]
  refine ⟨⟨bus, hafter⟩, Context.lt_of_slot? hpresent, ?_, fun other hother => ?_⟩
  · rw [Context.slot?_write hon hwrite, Option.isSome_map]
  · rw [Context.slot?_write hon hwrite]
    cases b.machine.slot? id other with
    | none => rfl
    | some slot => rw [Option.map_some, if_neg hother.symm]

/-- What a drain leaves at a byte of a writable function: what is due before
the next release puts there, and otherwise what is there. -/
theorem drained_byteAt? (hbus : context.busId? = some id) (due : List Cleanup) (b : Bench)
    (hcontext : b.session.context = some context)
    (hwritable : Writable context id location b.machine) (hspares : AllSpare id location due)
    (i : Nat) :
    (drained due b).machine.byteAt? id location i =
      (replayed location i (due.takeWhile (!·.isRelease))).or
        (b.machine.byteAt? id location i) := by
  have hsplit : due.takeWhile (!·.isRelease) ++ due.dropWhile (!·.isRelease) = due :=
    List.takeWhile_append_dropWhile
  have hkept : ∀ action ∈ due.takeWhile (!·.isRelease), action.isRelease = false := by
    intro action haction
    simpa using List.mem_takeWhile_imp haction
  have hheld := drained_writable hbus (due.takeWhile (!·.isRelease)) b hcontext hwritable hkept
    (fun name effect h => hspares name effect ((List.takeWhile_prefix _).subset h)) i
  rw [← hsplit, drained_append, hsplit, ← hheld]
  cases hrest : due.dropWhile (!·.isRelease) with
  | nil => rfl
  | cons action old =>
      -- the first action that is not taken is the release
      have hrelease : action = .release := by
        have hhead := List.head?_dropWhile_not (fun action : Cleanup => !action.isRelease) due
        rw [hrest] at hhead
        cases action <;> simp_all [Cleanup.isRelease]
      have hold : AllSpare id location old := fun name effect h => hspares name effect
        ((List.dropWhile_suffix _).subset (hrest ▸ List.mem_cons_of_mem _ h))
      have hgone := drained_gone old
        (Turn.left ⟨.release, drained (due.takeWhile (!·.isRelease)) b⟩)
        (by rw [Turn.left_release]) hold
      rw [hrelease, drained_cons, Machine.byteAt?, hgone, Turn.left_release]
      rfl

end

/-! ## Leaving a failed write out -/

/-- A write that fails after its capture leaves its undo and nothing else. -/
theorem Session.writeConfig_failed {b : Bench} {register : UInt16} {value : Value} {undo : Undo}
    {e : Fault} (hcaptured : captured? location register value.width b = some undo)
    (hfailed : (writeConfig location register value b).1.result = .error e) :
    (writeConfig location register value b).2 = b.push (.restore undo) := by
  rw [writeConfig_captured hcaptured]
  cases hcontext : b.session.context with
  | none => simp [captured?, hcontext] at hcaptured
  | some context =>
      have hcapture := (captured?_eq_some_iff hcontext).mp hcaptured
      rw [writeConfig_result hcontext, hcapture] at hfailed
      cases hwrite : context.write b.machine location register value.width value.raw with
      | ok after => simp [hwrite, Except.bind, Except.map] at hfailed
      | error fault =>
          simp only [written, hcontext, hwrite]
          rfl

/-- The undo of a write to bytes of a function went through in its turn. Of
the machines that are left with it and without it, the one has at these bytes
what the capture `found`, and the other what was there in the turn, `seen`,
except where `held`, due later, puts a byte back in both. -/
structure PutBack (id : Nat) (location : Location) (register : UInt16) (width : Width)
    (held : List Cleanup) (found seen : Machine) (kept cut : Machine) : Prop where
  apart : Apart id location cut kept
  untouched : ∀ i, ¬ Covers register width i →
    kept.byteAt? id location i = cut.byteAt? id location i
  kept : ∀ i, Covers register width i → kept.byteAt? id location i =
    (replayed location i held).or (found.byteAt? id location i)
  cut : ∀ i, Covers register width i → cut.byteAt? id location i =
    (replayed location i held).or (seen.byteAt? id location i)

/-- What an undo that goes through leads to at the end of the drain. -/
theorem putBack_of_goes_through {b found : Bench} {register : UInt16} {width : Width}
    {undo : Undo} {due : List Cleanup} (hon : b.OnBus id) (haloof : AllAloof id due)
    (hcontext : b.session.context = some context)
    (hcapture : Undo.capture context found.machine location register width = .ok undo)
    (hpresent : (found.machine.slot? id location).isSome)
    (hwritable : Writable context id location b.machine) :
    (course due (Turn.mk (.restore undo) b).left).countP Turn.failed =
        (course due b).countP Turn.failed ∧
      PutBack id location register width (due.takeWhile (!·.isRelease)) found.machine b.machine
        (drained due (Turn.mk (.restore undo) b).left).machine (drained due b).machine := by
  have hbus := hon context hcontext
  obtain ⟨hlocation, hregister, hwidth⟩ := Undo.target_of_capture hcapture
  have hspace := Undo.inSpace_of_capture hbus hcapture
  have hspares : AllSpare id location due :=
    fun name effect h => (haloof name effect h).spares location
  obtain ⟨hwritable', hput⟩ := restored_writable hbus hcontext hwritable undo
  have hapart := apart_restored hon hcontext (hlocation ▸ hwritable) hspace
  rw [hlocation] at hapart
  obtain ⟨hcount, last, hdrained, hlast⟩ := hapart.drained haloof hon
  have hcut := drained_byteAt? hbus due b hcontext hwritable hspares
  -- the same of the bench on which the undo was carried out
  have hkept : ∀ i, last.byteAt? id location i =
      (replayed location i (due.takeWhile (!·.isRelease))).or
        ((undo.byteAt? location i).or (b.machine.byteAt? id location i)) := by
    intro i
    have h := drained_byteAt? hbus due (b.withMachine (Turn.restored undo b)) hcontext
      hwritable' hspares i
    rw [hdrained] at h
    rw [← hput]
    exact h
  have hleft : (Turn.mk (.restore undo) b).left = b.withMachine (Turn.restored undo b) :=
    Turn.left_restore undo
  rw [hleft, hdrained]
  refine ⟨hcount, hlast, fun i hcovers => ?_, fun i hcovers => ?_, fun i _ => hcut i⟩
  · have hnone : undo.byteAt? location i = none := by
      rw [Undo.byteAt?, if_neg]
      rintro ⟨-, -, h⟩
      exact hcovers (by rw [← hregister, ← hwidth]; exact h)
    refine (hkept i).trans ?_
    rw [hcut, hnone, Option.none_or]
  · obtain ⟨byte, hfound⟩ := Machine.exists_byteAt? hpresent i
    refine (hkept i).trans ?_
    rw [Undo.byteAt?_of_capture hbus hcapture hpresent hcovers, hfound, Option.some_or]

section

variable {found : Bench} {undo : Undo} {rest : List Step}

/-- The turn of an undo that fails is one more failure. -/
theorem shutdown_push_failed (hrest : GoesOn rest)
    (hskip : (Turn.mk (.restore undo) (reached rest found)).failed = true) :
    (Session.shutdown (after rest (found.push (.restore undo)))).1.result =
        .ok ⟨(after rest found).session.registry.size + 1,
          (after rest found).turns.countP Turn.failed + 1⟩ ∧
      (Session.shutdown (after rest (found.push (.restore undo)))).2 =
        (Session.shutdown (after rest found)).2 := by
  have hleft := Turn.left_of_failed hskip
  constructor
  · rw [Session.shutdown_result, size_after_push hrest, turns_after_push hrest,
      turns_after hrest found, hleft]
    simp only [List.countP_append, List.countP_cons, hskip, if_pos, Nat.add_assoc]
  · rw [shutdown_after_push hrest, shutdown_after hrest, hleft]

/-- The turn of an undo that goes through is none, and it puts back what was
captured. -/
theorem shutdown_push_through {register : UInt16} {width : Width} (hrest : GoesOn rest)
    (hon : found.OnBus id) (haloof : AllAloof id found.session.registry.due)
    (hcontext : found.session.context = some context)
    (hcapture : Undo.capture context found.machine location register width = .ok undo)
    (hpresent : (found.machine.slot? id location).isSome)
    (hthrough : (Turn.mk (.restore undo) (reached rest found)).failed = false) :
    (Session.shutdown (after rest (found.push (.restore undo)))).1.result =
        .ok ⟨(after rest found).session.registry.size + 1,
          (after rest found).turns.countP Turn.failed⟩ ∧
      PutBack id location register width (found.session.registry.due.takeWhile (!·.isRelease))
        found.machine (reached rest found).machine
        (Session.shutdown (after rest (found.push (.restore undo)))).2.machine
        (Session.shutdown (after rest found)).2.machine := by
  have honTurn : (reached rest found).OnBus id := fun context hcontext =>
    hon context (context_of_reached hrest hcontext)
  have hspace := Undo.inSpace_of_capture (hon context hcontext) hcapture
  obtain ⟨held, hheld, hwritable⟩ := (Turn.restore_goes_through_iff honTurn hspace).mp hthrough
  obtain rfl : context = held :=
    Option.some.inj (hcontext.symm.trans (context_of_reached hrest hheld))
  rw [(Undo.target_of_capture hcapture).1] at hwritable
  obtain ⟨hcount, hput⟩ := putBack_of_goes_through honTurn haloof hheld hcapture hpresent hwritable
  constructor
  · rw [Session.shutdown_result, size_after_push hrest, turns_after_push hrest,
      turns_after hrest found]
    simp only [List.countP_append, List.countP_cons, hthrough, hcount]
    rfl
  · rw [shutdown_after_push hrest, shutdown_after hrest]
    exact hput

end

/-- **A failed write, left out.** Compare a run of a session on a bus with the
same run without one of its writes, which failed, up to the next shutdown. If
nothing was captured the runs are the same. Otherwise one more action is run.
If it fails in its turn, one more failure is counted and the machines are the
same. If it goes through, and the function was there when the write was called,
no more failures are counted and the register is put back as after a write that
went through. -/
theorem failed_write_left_out {start : Bench} {before rest : List Step} {register : UInt16}
    {value : Value} {e : Fault} (hrest : GoesOn rest)
    (hfailed : (Session.writeConfig location register value (after before start)).1.result =
      .error e)
    (hbus : (after before start).OnBus id)
    (haloof : AllAloof id (after before start).session.registry.due) :
    let found := after before start
    let kept := after (before ++ .write location register value :: rest) start
    let cut := after (before ++ rest) start
    (Session.captured? location register value.width found = none → kept = cut) ∧
    ∀ undo, Session.captured? location register value.width found = some undo →
      let turn : Turn := ⟨.restore undo, reached rest found⟩
      turn ∈ kept.turns ∧ ∃ executed failed,
        (turn.failed = false ↔ ∃ context, turn.bench.session.context = some context ∧
          Writable context id location turn.bench.machine) ∧
        (Session.shutdown cut).1.result = .ok ⟨executed, failed⟩ ∧
        (turn.failed = true →
          (Session.shutdown kept).1.result = .ok ⟨executed + 1, failed + 1⟩ ∧
          (Session.shutdown kept).2 = (Session.shutdown cut).2) ∧
        (turn.failed = false → (found.machine.slot? id location).isSome →
          (Session.shutdown kept).1.result = .ok ⟨executed + 1, failed⟩ ∧
          PutBack id location register value.width
            (found.session.registry.due.takeWhile (!·.isRelease)) found.machine
            turn.bench.machine (Session.shutdown kept).2.machine
            (Session.shutdown cut).2.machine) := by
  intro found kept cut
  have hcut : cut = after rest found := after_append before rest start
  have hkept : kept = after rest (Session.writeConfig location register value found).2 :=
    after_append before _ start
  constructor
  · intro hnone
    rw [hkept, hcut, Session.writeConfig_refused hnone]
  · intro undo hcaptured
    rw [Session.writeConfig_failed hcaptured hfailed] at hkept
    obtain ⟨context, hcontext⟩ : ∃ context, found.session.context = some context := by
      cases hcontext : found.session.context with
      | none => simp [Session.captured?, hcontext] at hcaptured
      | some context => exact ⟨context, rfl⟩
    have hcapture := (Session.captured?_eq_some_iff hcontext).mp hcaptured
    have hspace := Undo.inSpace_of_capture (hbus context hcontext) hcapture
    have honTurn : (reached rest found).OnBus id := fun context hcontext =>
      hbus context (context_of_reached hrest hcontext)
    have hiff : (Turn.mk (.restore undo) (reached rest found)).failed = false ↔ _ :=
      Turn.restore_goes_through_iff honTurn hspace
    rw [(Undo.target_of_capture hcapture).1] at hiff
    rw [hkept, hcut]
    refine ⟨by rw [turns_after_push hrest]; simp, _, _, hiff, Session.shutdown_result _,
      fun hskip => shutdown_push_failed hrest hskip, fun hthrough hpresent => ?_⟩
    exact shutdown_push_through hrest hbus haloof hcontext hcapture hpresent hthrough

/-- A session has its context, and a function is locked. -/
def lockedCard : List Step :=
  [.install (.guarded 0), .outside fun m => { m with locked := [⟨0, 0, 1, 0⟩] }]

/-- The lock is taken away, and another handle writes to the function. -/
def unlockedByOthers : List Step :=
  [.outside fun m => { m with locked := [] },
   .outside fun m => ((Context.bus 0).write m ⟨0, 0, 1, 0⟩ 0x40 .byte 0x55).toOption.getD m]

theorem goesOn_unlockedByOthers : GoesOn unlockedByOthers := by
  intro step hstep
  rcases List.mem_cons.mp hstep with rfl | hstep
  · exact id
  · obtain rfl := List.mem_singleton.mp hstep
    exact id

theorem lockedCard_onBus : (after lockedCard (Bench.fresh "/" twoCards)).OnBus 0 ∧
    AllAloof 0 (after lockedCard (Bench.fresh "/" twoCards)).session.registry.due := by
  constructor
  · rintro context ⟨⟩
    rfl
  · intro name effect h
    cases List.mem_singleton.mp h

/-- The undo of the refused write goes through, over the byte of the other
handle. -/
theorem lockedCard_put_back :
    ((Session.shutdown (after (lockedCard ++ .write ⟨0, 0, 1, 0⟩ 0x40 (.byte 1) ::
      unlockedByOthers) (Bench.fresh "/" twoCards))).2.machine.byteAt? 0 ⟨0, 0, 1, 0⟩ 0x40 =
        some 0) ∧
    ((Session.shutdown (after (lockedCard ++ unlockedByOthers)
      (Bench.fresh "/" twoCards))).2.machine.byteAt? 0 ⟨0, 0, 1, 0⟩ 0x40 = some 0x55) := by
  have hfailed : (Session.writeConfig ⟨0, 0, 1, 0⟩ 0x40 (.byte 1)
      (after lockedCard (Bench.fresh "/" twoCards))).1.result =
        .error (.config ⟨0, 0, 1, 0⟩ 0x40 .locked) := by rfl
  obtain ⟨-, hleft⟩ := failed_write_left_out goesOn_unlockedByOthers hfailed lockedCard_onBus.1
    lockedCard_onBus.2
  obtain ⟨-, executed, failed, -, -, -, hthrough⟩ :=
    hleft ⟨⟨0, 0, 1, 0⟩, 0x40, .byte 0⟩ (by decide +kernel)
  obtain ⟨-, hput⟩ := hthrough (by decide +kernel) (by decide +kernel)
  have hcovers : Covers 0x40 (Value.byte 1).width 0x40 := by decide
  exact ⟨(hput.kept 0x40 hcovers).trans (by decide +kernel),
    (hput.cut 0x40 hcovers).trans (by decide +kernel)⟩

/-- A failed write may leave a trace: leaving out the one that the lock has
refused changes what the function holds in the end. -/
theorem failed_write_leaves_trace :
    ¬ ∀ (machine : Machine) (before rest : List Step) (location : Location) (register : UInt16)
        (value : Value) (e : Fault), GoesOn rest →
      (Session.writeConfig location register value
        (after before (Bench.fresh "/" machine))).1.result = .error e →
      (after before (Bench.fresh "/" machine)).OnBus 0 →
      AllAloof 0 (after before (Bench.fresh "/" machine)).session.registry.due →
      let kept := after (before ++ .write location register value :: rest)
        (Bench.fresh "/" machine)
      let cut := after (before ++ rest) (Bench.fresh "/" machine)
      (∀ other i, (Session.shutdown kept).2.machine.byteAt? 0 other i =
        (Session.shutdown cut).2.machine.byteAt? 0 other i) ∧
      kept.turns.countP Turn.failed = cut.turns.countP Turn.failed := by
  intro h
  have hsame := (h twoCards lockedCard unlockedByOthers ⟨0, 0, 1, 0⟩ 0x40 (.byte 1) _
    goesOn_unlockedByOthers rfl lockedCard_onBus.1 lockedCard_onBus.2).1 ⟨0, 0, 1, 0⟩ 0x40
  revert hsame
  decide +kernel

end PciBus

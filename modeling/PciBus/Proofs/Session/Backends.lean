import PciBus.Proofs.Scan.Enumeration
import PciBus.Proofs.Scan.Mirror
import PciBus.Proofs.Session.Drain

/-!
# A session on a bus and one on a tree

Two sessions are used in the same way: one has a bus in memory for its
context, the other a scanned tree with the same images. Neither can be told
from the other (`backends_agree`): every call answers the same or fails alike,
both have the same actions due, and ending them gives the same report.

The relation that carries this is `Twins`: the images are the same, and what
is due is the same and stays within the config space of the functions. A call
keeps it (`Twins.call`), and so does every turn of the drain
(`DrainTwins.turn`).
-/

namespace PciBus

/-! ## Calls -/

namespace Session

variable {b : Bench} {context : Context}

theorem readConfig_result (h : b.session.context = some context) (location : Location)
    (register : UInt16) (width : Width) :
    (readConfig location register width b).1.result =
      context.read b.machine location register width := by
  simp [readConfig, Bench.context, h, Except.bind]

theorem classifyBar_result (h : b.session.context = some context) (location : Location)
    (offset : UInt16) :
    (classifyBar location offset b).1.result =
      (Bar.classify (context.read b.machine location) location offset Bar.nativeBits).result := by
  simp [classifyBar, Bench.context, h, Except.bind]

theorem classifyBar_state (h : b.session.context = some context) (location : Location)
    (offset : UInt16) : (classifyBar location offset b).2 = b := by
  simp [classifyBar, Bench.context, h, Except.bind]

theorem writeConfig_result (h : b.session.context = some context) (location : Location)
    (register : UInt16) (value : Value) :
    (writeConfig location register value b).1.result =
      (Undo.capture context b.machine location register value.width).bind fun _ =>
        (context.write b.machine location register value.width value.raw).map fun _ => () := by
  cases hcapture : Undo.capture context b.machine location register value.width with
  | error e => simp [writeConfig, Bench.context, h, hcapture, Except.bind]
  | ok undo =>
      cases hwrite : context.write b.machine location register value.width value.raw <;>
        simp [writeConfig, Bench.context, Bench.onRegistry, Bench.onMachine, Registry.register,
          Action.change, h, hcapture, hwrite, Except.bind, Except.map]

end Session

/-- A call to a session that has its context. -/
inductive Call where
  | read (location : Location) (register : UInt16) (width : Width)
  | write (location : Location) (register : UInt16) (value : Value)
  | classify (location : Location) (offset : UInt16)

/-- What a call answers. -/
inductive Answer where
  | number (value : UInt32)
  | done
  | bar (bar : Bar)
  deriving DecidableEq

namespace Call

/-- The function that a call is for. -/
def location : Call → Location
  | .read location _ _ | .write location _ _ | .classify location _ => location

def run : Call → Action Bench Answer
  | .read location register width => do
      return .number (← Session.readConfig location register width)
  | .write location register value => do
      Session.writeConfig location register value
      return .done
  | .classify location offset => do
      return .bar (← Session.classifyBar location offset)

end Call

/-- The bench after a run of calls. -/
def called (calls : List Call) (b : Bench) : Bench :=
  calls.foldl (fun b call => (call.run b).2) b

@[simp] theorem called_nil (b : Bench) : called [] b = b := rfl

@[simp] theorem called_cons (call : Call) (calls : List Call) (b : Bench) :
    called (call :: calls) b = called calls (call.run b).2 := rfl

/-! ## Twins -/

/-- The action can be run on a bus and on a tree: it releases the context, or
writes back within the config space of a function at one of the locations. -/
def Cleanup.StaysAt (locations : List Location) : Cleanup → Prop
  | .release => True
  | .restore undo =>
      undo.location ∈ locations ∧ Bus.inSpace undo.register undo.previous.width = true
  | .callback _ _ => False

/-- Two sessions at work with the same images, one on a bus and one on a tree,
that have the same to do before they end. -/
structure Twins (id : Nat) (scan : Scan) (file : Location → Nat) (locations : List Location)
    (b t : Bench) : Prop where
  bus : b.session.context = some (.bus id)
  tree : t.session.context = some (.tree scan)
  due : t.session.registry.due = b.session.registry.due
  stays : ∀ action ∈ b.session.registry.due, action.StaysAt locations
  machines : Mirrors id scan file locations b.machine t.machine

section

variable {id : Nat} {scan : Scan} {file : Location → Nat} {locations : List Location}
  {b t : Bench}

namespace Twins

variable {location : Location} {register : UInt16} {value : Value}

/-- The two benches after a write that was captured. -/
theorem writeConfig_captured (h : Twins id scan file locations b t)
    (hlocation : location ∈ locations) {undo : Undo}
    (hundo : Undo.capture (.bus id) b.machine location register value.width = .ok undo)
    (hundo' : Undo.capture (.tree scan) t.machine location register value.width = .ok undo) :
    Alike (Session.writeConfig location register value b).1.result
        (Session.writeConfig location register value t).1.result ∧
      Twins id scan file locations (Session.writeConfig location register value b).2
        (Session.writeConfig location register value t).2 := by
  have hspace : Bus.inSpace register value.width = true := by
    have hbus : (Context.bus id).busId? = some id := rfl
    have hcaptured := Undo.capture_isOk hbus b.machine location register value.width
    rw [hundo] at hcaptured
    exact hcaptured.symm
  obtain ⟨hundoLocation, hundoRegister, hundoWidth⟩ := Undo.target_of_capture hundo
  obtain ⟨after, after', hafter, hafter', hmachines⟩ :=
    h.machines.write hlocation hspace value.raw
  have hstays : (Cleanup.restore undo).StaysAt locations := by
    rw [Cleanup.StaysAt, hundoLocation, hundoRegister, hundoWidth]
    exact ⟨hlocation, hspace⟩
  constructor
  · rw [Session.writeConfig_result h.bus, Session.writeConfig_result h.tree, hundo, hundo', hafter,
      hafter']
    exact .ok ()
  · rw [Session.writeConfig_captured ((Session.captured?_eq_some_iff h.bus).mpr hundo),
      Session.writeConfig_captured ((Session.captured?_eq_some_iff h.tree).mpr hundo')]
    simp only [Session.written, h.bus, h.tree, hafter, hafter', Except.toOption, Option.getD_some]
    refine ⟨h.bus, h.tree, ?_, ?_, hmachines⟩
    · simp [h.due]
    · simpa using ⟨hstays, h.stays⟩

theorem writeConfig (h : Twins id scan file locations b t) (hlocation : location ∈ locations)
    (register : UInt16) (value : Value) :
    Alike (Session.writeConfig location register value b).1.result
        (Session.writeConfig location register value t).1.result ∧
      Twins id scan file locations (Session.writeConfig location register value b).2
        (Session.writeConfig location register value t).2 := by
  have hcapture := h.machines.capture_alike hlocation register value.width
  generalize hundo : Undo.capture (.bus id) b.machine location register value.width = x at hcapture
  generalize hundo' : Undo.capture (.tree scan) t.machine location register value.width = x'
    at hcapture
  cases hcapture with
  | ok undo => exact h.writeConfig_captured hlocation hundo hundo'
  | error hfault =>
      constructor
      · rw [Session.writeConfig_result h.bus, Session.writeConfig_result h.tree, hundo, hundo']
        exact .error hfault
      · have hnone : Session.captured? location register value.width b = none := by
          simp [Session.captured?, h.bus, hundo, Except.toOption]
        have hnone' : Session.captured? location register value.width t = none := by
          simp [Session.captured?, h.tree, hundo', Except.toOption]
        rw [Session.writeConfig_refused hnone, Session.writeConfig_refused hnone']
        exact h

/-- A call answers both sessions alike and leaves them twins. -/
theorem call (h : Twins id scan file locations b t) {call : Call}
    (hlocation : call.location ∈ locations) :
    Alike (call.run b).1.result (call.run t).1.result ∧
      Twins id scan file locations (call.run b).2 (call.run t).2 := by
  cases call with
  | read location register width =>
      have halike := h.machines.read_alike hlocation register width
      simp only [Call.run, Action.result_return, Action.state_return, Session.readConfig_state,
        Session.readConfig_result h.bus, Session.readConfig_result h.tree]
      exact ⟨halike.bind fun _ => .refl _, h⟩
  | write location register value =>
      obtain ⟨halike, htwins⟩ := h.writeConfig hlocation register value
      simp only [Call.run, Action.result_return, Action.state_return]
      exact ⟨halike.bind fun _ => .refl _, htwins⟩
  | classify location offset =>
      have hread := fun offset width => h.machines.read_alike hlocation offset width
      have halike := Bar.classify_alike hread location offset Bar.nativeBits
      simp only [Call.run, Action.result_return, Action.state_return,
        Session.classifyBar_state h.bus, Session.classifyBar_state h.tree,
        Session.classifyBar_result h.bus, Session.classifyBar_result h.tree]
      exact ⟨halike.bind fun _ => .refl _, h⟩

theorem called (h : Twins id scan file locations b t) {calls : List Call}
    (hcalls : ∀ call ∈ calls, call.location ∈ locations) :
    Twins id scan file locations (called calls b) (called calls t) := by
  induction calls generalizing b t with
  | nil => exact h
  | cons call calls ih =>
      have hfirst := hcalls call List.mem_cons_self
      have hrest : ∀ call ∈ calls, call.location ∈ locations :=
        fun call hmem => hcalls call (List.mem_cons_of_mem _ hmem)
      rw [called_cons, called_cons]
      exact ih (h.call hfirst).2 hrest

end Twins

/-! ## Ending -/

/-- Two benches in the middle of a drain: both have their context still, or
neither has. -/
structure Draining (id : Nat) (scan : Scan) (file : Location → Nat) (locations : List Location)
    (b t : Bench) : Prop where
  context : (b.session.context = some (.bus id) ∧ t.session.context = some (.tree scan)) ∨
    (b.session.context = none ∧ t.session.context = none)
  machines : Mirrors id scan file locations b.machine t.machine

namespace Draining

/-- A turn fails on both or on neither, and leaves them with the same images. -/
theorem turn (h : Draining id scan file locations b t) {action : Cleanup}
    (haction : action.StaysAt locations) :
    Turn.failed ⟨action, b⟩ = Turn.failed ⟨action, t⟩ ∧
      Draining id scan file locations (Turn.left ⟨action, b⟩) (Turn.left ⟨action, t⟩) := by
  cases action with
  | callback name effect => exact haction.elim
  | release =>
      refine ⟨rfl, ?_⟩
      rw [Turn.left_release, Turn.left_release]
      exact ⟨.inr ⟨rfl, rfl⟩, h.machines⟩
  | restore undo =>
      obtain ⟨hlocation, hspace⟩ := haction
      rw [Turn.left_restore, Turn.left_restore]
      obtain ⟨hbus, htree⟩ | ⟨hbus, htree⟩ := h.context
      · obtain ⟨slot, hslot, -⟩ := h.machines.image _ hlocation
        obtain ⟨after, after', hafter, hafter', hmachines⟩ :=
          h.machines.write hlocation hspace undo.previous.raw
        have hfound : ((Context.bus id).find? b.machine undo.location).isSome := by
          rw [Context.find?_of_busId? rfl, hslot]
          rfl
        have hfound' : ((Context.tree scan).find? t.machine undo.location).isSome :=
          h.machines.enumerated _ hlocation
        have hfailed : Turn.failed ⟨.restore undo, b⟩ = false := by
          simp [Turn.failed, Turn.faulted, Turn.skipped, Turn.refused, hbus, hfound, hafter,
            Except.toBool, Option.isNone_eq_false_iff]
        have hfailed' : Turn.failed ⟨.restore undo, t⟩ = false := by
          simp [Turn.failed, Turn.faulted, Turn.skipped, Turn.refused, htree, hfound', hafter',
            Except.toBool, Option.isNone_eq_false_iff]
        refine ⟨hfailed.trans hfailed'.symm, .inl ⟨hbus, htree⟩, ?_⟩
        simp only [Turn.restored, hbus, htree, hfound, hfound', hafter, hafter', if_true,
          Except.toOption, Option.getD_some]
        exact hmachines
      · refine ⟨?_, .inr ⟨hbus, htree⟩, ?_⟩
        · simp [Turn.failed, Turn.faulted, Turn.skipped, Turn.refused, hbus, htree]
        · simp only [Turn.restored, hbus, htree]
          exact h.machines

theorem drained (h : Draining id scan file locations b t) {due : List Cleanup}
    (hdue : ∀ action ∈ due, action.StaysAt locations) :
    (course due b).countP Turn.failed = (course due t).countP Turn.failed ∧
      Draining id scan file locations (drained due b) (drained due t) := by
  induction due generalizing b t with
  | nil => exact ⟨rfl, h⟩
  | cons action rest ih =>
      obtain ⟨hfailed, hleft⟩ := h.turn (hdue action List.mem_cons_self)
      obtain ⟨hcount, hdrained⟩ :=
        ih hleft fun other hmem => hdue other (List.mem_cons_of_mem _ hmem)
      rw [course, course, List.countP_cons, List.countP_cons, hfailed, hcount]
      exact ⟨rfl, hdrained⟩

end Draining

/-- Nothing is due after a session was ended. -/
theorem Session.shutdown_pending (b : Bench) : (shutdown b).2.session.registry.size = 0 := by
  rw [shutdown_state, drained_session]
  rfl

/-- Ending twins gives one report, and leaves the same images. -/
theorem Twins.shutdown (h : Twins id scan file locations b t) :
    (Session.shutdown b).1.result = (Session.shutdown t).1.result ∧
      Mirrors id scan file locations (Session.shutdown b).2.machine
        (Session.shutdown t).2.machine := by
  have hdraining : Draining id scan file locations b.cleared t.cleared :=
    ⟨.inl ⟨h.bus, h.tree⟩, h.machines⟩
  obtain ⟨hcount, hdrained⟩ := hdraining.drained h.stays
  rw [Session.shutdown_result, Session.shutdown_result, Session.shutdown_state,
    Session.shutdown_state, Bench.turns, Bench.turns, Registry.size, Registry.size, h.due, hcount]
  exact ⟨rfl, hdrained.machines⟩

end

/-! ## The same functions on a bus and in a tree -/

/-- Functions at valid locations that answer, each with its image on a bus and
in a config file of its own under a root. -/
structure SameFunctions (id : Nat) (root : String) (locations : List Location)
    (image : Location → Image) (file : Location → Nat) (m m' : Machine) : Prop where
  above : ∃ place, m'.files.resolve root = .ok (place, .directory)
  valid : ∀ l ∈ locations, l.device < 32 ∧ l.function < 8
  answers : ∀ l ∈ locations, (image l).bytes.number Register.vendor.toNat 2 ≠ 0xffff
  onBus : ∀ l ∈ locations, ∃ slot, m.slot? id l = some slot ∧ slot.card.image = image l
  inTree : ∀ l ∈ locations,
    m'.files.fileAt (Files.join (Files.join root l.name) "config") = .ok (file l) ∧
      m'.files.bytes (file l) = (image l).bytes
  own : ∀ a ∈ locations, ∀ b ∈ locations, file a = file b → a = b

/-- What can be seen from outside is the same on both benches: how many actions
are due, and every image. -/
structure SameView (id : Nat) (locations : List Location) (file : Location → Nat)
    (b t : Bench) : Prop where
  pending : b.session.registry.size = t.session.registry.size
  image : ∀ l ∈ locations, ∃ slot, b.machine.slot? id l = some slot ∧
    t.machine.files.bytes (file l) = slot.card.image.bytes
  size : ∀ l ∈ locations, (t.machine.files.bytes (file l)).size = imageSize

section

variable {id : Nat} {root : String} {locations : List Location} {image : Location → Image}
  {file : Location → Nat} {m m' : Machine}

/-- A scan finds every function of the tree, so bus and tree are mirrors. -/
theorem SameFunctions.mirrors (h : SameFunctions id root locations image file m m') :
    ∃ scan, (Scan.take m'.files root).result = .ok scan ∧
      ∀ names, Mirrors id { scan with names := names } file locations m m' := by
  obtain ⟨place, hroot⟩ := h.above
  obtain ⟨scan, htake, hscanRoot, hfinds⟩ := Scan.take_enumerates hroot
  refine ⟨scan, htake, fun names => ⟨fun l hl => ?_, fun l hl => ?_, h.own, fun l hl => ?_⟩⟩
  · obtain ⟨slot, hslot, himage⟩ := h.onBus l hl
    exact ⟨slot, hslot, (h.inTree l hl).2.trans (congrArg Image.bytes himage.symm)⟩
  · rw [Scan.configPath, hscanRoot]
    exact (h.inTree l hl).1
  · obtain ⟨hdevice, hfunction⟩ := h.valid l hl
    obtain ⟨hfile, hbytes⟩ := h.inTree l hl
    have hlong : Scan.headerSize ≤ (m'.files.bytes (file l)).size := by
      rw [hbytes, (image l).size_eq]
      decide
    obtain ⟨sizes, romSize, hrecord⟩ :=
      Scan.readFunction_answers (l := l) hfile hlong (hbytes ▸ h.answers l hl)
    have hmem := hfinds _ l _ _ l.isName_name (Location.ofName?_name hdevice hfunction) hfile
      hrecord
    rw [List.find?_isSome]
    exact ⟨_, hmem, by simp [Record.ofConfig]⟩

theorem Mirrors.sameView {scan : Scan} {b t : Bench}
    (h : Mirrors id scan file locations b.machine t.machine)
    (hpending : b.session.registry.size = t.session.registry.size) :
    SameView id locations file b t := by
  refine ⟨hpending, h.image, fun l hl => ?_⟩
  obtain ⟨slot, -, hbytes⟩ := h.image l hl
  rw [hbytes, slot.card.image.size_eq]

/-- **One session, two backends.** Let the same functions be on a bus and in a
tree. Scanning the tree succeeds; install the bus in one session and the scan
in another, and make the same calls to both. Then both look the same after
any number of calls, every further call answers them alike, ending them gives
the same report, and they look the same after that. -/
theorem backends_agree (h : SameFunctions id root locations image file m m') :
    ∃ scan, (Scan.take m'.files root).result = .ok scan ∧
      ∀ (names : Option NameDatabase) (here there : String) (calls : List Call),
        (∀ call ∈ calls, call.location ∈ locations) →
        let b := called calls (Step.perform (.install (.bus id)) (Bench.fresh here m))
        let t := called calls
          (Step.perform (.install (.tree { scan with names := names })) (Bench.fresh there m'))
        SameView id locations file b t ∧
        (∀ call : Call, call.location ∈ locations →
          Alike (call.run b).1.result (call.run t).1.result) ∧
        (Session.shutdown b).1.result = (Session.shutdown t).1.result ∧
        SameView id locations file (Session.shutdown b).2 (Session.shutdown t).2 := by
  obtain ⟨scan, htake, hmirrors⟩ := h.mirrors
  refine ⟨scan, htake, ?_⟩
  intro names here there calls hcalls b t
  have hstart : Twins id { scan with names := names } file locations
      (Step.perform (.install (.bus id)) (Bench.fresh here m))
      (Step.perform (.install (.tree { scan with names := names })) (Bench.fresh there m')) := by
    rw [Step.perform, Step.perform, (Session.install_free _ rfl).2, (Session.install_free _ rfl).2]
    exact ⟨rfl, rfl, rfl, by simp [Session.installed, Bench.push, Bench.fresh, Cleanup.StaysAt],
      hmirrors names⟩
  have htwins : Twins id { scan with names := names } file locations b t := hstart.called hcalls
  have hpending : b.session.registry.size = t.session.registry.size := by
    rw [Registry.size, Registry.size, htwins.due]
  obtain ⟨hreport, hended⟩ := htwins.shutdown
  have hnothing : (Session.shutdown b).2.session.registry.size =
      (Session.shutdown t).2.session.registry.size := by
    rw [Session.shutdown_pending, Session.shutdown_pending]
  exact ⟨htwins.machines.sameView hpending, fun call hcall => (htwins.call hcall).1, hreport,
    hended.sameView hnothing⟩

end

/-- A card whose vendor number has the low byte `low`. -/
def plainCard (low : UInt8) : Card where
  image :=
    { bytes := (low :: 0x80 :: List.replicate 254 (0 : UInt8)).toArray
      size_eq := by
        rw [List.size_toArray, List.length_cons, List.length_cons, List.length_replicate]
        rfl }
  sizes := .replicate 6 0
  romSize := 0
  name := none

/-- Two functions, on a bus and in a tree. -/
def doubled : Machine where
  buses := [(({} : Bus).plug ⟨0, 0, 1, 0⟩ (plainCard 0x86)).plug ⟨0, 0, 2, 0⟩ (plainCard 0x87)]
  files :=
    { entries :=
        [(["0000:00:01.0"], .directory), (["0000:00:01.0", "config"], .file 0),
          (["0000:00:02.0"], .directory), (["0000:00:02.0", "config"], .file 1)]
      contents := #[(plainCard 0x86).image.bytes, (plainCard 0x87).image.bytes] }

/-- Writes that overlap, to two functions, and one that would end past config
space. -/
def boundaryCalls : List Call :=
  [.write ⟨0, 0, 1, 0⟩ 0x10 (.long 0xffffffff),
   .write ⟨0, 0, 1, 0⟩ 0xfd (.long 1),
   .write ⟨0, 0, 1, 0⟩ 0x12 (.byte 0),
   .classify ⟨0, 0, 1, 0⟩ 0x10,
   .write ⟨0, 0, 2, 0⟩ 0xfc (.long 7)]

theorem boundaryCalls_agree :
    ∃ scan, (Scan.take doubled.files "/").result = .ok scan ∧
      let t := called boundaryCalls
        (Step.perform (.install (.tree { scan with names := none })) (Bench.fresh "/" doubled))
      t.session.registry.size = 4 ∧ (t.machine.files.bytes 0).size = imageSize := by
  have hsame : SameFunctions 0 "/" [⟨0, 0, 1, 0⟩, ⟨0, 0, 2, 0⟩]
      (fun l => if l.device = 1 then (plainCard 0x86).image else (plainCard 0x87).image)
      (fun l => if l.device = 1 then 0 else 1) doubled doubled := by
    constructor
    · exact ⟨[], rfl⟩
    · decide
    · decide +kernel
    · simp only [List.forall_mem_cons]
      exact ⟨⟨_, rfl, rfl⟩, ⟨_, rfl, rfl⟩, by simp⟩
    · simp only [List.forall_mem_cons]
      exact ⟨⟨rfl, rfl⟩, ⟨rfl, rfl⟩, by simp⟩
    · decide
  obtain ⟨scan, htake, hagree⟩ := backends_agree hsame
  obtain ⟨hview, -⟩ := hagree none "/" "/" boundaryCalls (by decide)
  refine ⟨scan, htake, ?_, hview.size ⟨0, 0, 1, 0⟩ (by simp)⟩
  rw [← hview.pending]
  decide +kernel

end PciBus

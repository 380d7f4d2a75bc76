import PciBus.Proofs.Session.Bystander

/-!
# A handle and a session side by side

An open handle and its session share a machine. Whoever has them may make the
calls on the one and the calls on the other in any order. It makes no
difference (`interleavings_agree`): every call answers and logs what it does
when the other side makes no calls at all, and the same files are left.

What carries this is that the two sides divide the machine between them: a call
on the handle keeps to the handle's territory, a call on the session keeps off
it (`HandleCall.paired`, `SessionCall.paired_joint`). So a call takes its own
side of the machine one step on and leaves the other side where it is, and
along an interleaving each side goes through the states that it goes through
alone (`transcript_alone`).
-/

namespace PciBus

variable {τ : Type}

/-! ## Interleavings -/

/-- A list of calls of two kinds, those of each kind in the order in which they
stand in a list of their own. -/
inductive Interleaves {α β : Type} : List α → List β → List (α ⊕ β) → Prop
  | nil : Interleaves [] [] []
  | left {call : α} {first second both} : Interleaves first second both →
      Interleaves (call :: first) second (.inl call :: both)
  | right {call : β} {first second both} : Interleaves first second both →
      Interleaves first (call :: second) (.inr call :: both)

/-- A handle, until it is closed, and the bench at which its session works. -/
structure Joint (τ : Type) where
  handle : Option (Handle τ)
  bench : Bench

def Joint.files (j : Joint τ) : Files := j.bench.machine.files

/-- A call on the handle. One that is closed takes no more calls. -/
def HandleCall.run (call : HandleCall) : Action (Joint τ) (Option UInt32) := fun j =>
  match j.handle with
  | none => (pure none, j)
  | some h =>
      let made := call.effect h j.files
      (made.answer, ⟨made.handle, j.bench.withFiles made.files⟩)

/-- A call on the session. -/
def SessionCall.onJoint (call : SessionCall) : Action (Joint τ) Reply :=
  call.run.within (·.bench) fun j bench => { j with bench := bench }

/-- What has come of a list of calls: the answers and logs on each side, and
what is left. -/
structure Transcript (τ : Type) where
  handleAnswers : List (Logged (Option UInt32)) := []
  sessionAnswers : List (Logged Reply) := []
  left : Joint τ

/-- The transcript of calls made one after the other. -/
def transcript : List (HandleCall ⊕ SessionCall) → Joint τ → Transcript τ
  | [], j => { left := j }
  | .inl call :: rest, j =>
      let after := transcript rest (call.run j).2
      { after with handleAnswers := (call.run j).1 :: after.handleAnswers }
  | .inr call :: rest, j =>
      let after := transcript rest (call.onJoint j).2
      { after with sessionAnswers := (call.onJoint j).1 :: after.sessionAnswers }

/-- Nobody can tell which of two transcripts came to be: the calls have
answered and logged the same, and the same handle, the same session and the
same machine are left. -/
structure Transcript.Agrees (p q : Transcript τ) : Prop where
  handleAnswers : p.handleAnswers = q.handleAnswers
  sessionAnswers : p.sessionAnswers = q.sessionAnswers
  handle : p.left.handle = q.left.handle
  session : p.left.bench.session = q.left.bench.session
  files : p.left.files.SameTree q.left.files
  rest : { p.left.bench.machine with files := q.left.files } = q.left.bench.machine

/-! ## Two sides of one machine -/

namespace Territory

/-- The same handle, on machines that agree inside its territory. -/
structure SameHandle (t : Territory) (j j' : Joint τ) : Prop where
  handle : j.handle = j'.handle
  files : t.inside j.files j'.files

/-- What concerns the handle. -/
def handleSide (t : Territory) : Setoid (Joint τ) where
  r := t.SameHandle
  iseqv := {
    refl := fun j => ⟨rfl, t.inside.refl j.files⟩
    symm := fun h => ⟨h.handle.symm, t.inside.symm h.files⟩
    trans := fun h h' => ⟨h.handle.trans h'.handle, t.inside.trans h.files h'.files⟩ }

/-- What concerns the session. -/
def sessionSide (t : Territory) : Setoid (Joint τ) := t.beside.comap Joint.bench

/-- Nothing concerns neither. -/
theorem agrees_of_sides {t : Territory} {p q : Transcript τ}
    (hhandle : p.handleAnswers = q.handleAnswers)
    (hsession : p.sessionAnswers = q.sessionAnswers) (hside : t.handleSide p.left q.left)
    (hside' : t.sessionSide p.left q.left) : p.Agrees q where
  handleAnswers := hhandle
  sessionAnswers := hsession
  handle := hside.handle
  session := hside'.session
  files := whole hside.files hside'.machine.files
  rest := by
    have hmachine := hside'.machine
    show Machine.mk _ _ _ _ = Machine.mk _ _ _ _
    rw [hmachine.buses, hmachine.locked, hmachine.called]
    rfl

end Territory

/-- The territory is marked off, the handle keeps to it, and the callbacks that
are due keep off it. -/
structure Joint.Divided (t : Territory) (j : Joint τ) : Prop where
  stands : t.Stands j.files
  within : ∀ h, j.handle = some h → h.Within t
  due : AllStayOut t j.bench.session.registry.due

variable {t : Territory} {j j' : Joint τ}

/-! ## One call -/

namespace HandleCall

theorem run_open {h : Handle τ} (hopen : j.handle = some h) (call : HandleCall) :
    call.run j = ((call.effect h j.files).answer,
      ⟨(call.effect h j.files).handle, j.bench.withFiles (call.effect h j.files).files⟩) := by
  rw [run, hopen]

theorem run_closed (hclosed : j.handle = none) (call : HandleCall) :
    call.run j = (pure none, j) := by
  rw [run, hclosed]

/-- A call on the handle concerns the handle's side. -/
theorem paired (hj : j.Divided t) (hside : t.handleSide j j') (call : HandleCall) :
    Paired t.handleSide t.sessionSide call.run call.run j j' := by
  cases hopen : j.handle with
  | none =>
      have hopen' : j'.handle = none := hside.handle ▸ hopen
      exact .still (call.run_closed hopen) (call.run_closed hopen') hside
  | some h =>
      have hopen' : j'.handle = some h := hside.handle ▸ hopen
      have hconfined := confined hj.stands hside.files (hj.within h hopen) call
      have hrun' := call.run_open hopen'
      rw [← hconfined.answer] at hrun'
      exact .made (call.run_open hopen) hrun' ⟨hconfined.handle, hconfined.inside⟩
        ⟨rfl, rfl, rfl, rfl, hconfined.outside⟩

/-- It leaves the machine divided. -/
theorem divided (hj : j.Divided t) (call : HandleCall) : (call.run j).2.Divided t := by
  cases hopen : j.handle with
  | none =>
      rw [call.run_closed hopen]
      exact hj
  | some h =>
      have hconfined := confined hj.stands (t.inside.refl j.files) (hj.within h hopen) call
      rw [call.run_open hopen]
      exact ⟨hj.stands.of_outside hconfined.outside, hconfined.within, hj.due⟩

end HandleCall

/-- A call on the session concerns the session's side. -/
theorem SessionCall.paired_joint (hj : j.Divided t) (hside : t.sessionSide j j')
    (call : SessionCall) :
    Paired t.sessionSide t.handleSide call.onJoint call.onJoint j j' :=
  .within (SessionCall.paired hj.due hj.stands hside call) (fun _ _ hafter => hafter)
    fun _ hheld => ⟨rfl, hheld⟩

/-- It leaves the machine divided, too. -/
theorem SessionCall.divided {call : SessionCall} (hj : j.Divided t) (hcall : call.StaysOut t) :
    (call.onJoint j).2.Divided t where
  stands := hj.stands.of_inside
    ((SessionCall.paired_joint hj (t.sessionSide.refl j) call).spares).files
  within := hj.within
  due := allStayOut_run hj.due hcall

/-! ## Lists of calls -/

/-- On each side a transcript is what that side comes to alone. -/
structure Transcript.Splits (t : Territory) (p first second : Transcript τ) : Prop where
  handleAnswers : p.handleAnswers = first.handleAnswers
  sessionAnswers : p.sessionAnswers = second.sessionAnswers
  handleSide : t.handleSide p.left first.left
  sessionSide : t.sessionSide p.left second.left

/-- Every call takes its own side on, as it would alone, and leaves the other
side where it is. -/
theorem transcript_alone {handleCalls : List HandleCall} {sessionCalls : List SessionCall}
    {both : List (HandleCall ⊕ SessionCall)} (hboth : Interleaves handleCalls sessionCalls both)
    (hcalls : ∀ call ∈ sessionCalls, call.StaysOut t) {j handle session : Joint τ}
    (hj : j.Divided t) (hhandle : t.handleSide j handle) (hsession : t.sessionSide j session) :
    (transcript both j).Splits t (transcript (handleCalls.map .inl) handle)
      (transcript (sessionCalls.map .inr) session) := by
  induction hboth generalizing j handle session with
  | nil => exact ⟨rfl, rfl, hhandle, hsession⟩
  | @left call handleCalls sessionCalls both hrest ih =>
      have hpaired := call.paired hj hhandle
      have hspares := t.sessionSide.trans (t.sessionSide.symm hpaired.spares) hsession
      have hsplits := ih hcalls (call.divided hj) hpaired.agree hspares
      refine ⟨?_, hsplits.sessionAnswers, hsplits.handleSide, hsplits.sessionSide⟩
      rw [transcript, List.map_cons, transcript, hpaired.answer, hsplits.handleAnswers]
  | @right call handleCalls sessionCalls both hrest ih =>
      have hcall : call.StaysOut t := hcalls call List.mem_cons_self
      have hlater : ∀ call ∈ sessionCalls, call.StaysOut t := fun call hmem =>
        hcalls call (List.mem_cons_of_mem _ hmem)
      have hpaired := SessionCall.paired_joint hj hsession call
      have hspares := t.handleSide.trans (t.handleSide.symm hpaired.spares) hhandle
      have hsplits := ih hlater (SessionCall.divided hj hcall) hspares hpaired.agree
      refine ⟨hsplits.handleAnswers, ?_, hsplits.handleSide, hsplits.sessionSide⟩
      rw [transcript, List.map_cons, transcript, hpaired.answer, hsplits.sessionAnswers]

/-! ## The tree -/

/-- What the handle has mapped is there, and has no name but that of a BAR. It
may have lost that name since. -/
def Handle.MapsBar (h : Handle τ) (files : Files) : Prop :=
  ∀ m, h.mapping = some m → m.file < files.contents.size ∧
    ∀ place, files.find? place = some (.file m.file) →
      ∃ bar < 6, place.getLast? = some s!"resource{bar}"

theorem Files.resource_ne_config {bar : Nat} (h : bar < 6) : s!"resource{bar}" ≠ "config" := by
  have hall : ∀ n < 6, s!"resource{n}" ≠ "config" := by decide +kernel
  exact hall bar h

/-- What a handle opens is not called `config`. -/
theorem Handle.Opens.name {h : Handle τ} {files : Files} {path : String} {id : Nat}
    (hpath : h.Opens path) (hfile : files.fileAt path = .ok id) :
    ∃ place name, name ≠ "config" ∧ files.find? (place ++ [name]) = some (.file id) := by
  rcases hpath with rfl | ⟨bar, hbar, rfl⟩
  · obtain ⟨place, -, hfind⟩ := Files.find?_of_fileAt Files.isName_enable hfile
    exact ⟨place, "enable", by decide, hfind⟩
  · obtain ⟨place, -, hfind⟩ := Files.find?_of_fileAt (Files.isName_resource hbar) hfile
    exact ⟨place, _, Files.resource_ne_config hbar, hfind⟩

/-- In a tree without links the files of a handle are apart from all `config`
files. -/
theorem Handle.territory_stands {h : Handle τ} {files : Files} (htree : files.LinkFree)
    (hmapped : h.MapsBar files) : (h.territory files).Stands files where
  leads path id hpath hfile := .inl ⟨path, hpath, hfile⟩
  made id hown := by
    rcases hown with ⟨path, hpath, hfile⟩ | ⟨m, hm, rfl⟩
    · obtain ⟨place, name, -, hfind⟩ := hpath.name hfile
      exact htree.made _ id hfind
    · exact (hmapped m hm).1
  unnamed place id hown hfind hconfig := by
    rcases hown with ⟨path, hpath, hfile⟩ | ⟨m, hm, rfl⟩
    · obtain ⟨place', name, hname, hfind'⟩ := hpath.name hfile
      rw [htree.single id _ _ hfind hfind', List.getLast?_concat] at hconfig
      exact hname (Option.some.inj hconfig)
    · obtain ⟨bar, hbar, hlast⟩ := (hmapped m hm).2 place hfind
      rw [hlast] at hconfig
      exact Files.resource_ne_config hbar (Option.some.inj hconfig)

/-- A use makes no links, and what it maps is a BAR. -/
theorem Use.mapsBar_perform {d : Desk τ} {use : Use} (own : use.IsCall) (htree : d.files.LinkFree)
    (hmapped : d.handle.MapsBar d.files) :
    (use.perform d).files.LinkFree ∧ (use.perform d).handle.MapsBar (use.perform d).files := by
  let t := d.handle.territory d.files
  obtain ⟨-, -, -, houtside⟩ := use.agrees own (Handle.territory_stands htree hmapped)
    (t.inside.refl d.files) (d.handle.within_territory d.files)
  have hfind : ∀ place, (use.perform d).files.find? place = d.files.find? place :=
    Files.find?_congr houtside.entries.symm
  refine ⟨htree.of_find? (fun place id hplace => hfind place ▸ hplace) houtside.size.le,
    fun m hm => ?_⟩
  rw [← houtside.size]
  simp only [hfind]
  rcases mapping_cases hm with hlive | ⟨bar, hmaps⟩
  · exact hmapped m hlive
  · have hname := Files.isName_resource hmaps.bar_lt
    obtain ⟨place, -, hplace⟩ := Files.find?_of_fileAt hname hmaps.file
    refine ⟨htree.made _ m.file hplace, fun other hother => ⟨bar.toNat, hmaps.bar_lt, ?_⟩⟩
    rw [htree.single m.file other _ hother hplace, List.getLast?_concat]

/-- However a handle is used from when it is opened, it maps nothing but BARs. -/
theorem mapsBar_used {d : Desk τ} (htree : d.files.LinkFree) (hfresh : d.handle.mapping = none)
    {uses : List Use} (hown : ∀ use ∈ uses, use.IsCall) :
    (used uses d).files.LinkFree ∧ (used uses d).handle.MapsBar (used uses d).files := by
  have hmapped : d.handle.MapsBar d.files := fun m hm => by cases hfresh.symm.trans hm
  clear hfresh
  induction uses generalizing d with
  | nil => exact ⟨htree, hmapped⟩
  | cons use uses ih =>
      obtain ⟨htree, hmapped⟩ := Use.mapsBar_perform (hown use List.mem_cons_self) htree hmapped
      exact ih htree (fun later hmem => hown later (List.mem_cons_of_mem _ hmem)) hmapped

/-- **A handle and its session do not interfere.** Take an open handle, which
maps nothing but BARs (`mapsBar_used`), and a session on one machine, whose tree
has no links, and any two lists of calls on the one and on the other; the
callbacks that the session has or gets keep off the files of the handle. In
every interleaving the calls on each side answer and log what they do without
the other side, and any two interleavings leave the same. -/
theorem interleavings_agree {h : Handle τ} {b : Bench} (htree : b.machine.files.LinkFree)
    (hmapped : h.MapsBar b.machine.files) {handleCalls : List HandleCall}
    {sessionCalls : List SessionCall}
    (hdue : AllStayOut (h.territory b.machine.files) b.session.registry.due)
    (hcalls : ∀ call ∈ sessionCalls, call.StaysOut (h.territory b.machine.files))
    {both other : List (HandleCall ⊕ SessionCall)}
    (hboth : Interleaves handleCalls sessionCalls both)
    (hother : Interleaves handleCalls sessionCalls other) :
    let start : Joint τ := ⟨some h, b⟩
    (transcript both start).handleAnswers =
        (transcript (handleCalls.map .inl) start).handleAnswers ∧
      (transcript both start).sessionAnswers =
        (transcript (sessionCalls.map .inr) start).sessionAnswers ∧
      (transcript both start).Agrees (transcript other start) := by
  intro start
  let t := h.territory b.machine.files
  have hstart : start.Divided t := by
    refine ⟨Handle.territory_stands htree hmapped, fun h' hopen => ?_, hdue⟩
    obtain rfl := Option.some.inj hopen
    exact h.within_territory b.machine.files
  have halone : ∀ {calls}, Interleaves handleCalls sessionCalls calls →
      (transcript calls start).Splits t _ _ := fun hcalls' =>
    transcript_alone hcalls' hcalls hstart (t.handleSide.refl start) (t.sessionSide.refl start)
  have hone := halone hboth
  have htwo := halone hother
  refine ⟨hone.handleAnswers, hone.sessionAnswers, t.agrees_of_sides ?_ ?_ ?_ ?_⟩
  · rw [hone.handleAnswers, htwo.handleAnswers]
  · rw [hone.sessionAnswers, htwo.sessionAnswers]
  · exact t.handleSide.trans hone.handleSide (t.handleSide.symm htwo.handleSide)
  · exact t.sessionSide.trans hone.sessionSide (t.sessionSide.symm htwo.sessionSide)

/-- A device that a session has opened and switched on. -/
def openedCard : Handle Unit where
  name := "card"
  record := .ofConfig ⟨0, 0, 1, 0⟩ (.zeros 64) Register.rom #v[4, 0, 0, 0, 0, 16] 0
  path := "/0000:00:01.0"
  tag := ()
  enabled := true
  wasDisabled := true

/-- The tree that it stands in. -/
def openedTree : Files :=
  ((({} : Files).put "/0000:00:01.0/config" (Bytes.zeros 64)).put "/0000:00:01.0/enable"
    #[0x31, 0x0a]).put "/0000:00:01.0/resource0" #[0, 0, 0, 0]

/-- The session that has opened it, with the context still installed. -/
def openedBench : Bench where
  session :=
    { context := some (.tree { root := "/", records := [openedCard.record] })
      registry := ⟨[.release]⟩
      root := "/" }
  machine := { files := openedTree }

/-- The device is mapped, written to and closed. -/
def cardCalls : List HandleCall :=
  [.call (.map 0) trivial, .call (.write .dword 0 0x12345678) trivial, .close]

/-- A byte of its config space is written, and the session is ended. -/
def benchCalls : List SessionCall :=
  [.write ⟨0, 0, 1, 0⟩ 0x3c (.byte 0xa5), .callback "led" (Action.fail .notMapped), .shutdown]

/-- It makes no difference which of the two comes first: the config byte is put
back, the device is switched off, and what was written to its BAR stays. -/
theorem openedCard_either_way :
    let start : Joint Unit := ⟨some openedCard, openedBench⟩
    let closedFirst := transcript (cardCalls.map .inl ++ benchCalls.map .inr) start
    let endedFirst := transcript (benchCalls.map .inr ++ cardCalls.map .inl) start
    closedFirst.Agrees endedFirst ∧
      endedFirst.left.files.contents =
        #[Bytes.zeros 64, #[0x30, 0x0a], #[0x78, 0x56, 0x34, 0x12]] ∧
      endedFirst.sessionAnswers.map (·.result.toOption) =
        [some .done, some .done, some (.report ⟨3, 1⟩)] := by
  intro start closedFirst endedFirst
  have htree : openedTree.LinkFree := ((Files.linkFree_empty.put _ _).put _ _).put _ _
  have hmapped : openedCard.MapsBar openedTree := fun m hm => by cases hm
  have hdue : AllStayOut (openedCard.territory openedTree) [.release] := fun name effect hmem => by
    cases List.mem_singleton.mp hmem
  have hfails : StaysOut (openedCard.territory openedTree) (Action.fail .notMapped) :=
    fun m m' _ hm => .still rfl rfl hm
  have hcalls : ∀ call ∈ benchCalls, call.StaysOut (openedCard.territory openedTree) := by
    simp only [benchCalls, List.mem_cons, List.not_mem_nil, or_false]
    rintro call (rfl | rfl | rfl)
    · trivial
    · exact hfails
    · trivial
  have hclosed : Interleaves cardCalls benchCalls (cardCalls.map .inl ++ benchCalls.map .inr) :=
    .left (.left (.left (.right (.right (.right .nil)))))
  have hended : Interleaves cardCalls benchCalls (benchCalls.map .inr ++ cardCalls.map .inl) :=
    .right (.right (.right (.left (.left (.left .nil)))))
  obtain ⟨-, -, hagrees⟩ :=
    @interleavings_agree _ openedCard openedBench htree hmapped _ _ hdue hcalls _ _ hclosed hended
  exact ⟨hagrees, by decide +kernel, by decide +kernel⟩

end PciBus

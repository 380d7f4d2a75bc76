import PciBus.Proofs.Action.Paired
import PciBus.Proofs.Files.Territory
import PciBus.Proofs.Handle.InPlace

/-!
# A handle keeps to its files

An open handle has to do with the files `enable` and `resource0` to `resource5`
of its directory and with the file that it has mapped: that is its territory.
Here a call is run on two trees that agree inside the territory, whatever else
they hold. It answers and logs the same on both, leaves trees that agree inside
again, and shows nowhere outside (`HandleCall.confined`).
-/

namespace PciBus

variable {τ : Type}

/-- A change to a file of the territory does the same inside, and nothing
outside. -/
theorem Territory.paired_edits {t : Territory} {a b : Files} {id : Nat} {change : Files → Files}
    (hab : t.inside a b) (hown : t.owns id) (h : Files.Edits id change) :
    Paired t.inside t.outside (Action.modify change) (Action.modify change) a b :=
  .modify (hab.edits h) (outside_of_edits h hown a)

/-! ## The territory of a handle -/

namespace Handle

/-- The handle opens files by this path. -/
def Opens (h : Handle τ) (path : String) : Prop :=
  path = h.flagPath ∨ ∃ bar : UInt64, bar.toNat < 6 ∧ path = h.resourcePath bar

/-- What the handle can get at: the files that it can open and the one that it
has mapped. -/
def territory (h : Handle τ) (files : Files) : Territory where
  path := h.Opens
  owns id := (∃ path, h.Opens path ∧ files.fileAt path = .ok id) ∨
    ∃ m, h.mapping = some m ∧ m.file = id

/-- The handle keeps to a territory. -/
structure Within (h : Handle τ) (t : Territory) : Prop where
  opens : ∀ path, h.Opens path → t.path path
  mapped : ∀ m, h.mapping = some m → t.owns m.file

theorem within_territory (h : Handle τ) (files : Files) : h.Within (h.territory files) where
  opens _ hpath := hpath
  mapped m hm := .inr ⟨m, hm, rfl⟩

/-! ## Looking at files -/

variable {t : Territory} {a b : Files} {h : Handle τ} {id : Nat} {path : String}

theorem openFile_eq (hab : t.inside a b) (hpath : t.path path) :
    openFile a path = openFile b path := by
  rw [openFile, openFile, hab.leads path hpath]

theorem fileAt_of_openFile (hopen : (openFile a path).result = .ok id) :
    a.fileAt path = .ok id := by
  rw [openFile] at hopen
  cases hfile : a.fileAt path with
  | error e => simp [hfile, Except.bind] at hopen
  | ok other => simpa [hfile] using hopen

theorem readFlag_eq (hfile : Files.SameFile id a b) : readFlag a path id = readFlag b path id := by
  rw [readFlag, readFlag, hfile.bytes]

/-- Opening a file by a path of the territory and taking the flag from it. -/
theorem paired_flag {α : Type} {f : Nat → UInt8 → Action Files α} (hstands : t.Stands a)
    (hab : t.inside a b) (hpath : t.path path)
    (hf : ∀ id flag, t.owns id → Paired t.inside t.outside (f id flag) (f id flag) a b) :
    let x : Action Files α := do
      let files ← Action.get
      let id ← openFile files path
      let flag ← readFlag files path id
      f id flag
    Paired t.inside t.outside x x a b := by
  intro x
  refine .get ?_
  refine .lift (openFile_eq hab hpath) hab fun id hopen => ?_
  have hown : t.owns id := hstands.leads path id hpath (fileAt_of_openFile hopen)
  exact .lift (readFlag_eq (hab.files id hown)) hab fun flag _ => hf id flag hown

/-! ## Switching on and off -/

theorem paired_enable (hstands : t.Stands a) (hab : t.inside a b) (hwithin : h.Within t) :
    Paired t.inside t.outside h.enable h.enable a b := by
  unfold enable
  by_cases hon : h.enabled = true
  · rw [if_pos hon]
    exact .still rfl rfl hab
  rw [if_neg hon]
  refine paired_flag hstands hab (hwithin.opens _ (.inl rfl)) fun id flag hown => ?_
  dsimp only
  split
  · have hwrite := Territory.paired_edits hab hown (Files.edits_write id 0 [flagOn])
    refine .bind hwrite fun _ _ hafter _ => ?_
    exact .value hafter (.noted hafter)
  split
  · exact .value hab (.noted hab)
  · exact .lift rfl hab fun found _ => .noted hab

theorem paired_disable (hstands : t.Stands a) (hab : t.inside a b) (hwithin : h.Within t) :
    Paired t.inside t.outside h.disable h.disable a b := by
  unfold disable
  by_cases hidle : (!h.enabled || !h.wasDisabled) = true
  · rw [if_pos hidle]
    exact .still rfl rfl hab
  rw [if_neg hidle]
  refine paired_flag hstands hab (hwithin.opens _ (.inl rfl)) fun id flag hown => ?_
  dsimp only
  split
  · have hwrite := Territory.paired_edits hab hown (Files.edits_write id 0 [flagOff])
    exact .bind hwrite fun _ _ hafter _ => .noted hafter
  split
  · exact .noted hab
  · exact .lift rfl hab fun _ _ => .noted hab

end Handle

/-! ## Mapping and access -/

namespace Mapping

variable {t : Territory} {a b : Files} {id : Nat} {m : Mapping}

theorem ofFile_eq (hfile : Files.SameFile id a b) (path : String) (size : UInt64) :
    ofFile a id path size = ofFile b id path size := by
  rw [ofFile, ofFile, hfile.bytes]

theorem peek_eq (hfile : Files.SameFile m.file a b) (cell : Cell) (address : UInt64) :
    m.peek a cell address = m.peek b cell address := by
  simp only [peek, Files.shown, hfile.shown]

theorem edits_poke (m : Mapping) (cell : Cell) (address : UInt64) (value : UInt32) :
    Files.Edits m.file fun files => m.poke files cell address value :=
  Files.edits_overlay m.file address.toNat (Bytes.ofNumber cell.bytes value.toNat)

theorem paired_write (hab : t.inside a b) (hown : t.owns m.file) (cell : Cell) (address : UInt64)
    (value : UInt32) :
    Paired t.inside t.outside (m.write cell address value) (m.write cell address value) a b := by
  unfold write
  refine .lift rfl hab fun _ _ => ?_
  exact .note hab (Territory.paired_edits hab hown (m.edits_poke cell address value))

theorem paired_writeMasked (hab : t.inside a b) (hown : t.owns m.file) (cell : Cell)
    (address : UInt64) (value bits : UInt32) :
    Paired t.inside t.outside (m.writeMasked cell address value bits)
      (m.writeMasked cell address value bits) a b := by
  unfold writeMasked
  refine .lift rfl hab fun _ _ => ?_
  refine .get ?_
  dsimp only
  rw [peek_eq (hab.files _ hown)]
  exact .note hab (Territory.paired_edits hab hown (m.edits_poke cell address _))

end Mapping

namespace Handle

variable {t : Territory} {a b : Files} {h : Handle τ}

theorem map_eq (hstands : t.Stands a) (hab : t.inside a b) (hwithin : h.Within t) (bar : UInt64) :
    h.map a bar = h.map b bar := by
  unfold map
  by_cases hbar : bar.toNat < 6
  · rw [dif_pos hbar, dif_pos hbar]
    cases h.mapping with
    | some live => rfl
    | none =>
        have hpath : t.path (h.resourcePath bar) := hwithin.opens _ (.inr ⟨bar, hbar, rfl⟩)
        dsimp only
        rw [← openFile_eq hab hpath]
        cases hopen : a.fileAt (h.resourcePath bar) with
        | error e => simp [openFile, hopen, bind]
        | ok id =>
            have hown : t.owns id := hstands.leads _ id hpath hopen
            simp [openFile, hopen, bind, Mapping.ofFile_eq (hab.files id hown)]
  · rw [dif_neg hbar, dif_neg hbar]

theorem read_eq (hab : t.inside a b) (hwithin : h.Within t) (cell : Cell) (address : UInt64) :
    h.read a cell address = h.read b cell address := by
  cases hm : h.mapping with
  | none =>
      rw [read, read, mapped, hm]
      rfl
  | some m =>
      have hfile := hab.files m.file (hwithin.mapped m hm)
      rw [read_of_mapped hm, read_of_mapped hm, Mapping.read, Mapping.read, Mapping.peek_eq hfile]

theorem mapped_eq_ok_iff {m : Mapping} : h.mapped.result = .ok m ↔ h.mapping = some m := by
  rw [mapped]
  cases h.mapping <;> simp

theorem paired_write (hab : t.inside a b) (hwithin : h.Within t) (cell : Cell)
    (address : UInt64) (value : UInt32) :
    Paired t.inside t.outside (h.write cell address value) (h.write cell address value) a b := by
  unfold write
  refine .lift rfl hab fun m hm => ?_
  exact Mapping.paired_write hab (hwithin.mapped m (mapped_eq_ok_iff.mp hm)) cell address value

theorem paired_writeMasked (hab : t.inside a b) (hwithin : h.Within t) (cell : Cell)
    (address : UInt64) (value bits : UInt32) :
    Paired t.inside t.outside (h.writeMasked cell address value bits)
      (h.writeMasked cell address value bits) a b := by
  unfold writeMasked
  refine .lift rfl hab fun m hm => ?_
  exact Mapping.paired_writeMasked hab (hwithin.mapped m (mapped_eq_ok_iff.mp hm)) cell address
    value bits

/-! ## Closing -/

theorem paired_close (hstands : t.Stands a) (hab : t.inside a b) (hwithin : h.Within t) :
    Paired t.inside t.outside h.close h.close a b := by
  unfold close
  refine .lift rfl hab fun unmapped hunmap => ?_
  -- what is switched off has no mapping any more
  obtain rfl := Except.ok.inj (h.result_unmap.symm.trans hunmap)
  have hstill : ({ h with mapping := none } : Handle τ).Within t := ⟨hwithin.opens, nofun⟩
  exact .bind (paired_disable hstands hab hstill) fun _ _ hafter _ => .still rfl rfl hafter

theorem paired_drop (hstands : t.Stands a) (hab : t.inside a b) (hwithin : h.Within t) :
    Paired t.inside t.outside h.drop h.drop a b := by
  unfold drop
  refine .bind (paired_close hstands hab hwithin).attempt fun result _ hafter _ => ?_
  cases result with
  | ok u => exact .still rfl rfl hafter
  | error e => exact .noted hafter

end Handle

/-! ## Calls -/

/-- The use is a call on the handle, and not something that others do. -/
def Use.IsCall : Use → Prop
  | .outside _ => False
  | _ => True

/-- A call on an open handle. -/
inductive HandleCall where
  | call (use : Use) (own : use.IsCall)
  | close
  | drop

namespace HandleCall

/-- What a call on an open handle comes to. A handle that has been closed is
gone, whether or not that has succeeded. -/
structure Effect (τ : Type) where
  answer : Logged (Option UInt32)
  handle : Option (Handle τ)
  files : Files

def effect (h : Handle τ) (files : Files) : HandleCall → Effect τ
  | .call use _ =>
      let made := use.run ⟨h, files⟩
      ⟨made.1, some made.2.handle, made.2.files⟩
  | .close =>
      let made := h.close files
      ⟨made.1.answering fun _ => none, none, made.2⟩
  | .drop =>
      let made := h.drop files
      ⟨made.1.answering fun _ => none, none, made.2⟩

/-- What a call comes to on two trees: the same answer and log and the same
handle, which keeps to its territory; the trees agree inside again, and outside
nothing has changed. -/
structure Confined (call : HandleCall) (t : Territory) (h : Handle τ) (a b : Files) : Prop where
  answer : (call.effect h a).answer = (call.effect h b).answer
  handle : (call.effect h a).handle = (call.effect h b).handle
  within : ∀ h', (call.effect h a).handle = some h' → h'.Within t
  inside : t.inside (call.effect h a).files (call.effect h b).files
  outside : t.outside a (call.effect h a).files

end HandleCall

namespace Use

variable {t : Territory} {a b : Files} {h : Handle τ} {use : Use}

/-- What is mapped after a use was mapped before it, or the use has mapped it. -/
theorem mapping_cases {d : Desk τ} {m : Mapping} (hm : (use.perform d).handle.mapping = some m) :
    d.handle.mapping = some m ∨ ∃ bar, Maps d bar m := by
  cases hlive : d.handle.mapping with
  | none =>
      obtain ⟨bar, -, hmaps⟩ := Maps.of_perform hlive hm
      exact .inr ⟨bar, hmaps⟩
  | some live =>
      have hkept : use ≠ .unmap := by
        rintro rfl
        rw [perform, answered_of_ok (Handle.result_unmap _)] at hm
        cases hm
      rw [mapping_perform hlive hkept] at hm
      exact .inl hm

/-- No use takes the handle out of its territory: it opens the same files as
before, and maps none but these. -/
theorem within_perform (hstands : t.Stands a) (hwithin : h.Within t) (use : Use) :
    (use.perform ⟨h, a⟩).handle.Within t where
  opens path hpath := by
    rw [handle_perform] at hpath
    exact hwithin.opens path hpath
  mapped m hm := by
    rcases mapping_cases hm with hlive | ⟨bar, hmaps⟩
    · exact hwithin.mapped m hlive
    · have hpath : t.path (h.resourcePath bar) := hwithin.opens _ (.inr ⟨bar, hmaps.bar_lt, rfl⟩)
      exact hstands.leads _ m.file hpath hmaps.file

/-- A use answers the same on both trees, and leaves the same handle; what it
does to the files, it does inside. -/
theorem agrees (hcall : use.IsCall) (hstands : t.Stands a) (hab : t.inside a b)
    (hwithin : h.Within t) :
    use.answer ⟨h, a⟩ = use.answer ⟨h, b⟩ ∧
      (use.perform ⟨h, a⟩).handle = (use.perform ⟨h, b⟩).handle ∧
      t.inside (use.perform ⟨h, a⟩).files (use.perform ⟨h, b⟩).files ∧
      t.outside a (use.perform ⟨h, a⟩).files := by
  cases use with
  | enable =>
      have hpaired := Handle.paired_enable hstands hab hwithin
      refine ⟨?_, ?_, hpaired.agree, hpaired.spares⟩
      · rw [answer, answer, hpaired.answer]
      · rw [perform, perform, answered, answered, hpaired.answer]
  | disable =>
      have hpaired := Handle.paired_disable hstands hab hwithin
      refine ⟨?_, ?_, hpaired.agree, hpaired.spares⟩
      · rw [answer, answer, hpaired.answer]
      · rw [perform, perform, answered, answered, hpaired.answer]
  | map bar =>
      have hmap := Handle.map_eq hstands hab hwithin bar
      refine ⟨?_, ?_, hab, t.outside.refl a⟩
      · rw [answer, answer, hmap]
      · rw [perform, perform, answered, answered, hmap]
  | unmap => exact ⟨rfl, rfl, hab, t.outside.refl a⟩
  | read cell address =>
      refine ⟨?_, rfl, hab, t.outside.refl a⟩
      rw [answer, answer, Handle.read_eq hab hwithin]
  | write cell address value =>
      have hpaired := Handle.paired_write hab hwithin cell address value
      refine ⟨?_, rfl, hpaired.agree, hpaired.spares⟩
      rw [answer, answer, hpaired.answer]
  | mask cell address value bits =>
      have hpaired := Handle.paired_writeMasked hab hwithin cell address value bits
      refine ⟨?_, rfl, hpaired.agree, hpaired.spares⟩
      rw [answer, answer, hpaired.answer]
  | outside change => exact hcall.elim

end Use

/-- **A call is confined** to the territory of its handle. -/
theorem HandleCall.confined {t : Territory} {a b : Files} {h : Handle τ} (hstands : t.Stands a)
    (hab : t.inside a b) (hwithin : h.Within t) (call : HandleCall) : call.Confined t h a b := by
  cases call with
  | call use own =>
      obtain ⟨hanswer, hhandle, hinside, houtside⟩ := use.agrees own hstands hab hwithin
      have heffect : ∀ files, effect h files (.call use own) =
          ⟨use.answer ⟨h, files⟩, some (use.perform ⟨h, files⟩).handle,
            (use.perform ⟨h, files⟩).files⟩ := fun files => by rw [effect, use.run_eq]
      refine .mk ?_ ?_ ?_ ?_ ?_ <;> rw [heffect a]
      · rw [heffect b]
        exact hanswer
      · rw [heffect b]
        exact congrArg some hhandle
      · intro h' hleft
        obtain rfl := Option.some.inj hleft
        exact use.within_perform hstands hwithin
      · rw [heffect b]
        exact hinside
      · exact houtside
  | close =>
      have hpaired := Handle.paired_close hstands hab hwithin
      refine ⟨?_, rfl, nofun, hpaired.agree, hpaired.spares⟩
      simp only [effect, hpaired.answer]
  | drop =>
      have hpaired := Handle.paired_drop hstands hab hwithin
      refine ⟨?_, rfl, nofun, hpaired.agree, hpaired.spares⟩
      simp only [effect, hpaired.answer]

end PciBus

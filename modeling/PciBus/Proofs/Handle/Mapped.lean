import Mathlib.Data.List.Induction
import PciBus.Proofs.Handle.Use

/-!
# Which BAR a handle serves

A handle knows the file and the length that it has mapped, and not the BAR.
Mapping again while a mapping of the declared size is live keeps that
mapping, whatever BAR is asked for. So the BAR that a handle serves is the
one of the call that found nothing mapped (`MappedBy`), and it need not be
the one that was asked for last (`equal_sizes_keep_first_bar`).

As long as others keep the resource files, what a handle serves are the
current bytes of the file of that BAR (`map_serves`).
-/

namespace PciBus

variable {τ : Type}

/-! ## Serving a BAR -/

/-- Bytes were laid over a file at an offset, and nothing else has changed. -/
structure Stored (before after : Files) (id offset : Nat) (values : List UInt8) : Prop where
  bytes : after.bytes id = (before.bytes id).overwrite offset values
  others : ∀ other, other ≠ id → after.bytes other = before.bytes other
  entries : after.entries = before.entries

/-- Through the handle one reads and writes the resource file of a BAR, over
its declared size; the number of the file is `id`. -/
structure Serves (d : Desk τ) (bar : UInt64) (id : Nat) : Prop where
  file : d.files.fileAt (Files.join d.handle.path s!"resource{bar.toNat}") = .ok id
  range : ∀ cell address, (∃ value, (d.handle.read d.files cell address).result = .ok value) ↔
    InRange (d.handle.declared bar) cell address
  read : ∀ cell address, InRange (d.handle.declared bar) cell address →
    (d.handle.read d.files cell address).result =
      .ok (.ofNat ((d.files.bytes id).number address.toNat cell.bytes))
  write : ∀ cell address value, InRange (d.handle.declared bar) cell address →
    (d.handle.write cell address value d.files).1.result = .ok () ∧
      Stored d.files (d.handle.write cell address value d.files).2 id address.toNat
        (Bytes.ofNumber cell.bytes value.toNat)
  mask : ∀ cell address value bits, InRange (d.handle.declared bar) cell address →
    (d.handle.writeMasked cell address value bits d.files).1.result = .ok () ∧
      Stored d.files (d.handle.writeMasked cell address value bits d.files).2 id address.toNat
        (Bytes.ofNumber cell.bytes
          (Mapping.merge (.ofNat ((d.files.bytes id).number address.toNat cell.bytes))
            value bits).toNat)

/-- What keeps a handle serving a BAR: it has mapped the declared size of the
file that the name of the BAR leads to, and the file is that long. -/
structure Live (d : Desk τ) (bar : UInt64) (m : Mapping) : Prop where
  bar_lt : bar.toNat < 6
  mapping : d.handle.mapping = some m
  size : m.size = d.handle.declared bar
  file : d.files.fileAt (Files.join d.handle.path s!"resource{bar.toNat}") = .ok m.file
  fits : m.size.toNat ≤ (d.files.bytes m.file).size

namespace Mapping

variable {m : Mapping} {files : Files} {cell : Cell} {address : UInt64}

/-- In a file that is long enough, what a cell shows are bytes of the file. -/
theorem peek_of_fits (hfits : m.size.toNat ≤ (files.bytes m.file).size)
    (h : InRange m.size cell address) :
    m.peek files cell address =
      .ofNat ((files.bytes m.file).number address.toNat cell.bytes) := by
  rw [peek, Files.shown_eq_number (Nat.le_trans h.2 hfits)]

/-- There giving a cell a value changes the file, and no other. -/
theorem stored_poke (hfits : m.size.toNat ≤ (files.bytes m.file).size)
    (h : InRange m.size cell address) (value : UInt32) :
    Stored files (m.poke files cell address value) m.file address.toNat
      (Bytes.ofNumber cell.bytes value.toNat) := by
  have hlength : address.toNat + (Bytes.ofNumber cell.bytes value.toNat).length ≤
      (files.bytes m.file).size := by
    rw [Bytes.length_ofNumber]
    exact Nat.le_trans h.2 hfits
  unfold poke
  rw [Files.overlay_eq_overwrite hlength]
  constructor
  · rw [Files.bytes_overwrite, if_pos rfl]
  · intro other hother
    rw [Files.bytes_overwrite, if_neg (Ne.symm hother)]
  · rfl

end Mapping

theorem Live.serves {d : Desk τ} {bar : UInt64} {m : Mapping} (h : Live d bar m) :
    Serves d bar m.file where
  file := h.file
  range cell address := by
    rw [Handle.read_of_mapped h.mapping, ← h.size]
    constructor
    · rintro ⟨value, hvalue⟩
      by_contra hrange
      obtain ⟨e, he⟩ := Mapping.check_refused hrange
      simp [Mapping.read, he, Except.bind] at hvalue
    · intro hrange
      exact ⟨_, Mapping.read_eq_ok hrange⟩
  read cell address hrange := by
    rw [← h.size] at hrange
    rw [Handle.read_of_mapped h.mapping, Mapping.read_eq_ok hrange,
      Mapping.peek_of_fits h.fits hrange]
  write cell address value hrange := by
    rw [← h.size] at hrange
    rw [Handle.write_of_mapped h.mapping]
    obtain ⟨hok, hfiles⟩ := Mapping.write_eq_ok hrange
    rw [hfiles]
    exact ⟨hok, Mapping.stored_poke h.fits hrange value⟩
  mask cell address value bits hrange := by
    rw [← h.size] at hrange
    rw [Handle.writeMasked_of_mapped h.mapping]
    obtain ⟨hok, hfiles⟩ := Mapping.writeMasked_eq_ok hrange
    rw [hfiles, Mapping.peek_of_fits h.fits hrange]
    exact ⟨hok, Mapping.stored_poke h.fits hrange _⟩

/-! ## A run of uses -/

/-- BAR `live` is the one of the call to `map` that found nothing mapped and
succeeded, with nothing unmapped since. -/
def MappedBy (uses : List Use) (start : Desk τ) (live : UInt64) : Prop :=
  ∃ before since, uses = before ++ .map live :: since ∧
    (used before start).handle.mapping = none ∧
    (used (before ++ [.map live]) start).handle.mapping.isSome ∧ .unmap ∉ since

theorem MappedBy.append {uses more : List Use} {start : Desk τ} {live : UInt64}
    (h : MappedBy uses start live) (hmore : .unmap ∉ more) :
    MappedBy (uses ++ more) start live := by
  obtain ⟨before, since, rfl, hnone, hsome, hsince⟩ := h
  refine ⟨before, since ++ more, by simp, hnone, hsome, ?_⟩
  intro hmem
  rcases List.mem_append.mp hmem with h | h
  · exact hsince h
  · exact hmore h

namespace Live

variable {d : Desk τ} {bar : UInt64} {m : Mapping}

/-- A use that is not giving the mapping up keeps it live. -/
theorem perform (h : Live d bar m) {use : Use} (hkeeps : use.Keeps d) (huse : use ≠ .unmap) :
    Live (use.perform d) bar m := by
  obtain ⟨hfile, hsize⟩ := Use.perform_keeps hkeeps bar h.bar_lt m.file h.file
  exact {
    bar_lt := h.bar_lt
    mapping := Use.mapping_perform h.mapping huse
    size := by rw [h.size, use.declared_perform]
    file := by rw [use.path_perform, hfile]
    fits := Nat.le_trans h.fits hsize }

theorem used (h : Live d bar m) {uses : List Use} (hkept : Kept uses d)
    (huses : .unmap ∉ uses) : Live (used uses d) bar m := by
  induction uses generalizing d with
  | nil => exact h
  | cons use rest ih =>
      have hfirst : use ≠ .unmap := by
        rintro rfl
        exact huses List.mem_cons_self
      apply ih (h.perform hkept.1 hfirst) hkept.2
      intro hrest
      exact huses (List.mem_cons_of_mem _ hrest)

/-- Mapping a BAR where nothing is mapped makes a mapping of that BAR. -/
theorem of_map {h' : Handle τ} (hnone : d.handle.mapping = none)
    (hmap : (d.handle.map d.files bar).result = .ok h') :
    ∃ m, Live (Use.perform (.map bar) d) bar m := by
  have hperform : Use.perform (.map bar) d = ⟨h', d.files⟩ := by
    rw [Use.perform, Use.answered_of_ok hmap]
  obtain ⟨hbar, hfound⟩ := Handle.map_eq_ok_iff.mp hmap
  rw [hnone] at hfound
  obtain ⟨id, hfile, -, hfits, rfl⟩ := hfound
  rw [hperform]
  exact ⟨⟨id, d.handle.declared bar⟩, hbar, rfl, rfl, hfile, hfits⟩

/-- Nothing else makes one. -/
theorem of_perform {use : Use} (hnone : d.handle.mapping = none)
    (hsome : (use.perform d).handle.mapping.isSome) :
    ∃ bar m, use = .map bar ∧ Live (use.perform d) bar m := by
  cases use with
  | map bar =>
      rcases Use.answered_eq d (d.handle.map d.files bar) with hsame | hok
      · rw [Use.perform, hsame, hnone] at hsome
        cases hsome
      · obtain ⟨m, hlive⟩ := of_map hnone hok
        exact ⟨bar, m, rfl, hlive⟩
  | enable =>
      rw [Use.perform, Use.answered_switched (d.handle.enable_switched d.files), hnone] at hsome
      cases hsome
  | disable =>
      rw [Use.perform, Use.answered_switched (d.handle.disable_switched d.files), hnone] at hsome
      cases hsome
  | unmap =>
      rw [Use.perform, Use.answered_of_ok d.handle.result_unmap] at hsome
      cases hsome
  | read | write | mask | outside =>
      rw [Use.perform, hnone] at hsome
      cases hsome

end Live

/-- After any run nothing is mapped, or it is the BAR of the call that found
nothing mapped. -/
theorem mapping_origin {start : Desk τ} (hstart : start.handle.mapping = none)
    (uses : List Use) (hkept : Kept uses start) :
    (used uses start).handle.mapping = none ∨
      ∃ live m, MappedBy uses start live ∧ Live (used uses start) live m := by
  induction uses using List.reverseRecOn with
  | nil => exact .inl hstart
  | append_singleton uses use ih =>
      obtain ⟨huses, huse, -⟩ := kept_append.mp hkept
      rw [used_append]
      by_cases hunmap : use = .unmap
      · subst hunmap
        left
        rw [used_cons, used_nil, Use.perform, Use.answered_of_ok (Handle.result_unmap _)]
      rcases ih huses with hnone | ⟨live, m, hby, hlive⟩
      · cases hmapping : (use.perform (used uses start)).handle.mapping with
        | none => exact .inl hmapping
        | some m =>
            have hsome : (use.perform (used uses start)).handle.mapping.isSome := by
              rw [hmapping]
              rfl
            obtain ⟨bar, m, rfl, hlive⟩ := Live.of_perform hnone hsome
            refine .inr ⟨bar, m, ⟨uses, [], rfl, hnone, ?_, List.not_mem_nil⟩, hlive⟩
            rw [used_append]
            exact hsome
      · refine .inr ⟨live, m, hby.append ?_, hlive.perform huse hunmap⟩
        exact fun h => hunmap (List.mem_singleton.mp h).symm

/-- **What a handle serves.** When mapping a BAR succeeds, the handle serves
the BAR of the call that found nothing mapped: the one asked for if nothing
was mapped, and else the one mapped before, of the same declared size. It
goes on to serve it until the mapping is given up. -/
theorem map_serves {start : Desk τ} (hstart : start.handle.mapping = none)
    {uses later : List Use} {bar : UInt64} {h' : Handle τ}
    (hkept : Kept (uses ++ .map bar :: later) start)
    (hmap : ((used uses start).handle.map (used uses start).files bar).result = .ok h')
    (hlater : .unmap ∉ later) :
    ∃ live id, MappedBy (uses ++ [.map bar]) start live ∧
      ((used uses start).handle.mapping = none → live = bar) ∧
      start.handle.declared live = start.handle.declared bar ∧
      Serves (used (uses ++ .map bar :: later) start) live id := by
  obtain ⟨huses, hcall, hrest⟩ := kept_append.mp hkept
  have hby : ∀ live m, Live (Use.perform (.map bar) (used uses start)) live m →
      Serves (used (uses ++ .map bar :: later) start) live m.file := by
    intro live m hlive
    rw [used_append, used_cons]
    exact (hlive.used hrest hlater).serves
  rcases mapping_origin hstart uses huses with hnone | ⟨live, m, horigin, hlive⟩
  · obtain ⟨m, hlive⟩ := Live.of_map hnone hmap
    refine ⟨bar, m.file, ⟨uses, [], rfl, hnone, ?_, List.not_mem_nil⟩, fun _ => rfl, rfl,
      hby bar m hlive⟩
    rw [used_append]
    exact Option.isSome_iff_exists.mpr ⟨m, hlive.mapping⟩
  · have hsame := (Handle.map_eq_ok_iff.mp hmap).2
    rw [hlive.mapping] at hsame
    refine ⟨live, m.file, horigin.append (by simp), fun hnone => ?_, ?_,
      hby live m (hlive.perform hcall (by simp))⟩
    · rw [hlive.mapping] at hnone
      cases hnone
    · rw [← declared_used uses, ← hlive.size, hsame.1, declared_used]

/-- A device with two BARs of equal size, and a handle on it. -/
def twinBars : Desk Unit where
  handle :=
    { name := "twin"
      record := .ofConfig ⟨0, 0, 1, 0⟩ (.zeros 64) Register.rom #v[4, 4, 0, 0, 0, 0] 0
      path := "d"
      tag := () }
  files :=
    { entries := [(["d"], .directory), (["d", "resource0"], .file 0), (["d", "resource1"], .file 1)]
      contents := #[#[0xaa, 0, 0, 0], #[0xbb, 0, 0, 0]] }

/-- Unmapping in between makes room for the other BAR, whose file others may
go on to write. -/
theorem twinBars_remapped :
    ∃ id, Serves (used ([.map 0, .unmap] ++ .map 1 ::
      [.outside fun files => files.write 1 2 [0x55]]) twinBars) 1 id := by
  have hkept : Kept ([.map 0, .unmap] ++ .map 1 ::
      [.outside fun files => files.write 1 2 [0x55]]) twinBars :=
    ⟨trivial, trivial, trivial, (Files.grows_write _ _ _ _).keepsResources _, trivial⟩
  have hnone : (used [.map 0, .unmap] twinBars).handle.mapping = none := by decide +kernel
  have hsize : (used [.map 0, .unmap] twinBars).handle.declared 1 = 4 := by decide +kernel
  have hmap : ((used [.map 0, .unmap] twinBars).handle.map
      (used [.map 0, .unmap] twinBars).files 1).result =
      .ok { (used [.map 0, .unmap] twinBars).handle with mapping := some ⟨1, 4⟩ } := by
    rw [Handle.map_eq_ok_iff, hnone, hsize]
    exact ⟨by decide, 1, by decide +kernel, by decide, by decide +kernel, rfl⟩
  obtain ⟨live, id, -, hfirst, -, hserves⟩ := map_serves rfl hkept hmap (by simp)
  obtain rfl := hfirst hnone
  exact ⟨id, hserves⟩

/-- A handle need not serve the BAR that was mapped last: on `twinBars` mapping
BAR 1 after BAR 0 succeeds, and reads go on to give the bytes of BAR 0. -/
theorem equal_sizes_keep_first_bar :
    ¬ ∀ (start : Desk Unit) (uses : List Use) (bar : UInt64) (h' : Handle Unit),
      start.handle.mapping = none → Kept (uses ++ [.map bar]) start →
      ((used uses start).handle.map (used uses start).files bar).result = .ok h' →
      ∃ id, Serves (used (uses ++ [.map bar]) start) bar id := by
  intro h
  have hlive : (used [.map 0] twinBars).handle.mapping = some ⟨0, 4⟩ := by decide +kernel
  have hmap : ((used [.map 0] twinBars).handle.map (used [.map 0] twinBars).files 1).result =
      .ok (used [.map 0] twinBars).handle := by
    rw [Handle.map_eq_ok_iff, hlive]
    exact ⟨by decide, by decide +kernel, rfl⟩
  obtain ⟨id, hserves⟩ := h twinBars [.map 0] 1 _ rfl ⟨trivial, trivial, trivial⟩ hmap
  -- the name of BAR 1 leads to a file that begins with 0xbb, and the read gives 0xaa
  have hfile : (used ([.map 0] ++ [.map 1]) twinBars).files.fileAt
      ((used ([.map 0] ++ [.map 1]) twinBars).handle.resourcePath 1) = .ok 1 := by
    decide +kernel
  obtain rfl : id = 1 := Except.ok.inj (hserves.file.symm.trans hfile)
  have hread := congrArg Except.toOption (hserves.read .byte 0 (by decide +kernel))
  revert hread
  decide +kernel

end PciBus

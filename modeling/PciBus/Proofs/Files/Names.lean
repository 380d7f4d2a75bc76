import Mathlib.Data.List.Nodup
import PciBus.Files
import PciBus.Proofs.Text.Cut

/-!
# Names in the file tree

A path text is a list of steps, and a name joined to it is one step more
(`Files.follow_join`). So a path that ends in a name leads to what stands
under that name in a directory (`Files.find?_of_fileAt`), and the directory
lists the name (`Files.mem_list`). Other names lead to other places
(`Files.place_eq_iff`), and all paths to a file without a second name end alike
(`Files.Unlinked.name_eq`). A tree that is built file by file has no
place twice (`Files.Distinct`), so none of its directories lists a name twice.
-/

namespace PciBus

open Text

namespace Files

/-! ## Following a joined path -/

/-- A name as a directory has them: one step of a path, and a step that leads
on. -/
structure IsName (name : String) : Prop where
  ne_empty : name ≠ ""
  ne_here : name ≠ "."
  ne_up : name ≠ ".."
  no_slash : '/' ∉ name.toList

theorem isName_iff {name : String} :
    IsName name ↔ name ≠ "" ∧ name ≠ "." ∧ name ≠ ".." ∧ '/' ∉ name.toList :=
  ⟨fun h => ⟨h.ne_empty, h.ne_here, h.ne_up, h.no_slash⟩,
    fun ⟨hempty, hhere, hup, hslash⟩ => ⟨hempty, hhere, hup, hslash⟩⟩

instance (name : String) : Decidable (IsName name) := decidable_of_iff _ isName_iff.symm

theorem isName_enable : IsName "enable" := by decide +kernel

theorem isName_config : IsName "config" := by decide +kernel

theorem isName_resource {bar : Nat} (h : bar < 6) : IsName s!"resource{bar}" := by
  have hall : ∀ n < 6, IsName s!"resource{n}" := by decide +kernel
  exact hall bar h

theorem steps_of_isName {name : String} (h : IsName name) : steps name = [name] := by
  rw [steps, pieces_of_not_mem h.no_slash]
  simp

theorem follow_append (files : Files) (place : Path) (entry : Entry) (first rest : List String) :
    files.follow place entry (first ++ rest) =
      (files.follow place entry first).bind fun (place, entry) =>
        files.follow place entry rest := by
  induction first generalizing place entry with
  | nil => cases entry <;> rfl
  | cons step first ih =>
      cases entry with
      | file id => rfl
      | directory =>
          simp only [List.cons_append, follow]
          split
          · exact ih _ _
          split
          · exact ih _ _
          split
          · rfl
          split
          · rfl
          · exact ih _ _

/-- A joined path leads where the name leads from where the root leads. -/
theorem follow_join (files : Files) {root name : String} (h : IsName name) :
    files.follow [] .directory (steps (join root name)) =
      (files.follow [] .directory (steps root)).bind fun (place, entry) =>
        files.follow place entry [name] := by
  by_cases hempty : root = ""
  · subst hempty
    rw [join, if_pos (.inl rfl), String.empty_append, steps_of_isName h]
    simp [steps, pieces, piecesBy, follow, Except.bind]
  by_cases hslash : root.toList.getLast? = some '/'
  · -- the last step of the root is empty; it is not there in the joined path
    obtain ⟨before, hroot⟩ := List.getLast?_eq_some_iff.mp hslash
    have hjoin : steps (join root name) = (pieces '/' before).map String.ofList ++ [name] := by
      rw [join, if_pos (.inr hslash), steps, String.toList_append, hroot, List.append_assoc,
        List.singleton_append, pieces_append_sep, List.map_append, pieces_of_not_mem h.no_slash]
      simp
    have hsteps : steps root = (pieces '/' before).map String.ofList ++ [""] := by
      rw [steps, hroot, pieces_append_sep, List.map_append]
      rfl
    rw [hjoin, hsteps, follow_append, follow_append]
    cases hfollow : files.follow [] .directory ((pieces '/' before).map String.ofList) with
    | error e => rfl
    | ok found =>
        obtain ⟨place, entry⟩ := found
        cases entry with
        | directory => simp [Except.bind, follow]
        | file id => rfl
  · have hjoin : steps (join root name) = steps root ++ [name] := by
      rw [join, if_neg (by simp [hempty, hslash]), steps, String.toList_append,
        String.toList_append, List.append_assoc]
      change (pieces '/' (root.toList ++ '/' :: name.toList)).map String.ofList = _
      rw [pieces_append_sep, List.map_append, pieces_of_not_mem h.no_slash]
      simp [steps]
    rw [hjoin, follow_append]

variable {files : Files} {root name : String}

/-- A name leads on from a directory, to what stands under it there. -/
theorem of_follow_name {place found : Path} {entry target : Entry} (h : IsName name)
    (hfollow : files.follow place entry [name] = .ok (found, target)) :
    entry = .directory ∧ found = place ++ [name] ∧ files.find? found = some target := by
  cases entry with
  | file id => cases hfollow
  | directory =>
      rw [follow, if_neg (by simp [h.ne_empty, h.ne_here]), if_neg h.ne_up] at hfollow
      split at hfollow
      · cases hfollow
      split at hfollow
      · cases hfollow
      · rename_i next hfind
        have hfound : (place ++ [name], next) = (found, target) := by
          cases next <;> exact Except.ok.inj hfollow
        obtain ⟨rfl, rfl⟩ := Prod.mk.inj hfound
        exact ⟨rfl, rfl, hfind⟩

/-- A joined path leads to the place of the name in the directory that the
root leads to. -/
theorem of_follow_join {found : Path} {target : Entry} (h : IsName name)
    (hfollow : files.follow [] .directory (steps (join root name)) = .ok (found, target)) :
    ∃ place, files.follow [] .directory (steps root) = .ok (place, .directory) ∧
      found = place ++ [name] ∧ files.find? found = some target := by
  rw [follow_join files h] at hfollow
  cases hroot : files.follow [] .directory (steps root) with
  | error e =>
      rw [hroot] at hfollow
      cases hfollow
  | ok reached =>
      obtain ⟨place, entry⟩ := reached
      rw [hroot] at hfollow
      obtain ⟨rfl, hfound⟩ := of_follow_name h hfollow
      exact ⟨place, rfl, hfound⟩

/-- What a joined path leads to stands under the name in the directory that
the root leads to. -/
theorem find?_of_follow_join {found : Path} {target : Entry} (h : IsName name)
    (hfollow : files.follow [] .directory (steps (join root name)) = .ok (found, target)) :
    ∃ place, files.follow [] .directory (steps root) = .ok (place, .directory) ∧
      files.find? (place ++ [name]) = some target := by
  obtain ⟨place, hroot, rfl, hfind⟩ := of_follow_join h hfollow
  exact ⟨place, hroot, hfind⟩

theorem follow_of_resolve {path : String} {place : Path} {entry : Entry}
    (h : files.resolve path = .ok (place, entry)) :
    files.follow [] .directory (steps path) = .ok (place, entry) := by
  unfold resolve at h
  split at h
  · cases h
  split at h
  · cases h
  split at h
  · cases h
  · exact h

/-- The place of what stands in a directory of a root. -/
theorem place_of_resolve {inner : String} {found : Path} {target : Entry}
    (hname : IsName name) (hinner : IsName inner)
    (h : files.resolve (join (join root name) inner) = .ok (found, target)) :
    ∃ place, files.follow [] .directory (steps root) = .ok (place, .directory) ∧
      found = place ++ [name, inner] ∧ files.find? found = some target := by
  obtain ⟨directory, hdirectory, rfl, hfind⟩ := of_follow_join hinner (follow_of_resolve h)
  obtain ⟨place, hroot, rfl, -⟩ := of_follow_join hname hdirectory
  rw [List.append_assoc] at hfind ⊢
  exact ⟨place, hroot, rfl, hfind⟩

/-- Two paths into directories of one root lead to one place only if the
directories have one name. -/
theorem place_eq_iff {inner name' : String} {found found' : Path} {target target' : Entry}
    (hname : IsName name) (hname' : IsName name') (hinner : IsName inner)
    (h : files.resolve (join (join root name) inner) = .ok (found, target))
    (h' : files.resolve (join (join root name') inner) = .ok (found', target')) :
    found = found' ↔ name = name' := by
  obtain ⟨place, hroot, rfl, -⟩ := place_of_resolve hname hinner h
  obtain ⟨place', hroot', rfl, -⟩ := place_of_resolve hname' hinner h'
  obtain rfl : place = place' := (Prod.mk.inj (Except.ok.inj (hroot.symm.trans hroot'))).1
  simp

theorem fileAt_eq_ok_iff {path : String} {id : Nat} :
    files.fileAt path = .ok id ↔ ∃ place, files.resolve path = .ok (place, .file id) := by
  rw [fileAt]
  cases h : files.resolve path with
  | error e => simp [bind, Except.bind]
  | ok found =>
      obtain ⟨place, entry⟩ := found
      cases entry <;> simp [bind, Except.bind, pure, Except.pure]

theorem find?_of_fileAt {id : Nat} (h : IsName name)
    (hfile : files.fileAt (join root name) = .ok id) :
    ∃ place, files.follow [] .directory (steps root) = .ok (place, .directory) ∧
      files.find? (place ++ [name]) = some (.file id) := by
  obtain ⟨found, hresolve⟩ := fileAt_eq_ok_iff.mp hfile
  exact find?_of_follow_join h (follow_of_resolve hresolve)

/-! ## Files with one name -/

/-- A file has no second name. -/
def Unlinked (files : Files) (id : Nat) : Prop :=
  ∀ a b, files.find? a = some (.file id) → files.find? b = some (.file id) → a = b

theorem mem_entries_of_find? {place : Path} {id : Nat}
    (h : files.find? place = some (.file id)) : (place, .file id) ∈ files.entries := by
  unfold find? at h
  split at h
  · cases h
  · obtain ⟨⟨other, entry⟩, hfound, rfl⟩ := Option.map_eq_some_iff.mp h
    have hplace : other = place := by simpa using List.find?_some hfound
    exact hplace ▸ List.mem_of_find?_eq_some hfound

theorem unlinked_of_entries {id : Nat}
    (h : ∀ a ∈ files.entries, ∀ b ∈ files.entries, a.2 = .file id → b.2 = .file id → a.1 = b.1) :
    files.Unlinked id :=
  fun _ _ ha hb => h _ (mem_entries_of_find? ha) _ (mem_entries_of_find? hb) rfl rfl

/-- Paths that lead to a file with one name end in that name. -/
theorem Unlinked.name_eq {id : Nat} (hfile : files.Unlinked id) {other name' : String}
    (hname : IsName name) (hname' : IsName name') (h : files.fileAt (join root name) = .ok id)
    (h' : files.fileAt (join other name') = .ok id) : name = name' := by
  obtain ⟨place, -, hfind⟩ := find?_of_fileAt hname h
  obtain ⟨place', -, hfind'⟩ := find?_of_fileAt hname' h'
  exact (List.append_singleton_inj.mp (hfile _ _ hfind hfind')).2

theorem readBytes_eq_ok_iff {path : String} {bytes : Bytes} :
    files.readBytes path = .ok bytes ↔
      ∃ id, files.fileAt path = .ok id ∧ files.bytes id = bytes := by
  rw [readBytes]
  cases files.fileAt path <;> simp [bind, Except.bind, pure, Except.pure]

/-! ## Listings -/

theorem list_eq_ok_iff {path : String} {names : List String} :
    files.list path = .ok names ↔ ∃ place, files.resolve path = .ok (place, .directory) ∧
      (files.entries.filterMap fun (other, _) =>
        if other ≠ [] ∧ other.dropLast = place then other.getLast? else none) = names := by
  rw [list]
  cases h : files.resolve path with
  | error e => simp [bind, Except.bind]
  | ok found =>
      obtain ⟨place, entry⟩ := found
      cases entry <;> simp [bind, Except.bind, pure, Except.pure]

/-- A directory lists every name under which something stands in it. -/
theorem mem_list {place : Path} {entry : Entry}
    (hroot : files.resolve root = .ok (place, .directory))
    (hfind : files.find? (place ++ [name]) = some entry) :
    ∃ listing, files.list root = .ok listing ∧ name ∈ listing := by
  refine ⟨_, by rw [list, hroot]; rfl, ?_⟩
  rw [find?, if_neg (by simp)] at hfind
  obtain ⟨⟨other, entry'⟩, hother, -⟩ := Option.map_eq_some_iff.mp hfind
  have hplace : other = place ++ [name] := by simpa using List.find?_some hother
  have hmem := List.mem_of_find?_eq_some hother
  rw [hplace] at hmem
  rw [List.mem_filterMap]
  exact ⟨_, hmem, by simp⟩

/-! ## Distinct places -/

/-- No place has two entries. -/
def Distinct (files : Files) : Prop := (files.entries.map (·.1)).Nodup

theorem distinct_empty : Distinct {} := List.nodup_nil

theorem find?_eq_none_iff {place : Path} :
    files.find? place = none ↔ place ≠ [] ∧ place ∉ files.entries.map (·.1) := by
  by_cases htop : place = []
  · simp [find?, htop]
  · rw [find?, if_neg htop]
    constructor
    · intro h
      refine ⟨htop, fun hmem => ?_⟩
      obtain ⟨entry, hentry, rfl⟩ := List.mem_map.mp hmem
      rw [Option.map_eq_none_iff, List.find?_eq_none] at h
      exact h entry hentry (by simp)
    · rintro ⟨-, hnew⟩
      rw [Option.map_eq_none_iff, List.find?_eq_none]
      intro entry hentry heq
      exact hnew (List.mem_map.mpr ⟨entry, hentry, by simpa using heq⟩)

/-- Where nothing is, an entry can be added. -/
theorem Distinct.append {place : Path} (h : files.Distinct) (hfree : files.find? place = none)
    (entry : Entry) (contents : Array Bytes) :
    Distinct { files with entries := files.entries ++ [(place, entry)], contents := contents } := by
  have hnew := (find?_eq_none_iff.mp hfree).2
  rw [Distinct, List.map_append]
  exact List.Nodup.append h (by simp) (by simpa using hnew)

theorem Distinct.addDirectory (h : files.Distinct) (place : Path) :
    (files.addDirectory place).Distinct := by
  rw [Files.addDirectory]
  cases hfind : files.find? place with
  | some entry => exact h
  | none => exact h.append hfind .directory files.contents

theorem find?_addDirectory {place other : Path} (hne : place ≠ other) :
    (files.addDirectory place).find? other = files.find? other := by
  rw [Files.addDirectory]
  cases hfind : files.find? place with
  | some entry => rfl
  | none => simp [Files.find?, List.find?_append, hne]

theorem Distinct.makeDirectory (h : files.Distinct) (place : Path) :
    (files.makeDirectory place).Distinct := by
  rw [Files.makeDirectory]
  generalize List.range place.length = depths
  induction depths generalizing files with
  | nil => exact h
  | cons n depths ih => exact ih (h.addDirectory _)

/-- Making a directory changes nothing at places below it. -/
theorem find?_makeDirectory {place other : Path} (hlonger : place.length < other.length) :
    (files.makeDirectory place).find? other = files.find? other := by
  rw [Files.makeDirectory]
  generalize List.range place.length = depths
  induction depths generalizing files with
  | nil => rfl
  | cons n depths ih =>
      rw [List.foldl_cons, ih, find?_addDirectory]
      intro heq
      have := congrArg List.length heq
      rw [List.length_take] at this
      omega

theorem Distinct.put (h : files.Distinct) (path : String) (bytes : Bytes) :
    (files.put path bytes).Distinct := by
  rw [Files.put]
  cases hfind : files.find? (placeOf path) with
  | some entry =>
      cases entry with
      | directory => exact h
      | file id => exact h
  | none =>
      have hne := (find?_eq_none_iff.mp hfind).1
      have hlonger : (placeOf path).dropLast.length < (placeOf path).length := by
        have := List.length_pos_iff.mpr hne
        rw [List.length_dropLast]
        omega
      apply (h.makeDirectory (placeOf path).dropLast).append
      rw [find?_makeDirectory hlonger, hfind]

/-- Then a directory lists no name twice. -/
theorem Distinct.nodup_list (h : files.Distinct) {names : List String}
    (hlist : files.list root = .ok names) : names.Nodup := by
  obtain ⟨place, -, rfl⟩ := list_eq_ok_iff.mp hlist
  have hnames : (files.entries.filterMap fun (other, _) =>
      if other ≠ [] ∧ other.dropLast = place then other.getLast? else none) =
      (files.entries.map (·.1)).filterMap fun other =>
        if other ≠ [] ∧ other.dropLast = place then other.getLast? else none := by
    rw [List.filterMap_map]
    rfl
  rw [hnames]
  refine List.Nodup.filterMap ?_ h
  intro a b name ha hb
  -- a place is its directory and the name in it
  have hplace : ∀ other, name ∈ (if other ≠ [] ∧ other.dropLast = place then
      other.getLast? else none) → other = place ++ [name] := by
    intro other hother
    rw [Option.mem_def] at hother
    split at hother
    · rename_i habove
      rw [← habove.2, List.dropLast_append_getLast? name hother]
    · cases hother
  rw [hplace a ha, hplace b hb]

end Files

end PciBus

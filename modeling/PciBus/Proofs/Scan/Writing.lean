import PciBus.Proofs.Bus.Access
import PciBus.Proofs.Scan.Kernel

/-!
# Writing config space

A write to config space puts the low bytes of a number where they belong, and
nothing else on the machine changes (`Context.Wrote`). This holds of every
write that goes through, whichever way the function is held. Within config
space each write to a function that is there goes through
(`Context.writes_exact`).

Past the end the two ways part. A bus checks the end before it writes, but the
config file of a tree is a file like any other: the write goes through, and
the file is longer afterwards (`Context.past_end_written`).
-/

namespace PciBus

/-! ## Numbers in bytes -/

/-- A number has been written into a stretch of bytes, which reaches as far as
before and as far as the number. -/
structure Bytes.Written (before : Bytes) (offset count n : Nat) (after : Bytes) : Prop where
  size : after.size = max before.size (offset + count)
  /-- The bytes of the number, the low ones first. -/
  inside : ∀ i < count, (after.byteAt (offset + i)).toNat = n / span i % 256
  outside : ∀ i, i < offset ∨ offset + count ≤ i → after.byteAt i = before.byteAt i

namespace Bytes

theorem written_extend_overwrite (b : Bytes) (offset count n : Nat) :
    b.Written offset count n ((b.extend (offset + count)).overwrite offset (ofNumber count n)) where
  size := by rw [size_overwrite, size_extend]
  inside := by
    intro i hi
    have hin : offset ≤ offset + i ∧ offset + i < offset + (ofNumber count n).length ∧
        offset + i < (b.extend (offset + count)).size := by
      rw [length_ofNumber, size_extend]
      omega
    rw [byteAt_overwrite, if_pos hin, Nat.add_sub_cancel_left, getD_ofNumber hi]
  outside := by
    intro i hi
    have hout : ¬ (offset ≤ i ∧ i < offset + (ofNumber count n).length ∧
        i < (b.extend (offset + count)).size) := by
      rw [length_ofNumber]
      omega
    rw [byteAt_overwrite, if_neg hout, byteAt_extend]

theorem written_overwrite {b : Bytes} {offset count : Nat} (h : offset + count ≤ b.size) (n : Nat) :
    b.Written offset count n (b.overwrite offset (ofNumber count n)) := by
  have hwritten := b.written_extend_overwrite offset count n
  rwa [extend_of_le h] at hwritten

end Bytes

/-- A file with bytes in it is there. -/
theorem Files.lt_of_size_pos {files : Files} {id : Nat} (h : 0 < (files.bytes id).size) :
    id < files.contents.size := by
  by_contra hnot
  simp [bytes, Array.getD, hnot] at h

/-! ## Config space of a context -/

namespace Context

variable {c : Context} {m after : Machine} {l : Location} {offset : UInt16} {width : Width}
  {value : UInt32} {id : Nat} {scan : Scan}

/-- The config file of a function in a tree. -/
def file? (c : Context) (m : Machine) (l : Location) : Option Nat :=
  match c with
  | .bus _ | .guarded _ => none
  | .tree scan => (m.files.fileAt (scan.configPath l)).toOption

/-- The config space of a function: its image on the bus, or what is in its
config file. -/
def space? (c : Context) (m : Machine) (l : Location) : Option Bytes :=
  match c with
  | .bus id | .guarded id => (m.slot? id l).map (·.card.image.bytes)
  | .tree _ => (c.file? m l).map m.files.bytes

/-- A number has been written into the config space of a function; no other
config space, file or bus has changed, nor has any record or name. -/
structure Wrote (c : Context) (m : Machine) (l : Location) (offset : UInt16) (width : Width)
    (value : UInt32) (after : Machine) : Prop where
  here : ∃ space space', c.space? m l = some space ∧ c.space? after l = some space' ∧
    space.Written offset.toNat width.bytes value.toNat space'
  elsewhere : ∀ other, other ≠ l → c.space? after other = c.space? m other
  records : c.records after = c.records m
  buses : ∀ id, c.busId? ≠ some id → after.bus id = m.bus id
  files : ∀ file, c.file? m l ≠ some file → after.files.bytes file = m.files.bytes file
  names : ∀ path, after.files.resolve path = m.files.resolve path
  rest : after = { m with files := after.files, buses := after.buses }

/-- Config space of 256 bytes, in a tree in a file of its own. -/
structure HasSpace (c : Context) (m : Machine) (l : Location) : Prop where
  size : ∃ space, c.space? m l = some space ∧ space.size = imageSize
  unlinked : ∀ file, c.file? m l = some file → m.files.Unlinked file

/-! ### On a bus -/

theorem space?_of_busId? (hbus : c.busId? = some id) (m : Machine) (l : Location) :
    c.space? m l = (m.slot? id l).map (·.card.image.bytes) := by
  cases c with
  | bus other | guarded other =>
      obtain rfl : other = id := Option.some.inj hbus
      rfl
  | tree scan => cases hbus

theorem records_of_busId? (hbus : c.busId? = some id) (m : Machine) :
    c.records m = (m.bus id).records := by
  cases c with
  | bus other | guarded other =>
      obtain rfl : other = id := Option.some.inj hbus
      rfl
  | tree scan => cases hbus

theorem isSome_slot? (hbus : c.busId? = some id) (hspace : c.HasSpace m l) :
    (m.slot? id l).isSome := by
  obtain ⟨space, hat, -⟩ := hspace.size
  rw [space?_of_busId? hbus] at hat
  obtain ⟨slot, hslot, -⟩ := Option.map_eq_some_iff.mp hat
  rw [hslot, Option.isSome_some]

/-- A bus looks where a write ends before anything else. -/
theorem write_past_end (hbus : c.busId? = some id) (hrefuses : ¬ c.Refuses m l)
    (hpast : imageSize < offset.toNat + width.bytes) (value : UInt32) :
    c.write m l offset width value = .error (.config l offset (.pastEnd width.bytes)) := by
  have hbusWrite : ∀ bus : Bus, bus.write l offset width value =
      .error (.config l offset (.pastEnd width.bytes)) := by
    intro bus
    rw [Bus.write, if_neg]
    simpa [Bus.inSpace] using hpast
  cases c with
  | bus other =>
      rw [write, hbusWrite]
      rfl
  | guarded other =>
      have hfree : l ∉ m.locked := hrefuses
      rw [write, if_neg hfree, hbusWrite]
      rfl
  | tree scan => cases hbus

theorem wrote_of_busId? (hbus : c.busId? = some id)
    (h : c.write m l offset width value = .ok after) : c.Wrote m l offset width value after := by
  have hslots : ∀ other, after.slot? id other = (m.slot? id other).map fun slot =>
      if l = other then slot.write offset width value else slot :=
    fun _ => slot?_write hbus h
  obtain ⟨-, bus, hwrite, rfl⟩ := (write_eq_ok_iff hbus).mp h
  obtain ⟨hspace, hpresent, hbusAfter⟩ := Bus.write_eq_ok_iff.mp hwrite
  obtain ⟨slot, hslot⟩ := Option.isSome_iff_exists.mp hpresent
  constructor
  · have hwithin : offset.toNat + width.bytes ≤ slot.card.image.bytes.size := by
      rw [slot.card.image.size_eq]
      simpa [Bus.inSpace] using hspace
    refine ⟨_, _, ?_, ?_, Bytes.written_overwrite hwithin value.toNat⟩
    · rw [space?_of_busId? hbus, Machine.slot?, hslot, Option.map_some]
    · rw [space?_of_busId? hbus, hslots, Machine.slot?, hslot]
      simp [Slot.write, Image.put]
  · intro other hother
    rw [space?_of_busId? hbus, space?_of_busId? hbus, hslots]
    simp [hother.symm]
  · rw [records_of_busId? hbus, records_of_busId? hbus,
      Machine.bus_setBus_self bus (lt_of_slot? hpresent), hbusAfter, Bus.records, List.map_map]
    apply List.map_congr_left
    intro slot _
    simp only [Function.comp_apply]
    split <;> rfl
  · intro other hother
    exact Machine.bus_setBus_of_ne bus fun hsame => hother (hsame ▸ hbus)
  · exact fun file _ => rfl
  · exact fun path => rfl
  · rfl

/-! ### In a tree -/

theorem file?_tree_eq_some_iff {file : Nat} :
    (Context.tree scan).file? m l = some file ↔
      m.files.fileAt (scan.configPath l) = .ok file := by
  rw [file?]
  cases m.files.fileAt (scan.configPath l) <;> simp [Except.toOption]

/-- A config file with one name is that of one function. -/
theorem eq_of_file? {file : Nat} {other : Location} (hunlinked : m.files.Unlinked file)
    (h : (Context.tree scan).file? m l = some file)
    (h' : (Context.tree scan).file? m other = some file) : l = other := by
  obtain ⟨place, hplace⟩ := Files.fileAt_eq_ok_iff.mp (file?_tree_eq_some_iff.mp h)
  obtain ⟨place', hplace'⟩ := Files.fileAt_eq_ok_iff.mp (file?_tree_eq_some_iff.mp h')
  obtain ⟨-, -, -, hfind⟩ := Files.place_of_resolve l.isName_name Files.isName_config hplace
  obtain ⟨-, -, -, hfind'⟩ := Files.place_of_resolve other.isName_name Files.isName_config hplace'
  apply Location.name_injective
  exact (Files.place_eq_iff l.isName_name other.isName_name Files.isName_config hplace hplace').mp
    (hunlinked _ _ hfind hfind')

/-- A write in a tree is a write into the config file. -/
theorem write_tree {file : Nat} (hfile : (Context.tree scan).file? m l = some file)
    (offset : UInt16) (width : Width) (value : UInt32) :
    (Context.tree scan).write m l offset width value = .ok { m with
      files := m.files.write file offset.toNat (Bytes.ofNumber width.bytes value.toNat) } := by
  simp only [write, Scan.write, file?_tree_eq_some_iff.mp hfile]
  rfl

theorem wrote_tree (hspace : (Context.tree scan).HasSpace m l)
    (h : (Context.tree scan).write m l offset width value = .ok after) :
    (Context.tree scan).Wrote m l offset width value after := by
  obtain ⟨space, hspaceAt, hsize⟩ := hspace.size
  obtain ⟨file, hfile, rfl⟩ := Option.map_eq_some_iff.mp hspaceAt
  obtain rfl := Except.ok.inj ((write_tree hfile offset width value).symm.trans h)
  generalize hvalues : Bytes.ofNumber width.bytes value.toNat = values
  have hlength : values.length = width.bytes := by rw [← hvalues, Bytes.length_ofNumber]
  have hnames := m.files.resolve_write file offset.toNat values
  have hfiles : ∀ other, (Context.tree scan).file? { m with
      files := m.files.write file offset.toNat values } other =
      (Context.tree scan).file? m other := by
    intro other
    simp only [file?, Files.fileAt, hnames]
  have hothers : ∀ other, other ≠ file →
      (m.files.write file offset.toNat values).bytes other = m.files.bytes other := by
    intro other hne
    rw [Files.write, Files.bytes_modify, if_neg fun hsame => hne hsame.1.symm]
  constructor
  · have hthere : file < m.files.contents.size := Files.lt_of_size_pos (by rw [hsize]; decide)
    refine ⟨_, _, hspaceAt, by rw [space?, hfiles, hfile, Option.map_some], ?_⟩
    rw [Files.write, Files.bytes_modify, if_pos ⟨rfl, hthere⟩, hlength, ← hvalues]
    exact Bytes.written_extend_overwrite _ _ _ _
  · intro other hne
    rw [space?, space?, hfiles]
    cases hfileOther : (Context.tree scan).file? m other with
    | none => rfl
    | some file' =>
        have hapart : file' ≠ file := by
          rintro rfl
          exact hne (eq_of_file? (hspace.unlinked _ hfile) hfile hfileOther).symm
        rw [Option.map_some, Option.map_some, hothers file' hapart]
  · rfl
  · exact fun id _ => rfl
  · intro other hne
    exact hothers other fun hsame => hne (hsame ▸ hfile)
  · exact hnames
  · rfl

/-! ### Either way -/

theorem wrote (hspace : c.HasSpace m l) (h : c.write m l offset width value = .ok after) :
    c.Wrote m l offset width value after := by
  cases c with
  | bus id => exact wrote_of_busId? rfl h
  | guarded id => exact wrote_of_busId? rfl h
  | tree scan => exact wrote_tree hspace h

/-- Within config space a write goes through, and in a tree past its end too. -/
theorem write_isOk_of_hasSpace (hspace : c.HasSpace m l) (hrefuses : ¬ c.Refuses m l)
    (h : offset.toNat + width.bytes ≤ imageSize ∨ c.busId? = none) (value : UInt32) :
    ∃ after, c.write m l offset width value = .ok after := by
  cases hbus : c.busId? with
  | some id =>
      have hwithin : offset.toNat + width.bytes ≤ imageSize := h.resolve_right (by simp [hbus])
      exact write_isOk hbus hrefuses (isSome_slot? hbus hspace)
        (by simpa [Bus.inSpace] using hwithin) value
  | none =>
      cases c with
      | bus id | guarded id => cases hbus
      | tree scan =>
          obtain ⟨space, hat, -⟩ := hspace.size
          obtain ⟨file, hfile, -⟩ := Option.map_eq_some_iff.mp hat
          exact ⟨_, write_tree hfile offset width value⟩

/-- How long config space is after a write. -/
theorem size_of_wrote (hspace : c.HasSpace m l) (h : c.Wrote m l offset width value after) :
    ∃ space, c.space? after l = some space ∧
      space.size = max imageSize (offset.toNat + width.bytes) := by
  obtain ⟨before, hbefore, hsize⟩ := hspace.size
  obtain ⟨space, space', hat, hafter, hwritten⟩ := h.here
  obtain rfl := Option.some.inj (hbefore.symm.trans hat)
  exact ⟨space', hafter, by rw [hwritten.size, hsize]⟩

/-- **Writing config space.** Of a function with 256 bytes of config space, a
write that ends within them goes through: the bytes of the number are written,
everything else on the machine is as before, and config space is as long as
before. A write that ends past them is refused on a bus. In a tree it goes
through too, and config space is longer afterwards. -/
theorem writes_exact (hspace : c.HasSpace m l) (hrefuses : ¬ c.Refuses m l) (offset : UInt16)
    (width : Width) (value : UInt32) :
    (offset.toNat + width.bytes ≤ imageSize →
      ∃ after, c.write m l offset width value = .ok after ∧
        c.Wrote m l offset width value after ∧
        ∃ space, c.space? after l = some space ∧ space.size = imageSize) ∧
    (imageSize < offset.toNat + width.bytes → c.busId?.isSome →
      c.write m l offset width value = .error (.config l offset (.pastEnd width.bytes))) ∧
    (imageSize < offset.toNat + width.bytes → c.busId? = none →
      ∃ after, c.write m l offset width value = .ok after ∧
        c.Wrote m l offset width value after ∧
        ∃ space, c.space? after l = some space ∧
          space.size = offset.toNat + width.bytes) := by
  have hwrote : ∀ {after}, c.write m l offset width value = .ok after →
      c.Wrote m l offset width value after ∧ ∃ space, c.space? after l = some space ∧
        space.size = max imageSize (offset.toNat + width.bytes) :=
    fun h => ⟨wrote hspace h, size_of_wrote hspace (wrote hspace h)⟩
  refine ⟨fun hwithin => ?_, fun hpast hbus => ?_, fun hpast hbus => ?_⟩
  · obtain ⟨after, hafter⟩ := write_isOk_of_hasSpace hspace hrefuses (.inl hwithin) value
    obtain ⟨hall, space, hat, hsize⟩ := hwrote hafter
    exact ⟨after, hafter, hall, space, hat, hsize.trans (Nat.max_eq_left hwithin)⟩
  · obtain ⟨id, hid⟩ := Option.isSome_iff_exists.mp hbus
    exact write_past_end hid hrefuses hpast value
  · obtain ⟨after, hafter⟩ := write_isOk_of_hasSpace hspace hrefuses (.inr hbus) value
    obtain ⟨hall, space, hat, hsize⟩ := hwrote hafter
    exact ⟨after, hafter, hall, space, hat, hsize.trans (Nat.max_eq_right (Nat.le_of_lt hpast))⟩

/-- A function with 256 bytes of config space, for a bus and for a tree. -/
def controller : Card where
  image :=
    { bytes := (0x02 :: 0x10 :: 0x85 :: 0x43 :: List.replicate 252 (0 : UInt8)).toArray
      size_eq := by decide +kernel }
  sizes := .replicate 6 0
  romSize := 0
  name := none

def controllerTree : Files where
  entries :=
    [(["0000:00:14.0"], .directory), (["0000:00:14.0", "config"], .file 0)]
  contents := #[controller.image.bytes]

theorem controllerTree_space :
    (Context.tree { root := "/" }).space? { files := controllerTree } ⟨0, 0, 0x14, 0⟩ =
      some controller.image.bytes := by
  rfl

theorem controllerTree_hasSpace :
    (Context.tree { root := "/" }).HasSpace { files := controllerTree } ⟨0, 0, 0x14, 0⟩ where
  size := ⟨controller.image.bytes, controllerTree_space, controller.image.size_eq⟩
  unlinked := by
    intro file hfile
    have hzero : (Context.tree { root := "/" }).file? { files := controllerTree }
        ⟨0, 0, 0x14, 0⟩ = some 0 := by rfl
    obtain rfl : 0 = file := Option.some.inj (hzero.symm.trans hfile)
    exact Files.unlinked_of_entries (by decide +kernel)

/-- The last two bytes of the function are written as they should be; one past
them is written too. -/
theorem controllerTree_written :
    (Context.tree { root := "/" }).HasSpace { files := controllerTree } ⟨0, 0, 0x14, 0⟩ ∧
    (∃ after space, (Context.tree { root := "/" }).write { files := controllerTree }
        ⟨0, 0, 0x14, 0⟩ 0xfe .word 0xabcd = .ok after ∧
      (Context.tree { root := "/" }).space? after ⟨0, 0, 0x14, 0⟩ = some space ∧
      space.size = 256 ∧ space.byteAt 0xfe = 0xcd ∧ space.byteAt 0xff = 0xab) ∧
    ∃ after, (Context.tree { root := "/" }).write { files := controllerTree } ⟨0, 0, 0x14, 0⟩
      0x100 .byte 0xab = .ok after := by
  have hspace := controllerTree_hasSpace
  have hwithin := (writes_exact hspace (fun h => h) 0xfe .word 0xabcd).1 (by decide)
  have hpast := (writes_exact hspace (fun h => h) 0x100 .byte 0xab).2.2 (by decide) rfl
  obtain ⟨after, hafter, hwrote, -⟩ := hwithin
  obtain ⟨after', hafter', -⟩ := hpast
  obtain ⟨before, space, hbefore, hat, hwritten⟩ := hwrote.here
  obtain rfl : controller.image.bytes = before :=
    Option.some.inj (controllerTree_space.symm.trans hbefore)
  refine ⟨hspace, ⟨after, space, hafter, hat, ?_, ?_, ?_⟩, after', hafter'⟩
  · rw [hwritten.size, controller.image.size_eq]
    rfl
  · exact UInt8.toNat_inj.mp (hwritten.inside 0 (by decide))
  · exact UInt8.toNat_inj.mp (hwritten.inside 1 (by decide))

/-- A write that ends past config space is refused on a bus, but in a tree it
goes through, and config space is longer afterwards. -/
theorem past_end_written :
    ∃ scan after, (Scan.take controllerTree "/").result = .ok scan ∧
      ⟨0, 0, 0x14, 0⟩ ∈ scan.records.map (·.location) ∧
      (controllerTree.bytes 0).size = 256 ∧
      (Context.tree scan).write { files := controllerTree } ⟨0, 0, 0x14, 0⟩ 0xfe .long
        0x11223344 = .ok after ∧
      (after.files.bytes 0).size = 258 ∧
      (Context.bus 0).write { buses := [({} : Bus).plug ⟨0, 0, 0x14, 0⟩ controller] }
        ⟨0, 0, 0x14, 0⟩ 0xfe .long 0x11223344 =
          .error (.config ⟨0, 0, 0x14, 0⟩ 0xfe (.pastEnd 4)) := by
  refine ⟨_, _, Scan.ofListing_eq controllerTree "/" ["0000:00:14.0"], ?_, controller.image.size_eq,
    write_tree (by rfl) _ _ _, ?_, ?_⟩
  · rw [((Scan.inBusOrder_perm _).map _).mem_iff]
    decide +kernel
  · decide +kernel
  · rfl

end Context

end PciBus

import PciBus.Proofs.Bar.Table
import PciBus.Proofs.Mapping.Shared
import PciBus.Proofs.Scan.Enumeration

/-!
# The history of a bus

A handle on a bus in memory is the number of its bus, and so is each of its
clones: what one of them does, all of them see. A run is what has been done
through any handles, in the order in which it was done. What a bus then holds
is told by the run and by the journal (`bus_true_to_history`):

- the functions are those that were plugged in and not taken off since
  (`Stay`), in bus order, with the records of the cards as they were plugged
  in;
- of config space, each byte is that of the card unless the journal has a later
  write to it (`replays`);
- writes that fail leave no trace.

One use changes one bus in one way (`Machine.bus_perform`), so what a use does
to a bus is stated for the bus alone (`BusUse.on`).
-/

namespace PciBus

/-! ## Bus order -/

namespace Bus

/-- The functions stand strictly in bus order. -/
def Ordered (slots : List Slot) : Prop :=
  slots.Pairwise fun a b => a.location.rank < b.location.rank

theorem mem_of_mem_insertSlot {slot other : Slot} {slots : List Slot}
    (h : other ∈ insertSlot slot slots) : other = slot ∨ other ∈ slots := by
  induction slots with
  | nil => exact .inl (List.mem_singleton.mp h)
  | cons first rest ih =>
      rw [insertSlot] at h
      split at h
      · exact List.mem_cons.mp h
      split at h
      · exact (List.mem_cons.mp h).imp_right (List.mem_cons_of_mem _)
      · rcases List.mem_cons.mp h with rfl | hrest
        · exact .inr List.mem_cons_self
        · exact (ih hrest).imp_right (List.mem_cons_of_mem _)

theorem ordered_insertSlot (slot : Slot) {slots : List Slot} (h : Ordered slots) :
    Ordered (insertSlot slot slots) := by
  induction slots with
  | nil => exact List.pairwise_singleton _ _
  | cons first rest ih =>
      obtain ⟨hfirst, hrest⟩ := List.pairwise_cons.mp h
      rw [insertSlot]
      split
      · rename_i hbelow
        refine List.pairwise_cons.mpr ⟨fun other hother => ?_, h⟩
        rcases List.mem_cons.mp hother with rfl | hother
        · exact hbelow
        · exact Nat.lt_trans hbelow (hfirst other hother)
      rename_i habove
      split
      · rename_i hsame
        refine List.pairwise_cons.mpr ⟨fun other hother => ?_, hrest⟩
        rw [hsame]
        exact hfirst other hother
      · rename_i hapart
        refine List.pairwise_cons.mpr ⟨fun other hother => ?_, ih hrest⟩
        rcases mem_of_mem_insertSlot hother with rfl | hother
        · exact Nat.lt_of_le_of_ne (Nat.le_of_not_lt habove)
            fun heq => hapart (Location.rank_inj heq).symm
        · exact hfirst other hother

/-- In bus order every function is the one that is found at its location. -/
theorem find?_of_mem {slot : Slot} {slots : List Slot} (h : Ordered slots)
    (hmem : slot ∈ slots) : slots.find? (·.location == slot.location) = some slot := by
  induction slots with
  | nil => cases hmem
  | cons first rest ih =>
      obtain ⟨hfirst, hrest⟩ := List.pairwise_cons.mp h
      rcases List.mem_cons.mp hmem with rfl | hmem
      · simp
      · have hapart : first.location ≠ slot.location := fun heq =>
          absurd (hfirst slot hmem) (by rw [heq]; exact Nat.lt_irrefl _)
        rw [List.find?_cons_of_neg (by simpa using hapart), ih hrest hmem]

variable {bus : Bus} {location : Location} {offset : UInt16} {width : Width}

/-- The two ways for a write to fail, in the order in which they are met. -/
theorem write_refused (h : ¬ (offset.toNat + width.bytes ≤ imageSize ∧
    (bus.find? location).isSome)) (value : UInt32) :
    bus.write location offset width value =
      .error (if imageSize < offset.toNat + width.bytes then
        .config location offset (.pastEnd width.bytes) else .gone location) := by
  rw [write]
  by_cases hspace : inSpace offset width
  · have hend := inSpace_iff.mp hspace
    have hnone : bus.find? location = none := by simpa [hend] using h
    rw [if_pos hspace, hnone, if_neg (Nat.not_lt.mpr hend)]
  · rw [if_neg hspace, if_pos (Nat.lt_of_not_le fun hend => hspace (inSpace_iff.mpr hend))]

/-- A read finds the bytes of the function, the lowest first. -/
theorem read_bytes {slot : Slot} (hfound : bus.find? location = some slot)
    (hspace : offset.toNat + width.bytes ≤ imageSize) :
    ∃ value, bus.read location offset width = .ok value ∧ ∀ k, Memory.part value k =
      if k < width.bytes then slot.card.image.bytes.byteAt (offset.toNat + k) else 0 := by
  have hwidth : width.bytes ≤ 4 := by cases width <;> decide
  exact ⟨_, read_present (by rw [image?, hfound, Option.map_some]) (inSpace_iff.mpr hspace),
    Bytes.part_number _ hwidth _⟩

end Bus

/-! ## Replaying writes -/

/-- The bytes of a config space after a write: those that it covers are the
bytes of its value, the lowest first. -/
def ConfigWrite.replay (write : ConfigWrite) (bytes : Nat → UInt8) : Nat → UInt8 := fun i =>
  if Covers write.offset write.width i then Memory.part write.value (i - write.offset.toNat)
  else bytes i

/-- The bytes after the writes, one after the other. -/
def replays (writes : List ConfigWrite) (bytes : Nat → UInt8) : Nat → UInt8 :=
  writes.foldl (fun bytes write => write.replay bytes) bytes

theorem replays_concat (writes : List ConfigWrite) (write : ConfigWrite) (bytes : Nat → UInt8) :
    replays (writes ++ [write]) bytes = write.replay (replays writes bytes) := by
  rw [replays, List.foldl_append]
  rfl

/-- What no write covers stays. -/
theorem replays_uncovered {writes : List ConfigWrite} {i : Nat}
    (h : ∀ write ∈ writes, ¬ Covers write.offset write.width i) (bytes : Nat → UInt8) :
    replays writes bytes i = bytes i := by
  induction writes generalizing bytes with
  | nil => rfl
  | cons write rest ih =>
      have hfirst : write.replay bytes i = bytes i := if_neg (h write List.mem_cons_self)
      rw [← hfirst]
      exact ih (fun other hother => h other (List.mem_cons_of_mem _ hother)) (write.replay bytes)

theorem Slot.byteAt_write_replay (slot : Slot) (location : Location) {offset : UInt16}
    {width : Width} (value : UInt32) (hspace : Bus.inSpace offset width) :
    (slot.write offset width value).card.image.bytes.byteAt =
      (ConfigWrite.mk location offset width value).replay slot.card.image.bytes.byteAt := by
  funext i
  rw [slot.byteAt_write value i hspace, ConfigWrite.replay]
  split
  · rename_i hcovers
    exact Bytes.getD_ofNumber_part value (Nat.sub_lt_left_of_lt_add hcovers.1 hcovers.2)
  · rfl

/-! ## What a use does to its bus -/

/-- One use of a handle on a bus in memory that may change something. -/
inductive BusUse where
  | plug (location : Location) (card : Card)
  | unplug (location : Location)
  | write (location : Location) (offset : UInt16) (width : Width) (value : UInt32)

/-- The machine after a use of a handle on a bus. -/
def BusUse.perform (id : Nat) (use : BusUse) (m : Machine) : Machine :=
  match use with
  | .plug location card => m.setBus id ((m.bus id).plug location card)
  | .unplug location => m.setBus id ((m.bus id).unplug location)
  | .write location offset width value =>
      ((Context.bus id).write m location offset width value).toOption.getD m

/-- The bus after a use. -/
def BusUse.on (use : BusUse) (bus : Bus) : Bus :=
  match use with
  | .plug location card => bus.plug location card
  | .unplug location => bus.unplug location
  | .write location offset width value =>
      (bus.write location offset width value).toOption.getD bus

/-- A use puts what it makes of its bus in the place of the bus, or it fails and
makes nothing of either. -/
theorem BusUse.perform_cases (id : Nat) (use : BusUse) (m : Machine) :
    use.perform id m = m.setBus id (use.on (m.bus id)) ∨
      use.perform id m = m ∧ use.on (m.bus id) = m.bus id := by
  cases use with
  | plug location card => exact .inl rfl
  | unplug location => exact .inl rfl
  | write location offset width value =>
      simp only [perform, on, Context.write]
      cases (m.bus id).write location offset width value with
      | error e => exact .inr ⟨rfl, rfl⟩
      | ok after => exact .inl rfl

theorem Machine.bus_perform {m : Machine} {id : Nat} (hmade : id < m.buses.length) (other : Nat)
    (use : BusUse) :
    (use.perform other m).bus id = if other = id then use.on (m.bus id) else m.bus id := by
  by_cases hsame : other = id
  · subst hsame
    rw [if_pos rfl]
    rcases use.perform_cases other m with hput | ⟨hfailed, hkept⟩
    · rw [hput, bus_setBus_self _ hmade]
    · rw [hfailed, hkept]
  · rw [if_neg hsame]
    rcases use.perform_cases other m with hput | ⟨hfailed, -⟩
    · rw [hput, bus_setBus_of_ne _ hsame]
    · rw [hfailed]

theorem Machine.made_perform (m : Machine) (id : Nat) (use : BusUse) :
    (use.perform id m).buses.length = m.buses.length := by
  rcases use.perform_cases id m with hput | ⟨hfailed, -⟩
  · rw [hput]
    exact List.length_set
  · rw [hfailed]

/-- The card is on the bus at a location, as it was plugged in but for the
writes since. -/
structure Houses (bus : Bus) (location : Location) (card : Card) (since : List ConfigWrite)
    (slot : Slot) : Prop where
  found : bus.find? location = some slot
  record : slot.record = card.record location
  bytes : slot.card.image.bytes.byteAt =
    replays (since.filter (·.location = location)) card.image.bytes.byteAt

/-- What leaves the place of the card and the journal alone leaves the card. -/
theorem Houses.undisturbed {bus after : Bus} {location : Location} {card : Card}
    {since : List ConfigWrite} {slot : Slot} (h : Houses bus location card since slot)
    (hfind : after.find? location = bus.find? location) (hjournal : after.journal = bus.journal) :
    ∃ more slot', after.journal = bus.journal ++ more ∧
      Houses after location card (since ++ more) slot' :=
  ⟨[], slot, by rw [hjournal, List.append_nil], by rw [hfind, h.found], h.record,
    by rw [List.append_nil, h.bytes]⟩

namespace BusUse

variable {bus after : Bus} {location : Location} {card : Card} {use : BusUse}
  {offset : UInt16} {width : Width} {value : UInt32}

theorem on_write_ok (h : bus.write location offset width value = .ok after) :
    on (.write location offset width value) bus = after := by
  rw [on, h]
  rfl

theorem on_write_error {e : Fault} (h : bus.write location offset width value = .error e) :
    on (.write location offset width value) bus = bus := by
  rw [on, h]
  rfl

theorem on_ordered (use : BusUse) (h : Bus.Ordered bus.slots) :
    Bus.Ordered (use.on bus).slots := by
  cases use with
  | plug location card => exact Bus.ordered_insertSlot _ h
  | unplug location => exact List.Pairwise.filter _ h
  | write location offset width value =>
      cases hwrite : bus.write location offset width value with
      | error e => rwa [on_write_error hwrite]
      | ok after =>
          have hkeeps : ∀ slot : Slot, (if slot.location = location then
              slot.write offset width value else slot).location = slot.location := by
            intro slot
            split <;> rfl
          rw [on_write_ok hwrite, (Bus.write_eq_ok_iff.mp hwrite).2.2]
          refine List.pairwise_map.mpr (h.imp fun {a b} hab => ?_)
          rw [hkeeps a, hkeeps b]
          exact hab

/-- A place that is empty is filled by plugging in only. -/
theorem find?_on_none (hnone : bus.find? location = none)
    (hplug : ∀ card, use ≠ .plug location card) : (use.on bus).find? location = none := by
  cases use with
  | plug other card =>
      have hother : other ≠ location := fun h => hplug card (h ▸ rfl)
      rw [on, Bus.find?_plug, if_neg hother, hnone]
  | unplug other =>
      rw [on, Bus.find?_unplug, hnone]
      split <;> rfl
  | write target offset width value =>
      cases hwrite : bus.write target offset width value with
      | error e => rwa [on_write_error hwrite]
      | ok after => rw [on_write_ok hwrite, Bus.find?_write hwrite, hnone, Option.map_none]

/-- A card that is on the bus stays there until it is taken off. What was
written to it since stands in the journal. -/
theorem houses_on {since : List ConfigWrite} {slot : Slot}
    (h : Houses bus location card since slot) (hunplug : use ≠ .unplug location)
    (hplug : ∀ card, use ≠ .plug location card) :
    ∃ more slot', (use.on bus).journal = bus.journal ++ more ∧
      Houses (use.on bus) location card (since ++ more) slot' := by
  cases use with
  | plug other card' =>
      have hother : other ≠ location := fun heq => hplug card' (heq ▸ rfl)
      exact h.undisturbed (by rw [on, Bus.find?_plug, if_neg hother]) rfl
  | unplug other =>
      have hother : other ≠ location := fun heq => hunplug (heq ▸ rfl)
      exact h.undisturbed (by rw [on, Bus.find?_unplug, if_neg hother]) rfl
  | write target offset width value =>
      cases hwrite : bus.write target offset width value with
      | error e =>
          rw [on_write_error hwrite]
          exact h.undisturbed rfl rfl
      | ok after =>
          obtain ⟨hspace, -, hjournal⟩ := Bus.write_eq_ok_iff.mp hwrite
          rw [on_write_ok hwrite]
          refine ⟨[⟨target, offset, width, value⟩], _, by rw [hjournal],
            by rw [Bus.find?_write hwrite, h.found, Option.map_some], ?_, ?_⟩
          · rw [← h.record]
            split <;> rfl
          · rw [List.filter_append]
            by_cases htarget : target = location
            · rw [if_pos htarget, slot.byteAt_write_replay target value hspace, h.bytes,
                List.filter_cons_of_pos (by simpa using htarget), List.filter_nil, replays_concat]
            · rw [if_neg htarget, h.bytes, List.filter_cons_of_neg (by simpa using htarget),
                List.filter_nil, List.append_nil]

end BusUse

/-! ## Runs -/

/-- The machine after a run: uses of handles, each with the number of the bus
that the handle is on. -/
def Machine.used (m : Machine) (run : List (Nat × BusUse)) : Machine :=
  run.foldl (fun m call => call.2.perform call.1 m) m

@[simp] theorem Machine.used_nil (m : Machine) : m.used [] = m := rfl

theorem Machine.used_concat (m : Machine) (run : List (Nat × BusUse)) (other : Nat)
    (use : BusUse) : m.used (run ++ [(other, use)]) = use.perform other (m.used run) := by
  rw [used, List.foldl_append]
  rfl

/-- Whenever the run plugs a card in, its place on the bus is empty. -/
def PlugsFree (id : Nat) (start : Machine) (run : List (Nat × BusUse)) : Prop :=
  ∀ before location card since, run = before ++ (id, .plug location card) :: since →
    (start.used before).slot? id location = none

theorem plugsFree_cons {id : Nat} {start : Machine} {call : Nat × BusUse}
    {run : List (Nat × BusUse)} :
    PlugsFree id start (call :: run) ↔
      (∀ location card, call = (id, .plug location card) → start.slot? id location = none) ∧
        PlugsFree id (call.2.perform call.1 start) run := by
  constructor
  · intro h
    refine ⟨fun location card hcall => h [] location card run (by rw [hcall]; rfl), ?_⟩
    intro before location card since hrun
    exact h (call :: before) location card since (by rw [hrun]; rfl)
  · rintro ⟨hfirst, hrest⟩ before location card since hrun
    cases before with
    | nil => exact hfirst location card (List.cons.inj hrun).1
    | cons first before =>
        obtain ⟨rfl, htail⟩ := List.cons.inj hrun
        exact hrest before location card since htail

instance (id : Nat) (m : Machine) (call : Nat × BusUse) : Decidable
    (∀ location card, call = (id, .plug location card) → m.slot? id location = none) :=
  match call with
  | (other, .plug location card) =>
      decidable_of_iff (other = id → m.slot? id location = none)
        ⟨by rintro h _ _ ⟨⟩; exact h rfl, fun h hid => h location card (by rw [hid])⟩
  | (_, .unplug _) | (_, .write _ _ _ _) => isTrue (by rintro _ _ ⟨⟩)

instance decidablePlugsFree (id : Nat) : (start : Machine) → (run : List (Nat × BusUse)) →
    Decidable (PlugsFree id start run)
  | _, [] => isTrue fun before _ _ _ h => by cases before <;> cases h
  | start, call :: run =>
      have := decidablePlugsFree id (call.2.perform call.1 start) run
      decidable_of_iff' _ plugsFree_cons

/-- The card is at the location when the run ends: it was plugged in there after
`before`, and `since` does not take it off. -/
structure Stay (id : Nat) (location : Location) (card : Card)
    (run before since : List (Nat × BusUse)) : Prop where
  plugged : run = before ++ (id, .plug location card) :: since
  kept : (id, .unplug location) ∉ since

/-- There is a function at the location when the run ends. -/
def Present (id : Nat) (location : Location) (run : List (Nat × BusUse)) : Prop :=
  ∃ card before since, Stay id location card run before since

section Run

variable {id : Nat} {start : Machine} {run : List (Nat × BusUse)} {location : Location}
  {card : Card}

theorem Machine.made_used (m : Machine) (run : List (Nat × BusUse)) :
    (m.used run).buses.length = m.buses.length := by
  induction run using List.reverseRecOn with
  | nil => rfl
  | append_singleton run call ih => rw [used_concat, made_perform, ih]

theorem Machine.bus_used_concat (hmade : id < start.buses.length) (run : List (Nat × BusUse))
    (other : Nat) (use : BusUse) :
    (start.used (run ++ [(other, use)])).bus id =
      if other = id then use.on ((start.used run).bus id) else (start.used run).bus id := by
  rw [used_concat, bus_perform (by rw [made_used]; exact hmade)]

theorem PlugsFree.initial {more : List (Nat × BusUse)} (h : PlugsFree id start (run ++ more)) :
    PlugsFree id start run := by
  rintro before location card since rfl
  exact h before location card (since ++ more) (by simp)

theorem ordered_used (hmade : id < start.buses.length) (hempty : start.bus id = {})
    (run : List (Nat × BusUse)) : Bus.Ordered ((start.used run).bus id).slots := by
  induction run using List.reverseRecOn with
  | nil =>
      rw [Machine.used_nil, hempty]
      exact List.Pairwise.nil
  | append_singleton run call ih =>
      rw [Machine.bus_used_concat hmade]
      split
      · exact call.2.on_ordered ih
      · exact ih

/-- A location is empty unless the run leaves a card there. -/
theorem slot?_used_eq_none_or (hmade : id < start.buses.length) (hempty : start.bus id = {})
    (location : Location) (run : List (Nat × BusUse)) :
    (start.used run).slot? id location = none ∨ Present id location run := by
  induction run using List.reverseRecOn with
  | nil =>
      left
      rw [Machine.used_nil, Machine.slot?, hempty]
      rfl
  | append_singleton run call ih =>
      -- the last use starts a stay, ends the one that there was, or does neither
      obtain ⟨other, use⟩ := call
      by_cases hplug : ∃ card, (other, use) = (id, .plug location card)
      · obtain ⟨card, hplug⟩ := hplug
        exact .inr ⟨card, run, [], by rw [hplug], List.not_mem_nil⟩
      by_cases hunplug : (other, use) = (id, .unplug location)
      · left
        obtain ⟨rfl, rfl⟩ := Prod.mk.inj hunplug
        rw [Machine.slot?, Machine.bus_used_concat hmade, if_pos rfl, BusUse.on,
          Bus.find?_unplug, if_pos rfl]
      refine ih.imp (fun hnone => ?_) ?_
      · rw [Machine.slot?, Machine.bus_used_concat hmade]
        split
        · rename_i hsame
          exact BusUse.find?_on_none hnone fun card h => hplug ⟨card, by rw [hsame, h]⟩
        · exact hnone
      · rintro ⟨card, before, since, rfl, hkept⟩
        refine ⟨card, before, since ++ [(other, use)], by simp, ?_⟩
        simpa using ⟨hkept, fun h h' => hunplug (by rw [h, h'])⟩

/-- A card that stays is there with what has been written to it. -/
theorem Stay.houses (hmade : id < start.buses.length) (hfree : PlugsFree id start run)
    {before since : List (Nat × BusUse)} (h : Stay id location card run before since) :
    ∃ noted slot,
      ((start.used run).bus id).journal = ((start.used before).bus id).journal ++ noted ∧
      Houses ((start.used run).bus id) location card noted slot := by
  obtain ⟨rfl, hkept⟩ := h
  induction since using List.reverseRecOn with
  | nil =>
      rw [Machine.bus_used_concat hmade, if_pos rfl]
      exact ⟨[], _, (List.append_nil _).symm, by rw [BusUse.on, Bus.find?_plug, if_pos rfl],
        rfl, rfl⟩
  | append_singleton since call ih =>
      obtain ⟨other, use⟩ := call
      rw [← List.cons_append, ← List.append_assoc] at hfree ⊢
      obtain ⟨noted, slot, hjournal, hhouses⟩ :=
        ih (fun hmem => hkept (List.mem_append_left _ hmem)) hfree.initial
      rw [Machine.bus_used_concat hmade]
      split
      · rename_i hsame
        subst hsame
        have hunplug : use ≠ .unplug location := fun h => hkept (by simp [h])
        -- the card itself keeps another one from being plugged in
        have hplug : ∀ card, use ≠ .plug location card := by
          rintro card rfl
          have hnone := hfree _ location card [] rfl
          rw [Machine.slot?, hhouses.found] at hnone
          cases hnone
        obtain ⟨more, slot', hmore, hhouses'⟩ := BusUse.houses_on hhouses hunplug hplug
        exact ⟨noted ++ more, slot', by rw [hmore, hjournal, List.append_assoc], hhouses'⟩
      · exact ⟨noted, slot, hjournal, hhouses⟩

/-- The functions of the bus are those that the run leaves there. -/
theorem isSome_slot?_used (hmade : id < start.buses.length) (hempty : start.bus id = {})
    (hfree : PlugsFree id start run) :
    ((start.used run).slot? id location).isSome ↔ Present id location run := by
  constructor
  · intro hsome
    refine (slot?_used_eq_none_or hmade hempty location run).resolve_left fun hnone => ?_
    rw [hnone] at hsome
    cases hsome
  · rintro ⟨card, before, since, hstay⟩
    obtain ⟨noted, slot, -, hhouses⟩ := hstay.houses hmade hfree
    exact Option.isSome_iff_exists.mpr ⟨slot, hhouses.found⟩

theorem mem_records_used (hmade : id < start.buses.length) (hempty : start.bus id = {})
    (hfree : PlugsFree id start run) {record : Record} :
    record ∈ ((start.used run).bus id).records ↔
      ∃ location card before since, Stay id location card run before since ∧
        record = card.record location := by
  constructor
  · intro hrecord
    obtain ⟨slot, hslot, rfl⟩ := List.mem_map.mp hrecord
    have hfound : (start.used run).slot? id slot.location = some slot :=
      Bus.find?_of_mem (ordered_used hmade hempty run) hslot
    obtain ⟨card, before, since, hstay⟩ :=
      (isSome_slot?_used hmade hempty hfree).mp (Option.isSome_iff_exists.mpr ⟨slot, hfound⟩)
    obtain ⟨noted, other, -, hhouses⟩ := hstay.houses hmade hfree
    obtain rfl : other = slot := Option.some.inj (hhouses.found.symm.trans hfound)
    exact ⟨_, card, before, since, hstay, hhouses.record⟩
  · rintro ⟨location, card, before, since, hstay, rfl⟩
    obtain ⟨noted, slot, -, hhouses⟩ := hstay.houses hmade hfree
    exact List.mem_map.mpr ⟨slot, List.mem_of_find?_eq_some hhouses.found, hhouses.record⟩

/-- Only a write through a handle on the bus is noted in its journal. -/
theorem journal_used_concat (hmade : id < start.buses.length) {call : Nat × BusUse}
    (hcall : ∀ location offset width value, call ≠ (id, .write location offset width value)) :
    ((start.used (run ++ [call])).bus id).journal = ((start.used run).bus id).journal := by
  obtain ⟨other, use⟩ := call
  rw [Machine.bus_used_concat hmade]
  split
  · rename_i hsame
    cases use with
    | plug | unplug => rfl
    | write location offset width value =>
        exact absurd (by rw [hsame]) (hcall location offset width value)
  · rfl

/-- Config space at the location of a card is that of the card, with the writes
replayed that the journal has of the location since. -/
theorem Stay.byteAt? (hmade : id < start.buses.length) (hfree : PlugsFree id start run)
    {before since : List (Nat × BusUse)} (h : Stay id location card run before since) :
    ∃ noted,
      ((start.used run).bus id).journal = ((start.used before).bus id).journal ++ noted ∧ ∀ i,
        (start.used run).byteAt? id location i =
          some (replays (noted.filter (·.location = location)) card.image.bytes.byteAt i) ∧
        ((∀ write ∈ noted, write.location = location → ¬ Covers write.offset write.width i) →
          (start.used run).byteAt? id location i = some (card.image.bytes.byteAt i)) := by
  obtain ⟨noted, slot, hjournal, hhouses⟩ := h.houses hmade hfree
  refine ⟨noted, hjournal, fun i => ?_⟩
  have hbyte : (start.used run).byteAt? id location i =
      some (replays (noted.filter (·.location = location)) card.image.bytes.byteAt i) := by
    rw [Machine.byteAt?, Machine.slot?, hhouses.found, Option.map_some, hhouses.bytes]
  refine ⟨hbyte, fun huncovered => ?_⟩
  rw [hbyte, replays_uncovered]
  intro write hwrite
  obtain ⟨hmem, hlocation⟩ := List.mem_filter.mp hwrite
  exact huncovered write hmem (by simpa using hlocation)

theorem write_present (hmade : id < start.buses.length)
    (hpresent : (((start.used run).bus id).find? location).isSome) {offset : UInt16}
    {width : Width} (hspace : offset.toNat + width.bytes ≤ imageSize) (value : UInt32) :
    ∃ after, (Context.bus id).write (start.used run) location offset width value = .ok after ∧
      after = start.used (run ++ [(id, .write location offset width value)]) ∧
      (after.bus id).journal =
        ((start.used run).bus id).journal ++ [⟨location, offset, width, value⟩] := by
  have hbus : (Context.bus id).busId? = some id := rfl
  obtain ⟨after, hafter⟩ := Context.write_isOk hbus (fun hrefuses => hrefuses) hpresent
    (Bus.inSpace_iff.mpr hspace) value
  refine ⟨after, hafter, ?_, ?_⟩
  · rw [Machine.used_concat, BusUse.perform, hafter]
    rfl
  · obtain ⟨-, bus, hwrite, rfl⟩ := (Context.write_eq_ok_iff hbus).mp hafter
    rw [Machine.bus_setBus_self _ (by rwa [Machine.made_used]), (Bus.write_eq_ok_iff.mp hwrite).2.2]

theorem write_refused {offset : UInt16} {width : Width}
    (h : ¬ (offset.toNat + width.bytes ≤ imageSize ∧
      (((start.used run).bus id).find? location).isSome)) (value : UInt32) :
    (Context.bus id).write (start.used run) location offset width value =
        .error (if imageSize < offset.toNat + width.bytes then
          .config location offset (.pastEnd width.bytes) else .gone location) ∧
      start.used (run ++ [(id, .write location offset width value)]) = start.used run := by
  refine (and_iff_left_of_imp fun hwrite => ?_).mpr ?_
  · rw [Machine.used_concat, BusUse.perform, hwrite]
    rfl
  · rw [Context.write, Bus.write_refused h]
    rfl

end Run

/-! ## What the history tells -/

theorem Width.ones_eq (width : Width) : width.ones = .ofNat (256 ^ width.bytes - 1) := by
  cases width <;> rfl

/-- What a run through handles of a bus tells of the bus. -/
structure Recounted (id : Nat) (start : Machine) (run : List (Nat × BusUse)) : Prop where
  /-- The records stand strictly in bus order. -/
  ordered : ((Context.bus id).records (start.used run)).Pairwise
    fun a b => a.location.rank < b.location.rank
  /-- There is one for each card that is there, as it was plugged in. -/
  enumerated : ∀ record, record ∈ (Context.bus id).records (start.used run) ↔
    ∃ location card before since, Stay id location card run before since ∧
      record = card.record location
  /-- Looking a function up comes to a search of the records. -/
  found : ∀ location, (Context.bus id).find? (start.used run) location =
    ((Context.bus id).records (start.used run)).find? (·.location == location)
  /-- Config space is that of the card, with the writes replayed that the
  journal has of its location since. -/
  image : ∀ {location card before since}, Stay id location card run before since → ∃ noted,
    ((start.used run).bus id).journal = ((start.used before).bus id).journal ++ noted ∧ ∀ i,
      (start.used run).byteAt? id location i =
        some (replays (noted.filter (·.location = location)) card.image.bytes.byteAt i) ∧
      ((∀ write ∈ noted, write.location = location → ¬ Covers write.offset write.width i) →
        (start.used run).byteAt? id location i = some (card.image.bytes.byteAt i))
  /-- Within config space, to a function that is there, a write goes through
  and is noted. -/
  written : ∀ location offset width value, offset.toNat + width.bytes ≤ imageSize →
    Present id location run → ∃ after,
      (Context.bus id).write (start.used run) location offset width value = .ok after ∧
      after = start.used (run ++ [(id, .write location offset width value)]) ∧
      (after.bus id).journal =
        ((start.used run).bus id).journal ++ [⟨location, offset, width, value⟩]
  /-- Every other write fails and changes nothing. -/
  refused : ∀ location offset width value,
    ¬ (offset.toNat + width.bytes ≤ imageSize ∧ Present id location run) →
      (Context.bus id).write (start.used run) location offset width value =
        .error (if imageSize < offset.toNat + width.bytes then
          .config location offset (.pastEnd width.bytes) else .gone location) ∧
      start.used (run ++ [(id, .write location offset width value)]) = start.used run
  /-- Nothing but a write through a handle on the bus is noted. -/
  unnoted : ∀ call, (∀ location offset width value,
      call ≠ (id, .write location offset width value)) →
    ((start.used (run ++ [call])).bus id).journal = ((start.used run).bus id).journal
  /-- A read finds the bytes of the function, the lowest first, and zeros above
  its width. -/
  read : ∀ location offset width, offset.toNat + width.bytes ≤ imageSize →
    Present id location run → ∃ value,
      (Context.bus id).read (start.used run) location offset width = .ok value ∧ ∀ k,
        (k < width.bytes → (start.used run).byteAt? id location (offset.toNat + k) =
          some (Memory.part value k)) ∧
        (width.bytes ≤ k → Memory.part value k = 0)
  /-- Where no function is, it finds all bits set. -/
  absent : ∀ location offset width, offset.toNat + width.bytes ≤ imageSize →
    ¬ Present id location run →
      (Context.bus id).read (start.used run) location offset width =
        .ok (.ofNat (256 ^ width.bytes - 1))
  /-- Past the end of config space it is refused. -/
  pastEnd : ∀ location offset width, imageSize < offset.toNat + width.bytes →
    (Context.bus id).read (start.used run) location offset width =
      .error (.config location offset (.pastEnd width.bytes))

/-- **A bus is what its history makes it.** Whatever is done through any handles
on a bus that was empty at first, as long as cards are plugged in at empty
places, the run and the journal tell what is on it and how it answers. -/
theorem bus_true_to_history {id : Nat} {start : Machine} {run : List (Nat × BusUse)}
    (hmade : id < start.buses.length) (hempty : start.bus id = {})
    (hfree : PlugsFree id start run) : Recounted id start run := by
  have hthere : ∀ {location}, (((start.used run).bus id).find? location).isSome ↔
      Present id location run := isSome_slot?_used hmade hempty hfree
  exact {
    ordered := List.pairwise_map.mpr (ordered_used hmade hempty run)
    enumerated := fun record => mem_records_used hmade hempty hfree
    found := by
      intro location
      have hguarded : (Context.guarded id).busId? = some id := rfl
      exact (Context.find?_of_busId? hguarded).symm
    image := fun hstay => hstay.byteAt? hmade hfree
    written := fun location offset width value hspace hpresent =>
      write_present hmade (hthere.mpr hpresent) hspace value
    refused := fun location offset width value hnot =>
      write_refused (by rwa [hthere]) value
    unnoted := fun call hcall => journal_used_concat hmade hcall
    read := by
      intro location offset width hspace hpresent
      obtain ⟨slot, hslot⟩ := Option.isSome_iff_exists.mp (hthere.mpr hpresent)
      obtain ⟨value, hread, hbytes⟩ := Bus.read_bytes hslot hspace
      refine ⟨value, hread, fun k => ⟨fun hk => ?_, fun hk => ?_⟩⟩
      · rw [hbytes, if_pos hk, Machine.byteAt?, Machine.slot?, hslot, Option.map_some]
      · rw [hbytes, if_neg (Nat.not_lt.mpr hk)]
    absent := by
      intro location offset width hspace habsent
      have hnone : ((start.used run).bus id).find? location = none := by
        rwa [← hthere, Option.not_isSome_iff_eq_none] at habsent
      rw [← width.ones_eq]
      exact Bus.read_absent (by rw [Bus.image?, hnone, Option.map_none])
        (Bus.inSpace_iff.mpr hspace)
    pastEnd := fun location offset width hpast =>
      Bus.read_pastEnd fun hspace => Nat.not_le.mpr hpast (Bus.inSpace_iff.mp hspace) }

def twoBuses : Machine := { buses := [{}, {}] }

/-- Handles on two buses at work. On the first bus a function is written to and
replaced; a write past the end and one to an empty place fail. -/
def replacing : List (Nat × BusUse) :=
  [(0, .plug ⟨0, 0, 2, 0⟩ (.new 0x8086 0x7000)),
    (1, .plug ⟨0, 0, 2, 0⟩ (.new 0x1002 0x4385)),
    (0, .write ⟨0, 0, 2, 0⟩ 0x40 .long 0x11223344),
    (0, .write ⟨0, 0, 2, 0⟩ 0xfe .long 1),
    (0, .write ⟨0, 0, 1, 0⟩ 0x40 .byte 1),
    (0, .plug ⟨0, 0, 1, 0⟩ (.new 0x1002 0x4385)),
    (0, .unplug ⟨0, 0, 2, 0⟩),
    (0, .plug ⟨0, 0, 2, 0⟩ (.new 0x1002 0x4385)),
    (1, .write ⟨0, 0, 2, 0⟩ 0x40 .long 0x55667788),
    (0, .write ⟨0, 0, 2, 0⟩ 0x40 .word 0xaabb),
    (0, .write ⟨0, 0, 2, 0⟩ 0x41 .byte 0xcc)]

/-- The journal of the first bus has the writes to both functions, but neither of
the two that failed. -/
theorem replaced_function_recounted :
    PlugsFree 0 twoBuses replacing ∧ Recounted 0 twoBuses replacing ∧
      ((twoBuses.used replacing).bus 0).journal =
        [⟨⟨0, 0, 2, 0⟩, 0x40, .long, 0x11223344⟩, ⟨⟨0, 0, 2, 0⟩, 0x40, .word, 0xaabb⟩,
          ⟨⟨0, 0, 2, 0⟩, 0x41, .byte, 0xcc⟩] := by
  have hfree : PlugsFree 0 twoBuses replacing := by decide +kernel
  exact ⟨hfree, bus_true_to_history (by decide) rfl hfree, by decide +kernel⟩

end PciBus

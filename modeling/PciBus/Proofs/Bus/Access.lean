import PciBus.Cleanup

/-!
# Access to functions in memory

A memory bus is seen through its bytes: `byteAt?` is byte `i` of the function
at a location, none if nothing is there. A write through a context on the bus
changes the bytes that it covers, of the function it is for, and it succeeds
exactly when it stays within config space, the function is there and nothing
locks it. Capturing takes the very bytes that a later restore puts back.
-/

namespace PciBus

/-! ## Slots -/

/-- The function at a location of a bus. -/
def Machine.slot? (m : Machine) (id : Nat) (location : Location) : Option Slot :=
  (m.bus id).find? location

/-- Byte `i` of the config space at a location of a bus. -/
def Machine.byteAt? (m : Machine) (id : Nat) (location : Location) (i : Nat) : Option UInt8 :=
  (m.slot? id location).map fun slot => slot.card.image.bytes.byteAt i

/-- A function that is there has every byte. -/
theorem Machine.exists_byteAt? {m : Machine} {id : Nat} {location : Location}
    (h : (m.slot? id location).isSome) (i : Nat) : ∃ byte, m.byteAt? id location i = some byte := by
  obtain ⟨slot, hslot⟩ := Option.isSome_iff_exists.mp h
  exact ⟨slot.card.image.bytes.byteAt i, by rw [byteAt?, hslot, Option.map_some]⟩

/-- An access of a width at an offset touches byte `i`. -/
def Covers (offset : UInt16) (width : Width) (i : Nat) : Prop :=
  offset.toNat ≤ i ∧ i < offset.toNat + width.bytes

instance (offset : UInt16) (width : Width) (i : Nat) : Decidable (Covers offset width i) :=
  inferInstanceAs (Decidable (_ ∧ _))

namespace Slot

/-- A write replaces the bytes it covers and no others. -/
theorem byteAt_write (slot : Slot) {offset : UInt16} {width : Width} (value : UInt32) (i : Nat)
    (hspace : Bus.inSpace offset width) :
    (slot.write offset width value).card.image.bytes.byteAt i =
      if Covers offset width i then
        (Bytes.ofNumber width.bytes value.toNat).getD (i - offset.toNat) 0
      else slot.card.image.bytes.byteAt i := by
  have hsize := slot.card.image.size_eq
  have hend : offset.toNat + width.bytes ≤ imageSize := by simpa [Bus.inSpace] using hspace
  simp only [Slot.write, Image.put, Bytes.byteAt_overwrite, Bytes.length_ofNumber, hsize]
  by_cases h : Covers offset width i
  · have hbelow : i < offset.toNat + width.bytes := h.2
    rw [if_pos ⟨h.1, hbelow, by omega⟩, if_pos h]
  · rw [if_neg (fun hc => h ⟨hc.1, hc.2.1⟩), if_neg h]

end Slot

namespace Bus

variable {bus : Bus} {location other : Location} {offset : UInt16} {width : Width}

theorem location_of_find? {slot : Slot} (h : bus.find? location = some slot) :
    slot.location = location := by
  simpa using List.find?_some h

/-- A write goes through exactly when it stays in space and meets a function. -/
theorem write_eq_ok_iff {value : UInt32} {after : Bus} :
    bus.write location offset width value = .ok after ↔
      inSpace offset width ∧ (bus.find? location).isSome ∧
      after =
        { slots := bus.slots.map fun slot =>
            if slot.location = location then slot.write offset width value else slot
          journal := bus.journal ++ [⟨location, offset, width, value⟩] } := by
  rw [write]
  cases hspace : inSpace offset width with
  | false => simp
  | true =>
      cases hfind : bus.find? location with
      | none => simp
      | some slot => simp [eq_comm]

/-- What stands at a location after a write. -/
theorem find?_write {value : UInt32} {after : Bus}
    (h : bus.write location offset width value = .ok after) :
    after.find? other =
      (bus.find? other).map fun slot =>
        if location = other then slot.write offset width value else slot := by
  obtain ⟨-, -, rfl⟩ := write_eq_ok_iff.mp h
  rw [find?, find?, List.find?_map]
  have hkeeps : ((fun slot : Slot => slot.location == other) ∘ fun slot =>
      if slot.location = location then slot.write offset width value else slot) =
      fun slot => slot.location == other := by
    funext slot
    simp only [Function.comp_apply]
    split <;> rfl
  rw [hkeeps]
  cases hfind : bus.slots.find? (fun slot => slot.location == other) with
  | none => rfl
  | some slot =>
      have hloc : slot.location = other := location_of_find? hfind
      simp only [Option.map_some, hloc, eq_comm (a := other)]

end Bus

/-! ## Contexts on a bus -/

namespace Context

variable {context : Context} {id : Nat} {m : Machine} {location other : Location}
  {offset : UInt16} {width : Width}

/-- The bus that a context is on. -/
def busId? : Context → Option Nat
  | .bus id | .guarded id => some id
  | .tree _ => none

/-- The context refuses writes to the location. -/
def Refuses (context : Context) (m : Machine) (location : Location) : Prop :=
  match context with
  | .guarded _ => location ∈ m.locked
  | _ => False

/-- A context on a bus enumerates what is on the bus. -/
theorem find?_of_busId? (hbus : context.busId? = some id) :
    context.find? m location = (m.slot? id location).map (·.record) := by
  cases context with
  | bus other =>
      obtain rfl : other = id := Option.some.inj hbus
      rfl
  | guarded other =>
      obtain rfl : other = id := Option.some.inj hbus
      simp only [find?, Bus.records, List.find?_map, Machine.slot?, Bus.find?]
      rfl
  | tree scan => cases hbus

theorem read_of_busId? (hbus : context.busId? = some id) :
    context.read m location offset width = (m.bus id).read location offset width := by
  cases context with
  | bus other =>
      obtain rfl : other = id := Option.some.inj hbus
      rfl
  | guarded other =>
      obtain rfl : other = id := Option.some.inj hbus
      rfl
  | tree scan => cases hbus

/-- A write through a context on a bus is a write on the bus, unless it is
refused. -/
theorem write_eq_ok_iff {value : UInt32} {after : Machine} (hbus : context.busId? = some id) :
    context.write m location offset width value = .ok after ↔
      ¬ context.Refuses m location ∧
      ∃ bus, (m.bus id).write location offset width value = .ok bus ∧
        after = m.setBus id bus := by
  have hmap : ∀ bus : Except Fault Bus, ((do return m.setBus id (← bus)) = .ok after) ↔
      ∃ b, bus = .ok b ∧ after = m.setBus id b := by
    intro bus
    cases bus with
    | error e => simp [bind, Except.bind]
    | ok b => simp [bind, Except.bind, pure, Except.pure, eq_comm]
  cases context with
  | bus other =>
      obtain rfl : other = id := Option.some.inj hbus
      simp only [write, Refuses, not_false_eq_true, true_and]
      exact hmap _
  | guarded other =>
      obtain rfl : other = id := Option.some.inj hbus
      simp only [write, Refuses]
      split
      · simp_all
      · rename_i hfree
        simp only [hfree, not_false_eq_true, true_and]
        exact hmap _
  | tree scan => cases hbus

/-- Within config space, to a function that is there, a write that is not
refused goes through. -/
theorem write_isOk (hbus : context.busId? = some id) (hrefuses : ¬ context.Refuses m location)
    (hpresent : (m.slot? id location).isSome) (hspace : Bus.inSpace offset width)
    (value : UInt32) : ∃ after, context.write m location offset width value = .ok after :=
  ⟨_, (write_eq_ok_iff hbus).mpr
    ⟨hrefuses, _, Bus.write_eq_ok_iff.mpr ⟨hspace, hpresent, rfl⟩, rfl⟩⟩

/-- There is a bus under every slot. -/
theorem lt_of_slot? (h : (m.slot? id location).isSome) : id < m.buses.length := by
  rcases Nat.lt_or_ge id m.buses.length with hid | hid
  · exact hid
  · simp [Machine.slot?, Machine.bus, hid, Bus.find?] at h

/-- What stands at a location after a write through a context. -/
theorem slot?_write {value : UInt32} {after : Machine} (hbus : context.busId? = some id)
    (h : context.write m location offset width value = .ok after) :
    after.slot? id other =
      (m.slot? id other).map fun slot =>
        if location = other then slot.write offset width value else slot := by
  obtain ⟨-, bus, hwrite, rfl⟩ := (write_eq_ok_iff hbus).mp h
  have hpresent := (Bus.write_eq_ok_iff.mp hwrite).2.1
  rw [Machine.slot?, Machine.bus_setBus_self bus (lt_of_slot? hpresent),
    Bus.find?_write hwrite]
  rfl

/-- A write through a context on a bus leaves the lock alone. -/
theorem locked_write {value : UInt32} {after : Machine} (hbus : context.busId? = some id)
    (h : context.write m location offset width value = .ok after) :
    after.locked = m.locked := by
  obtain ⟨-, bus, -, rfl⟩ := (write_eq_ok_iff hbus).mp h
  rfl

/-- Of the bytes at a location, a write changes those it covers. -/
theorem byteAt?_write {value : UInt32} {after : Machine} (hbus : context.busId? = some id)
    (h : context.write m location offset width value = .ok after) (i : Nat) :
    after.byteAt? id other i =
      if location = other ∧ Covers offset width i then
        (m.byteAt? id other i).map fun _ =>
          (Bytes.ofNumber width.bytes value.toNat).getD (i - offset.toNat) 0
      else m.byteAt? id other i := by
  obtain ⟨-, bus, hwrite, -⟩ := (write_eq_ok_iff hbus).mp h
  have hspace := (Bus.write_eq_ok_iff.mp hwrite).1
  rw [Machine.byteAt?, Machine.byteAt?, slot?_write hbus h]
  cases m.slot? id other with
  | none => simp
  | some slot =>
      by_cases hloc : location = other
      · simp only [Option.map_some, if_pos hloc, slot.byteAt_write value i hspace]
        by_cases hcovers : Covers offset width i <;> simp [hloc, hcovers]
      · simp [hloc]

end Context

/-! ## Capturing -/

/-- What an undo puts at byte `i`, if it covers it. -/
def Undo.byteAt? (undo : Undo) (location : Location) (i : Nat) : Option UInt8 :=
  if Bus.inSpace undo.register undo.previous.width ∧ undo.location = location ∧
      Covers undo.register undo.previous.width i then
    some ((Bytes.ofNumber undo.previous.width.bytes undo.previous.raw.toNat).getD
      (i - undo.register.toNat) 0)
  else none

/-- A number that fits a width survives being held as a value of it. -/
theorem Value.toNat_raw_ofRaw_ofNat {width : Width} {n : Nat} (h : n < Bytes.span width.bytes) :
    (Value.ofRaw width (.ofNat n)).raw.toNat = n := by
  have hle : Bytes.span width.bytes ≤ UInt32.size := by cases width <;> decide
  rw [Value.toNat_raw_ofRaw, UInt32.toNat_ofNat', Nat.mod_eq_of_lt (Nat.lt_of_lt_of_le h hle),
    Nat.mod_eq_of_lt h]

namespace Undo

variable {context : Context} {id : Nat} {m : Machine} {location : Location}
  {register : UInt16} {width : Width} {undo : Undo}

/-- Capturing succeeds exactly within config space, present function or not. -/
theorem capture_isOk (hbus : context.busId? = some id) (m : Machine) (location : Location)
    (register : UInt16) (width : Width) :
    (capture context m location register width).toOption.isSome = Bus.inSpace register width := by
  rw [capture, Context.read_of_busId? hbus, Bus.read]
  cases hspace : Bus.inSpace register width with
  | false => rfl
  | true => cases (m.bus id).find? location <;> rfl

theorem target_of_capture (h : capture context m location register width = .ok undo) :
    undo.location = location ∧ undo.register = register ∧ undo.previous.width = width := by
  rw [capture] at h
  cases hread : context.read m location register width with
  | error e => simp [hread, bind, Except.bind] at h
  | ok raw =>
      simp only [hread, bind, Except.bind, pure, Except.pure, Except.ok.injEq] at h
      subst h
      exact ⟨rfl, rfl, Value.width_ofRaw _ _⟩

theorem inSpace_of_capture (hbus : context.busId? = some id)
    (h : capture context m location register width = .ok undo) :
    Bus.inSpace undo.register undo.previous.width = true := by
  obtain ⟨-, hregister, hwidth⟩ := target_of_capture h
  rw [hregister, hwidth, ← capture_isOk hbus m location, h]
  rfl

/-- What is captured from a present function are its bytes. -/
theorem byteAt?_of_capture (hbus : context.busId? = some id)
    (h : capture context m location register width = .ok undo)
    (hpresent : (m.slot? id location).isSome) {i : Nat} (hcovers : Covers register width i) :
    undo.byteAt? location i = m.byteAt? id location i := by
  obtain ⟨slot, hslot⟩ := Option.isSome_iff_exists.mp hpresent
  obtain ⟨hloc, hreg, hwidth⟩ := target_of_capture h
  have hspace : Bus.inSpace register width := by
    rw [← capture_isOk hbus m location, h]
    rfl
  rw [capture, Context.read_of_busId? hbus, Bus.read, if_pos hspace,
    show (m.bus id).find? location = some slot from hslot] at h
  simp only [bind, Except.bind, pure, Except.pure, Except.ok.injEq] at h
  subst h
  have hnumber := Bytes.number_lt slot.card.image.bytes register.toNat width.bytes
  rw [byteAt?, if_pos ⟨by simpa using hspace, rfl, by simpa using hcovers⟩, Value.width_ofRaw,
    Value.toNat_raw_ofRaw_ofNat hnumber,
    Bytes.getD_ofNumber_number (Nat.sub_lt_left_of_lt_add hcovers.1 hcovers.2),
    Nat.add_sub_cancel' hcovers.1, Machine.byteAt?, hslot]
  rfl

end Undo

end PciBus

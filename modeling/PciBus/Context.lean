import PciBus.Bus
import PciBus.Scan

/-!
# Contexts

A context is how a session reaches devices: a bus in memory, the same bus
behind a lock on some of its functions, or a scanned tree. It says where to
look; what it finds is on the machine.
-/

namespace PciBus

/-- Everything that operations read and change: the files, the buses in
memory, the functions that are locked against writes, and the names of the
callbacks that have run. -/
structure Machine where
  files : Files := {}
  buses : List Bus := []
  locked : List Location := []
  called : List String := []
  deriving DecidableEq

namespace Machine

/-- The bus with a number; there is nothing on one that was never made. -/
def bus (m : Machine) (id : Nat) : Bus := m.buses.getD id {}

def setBus (m : Machine) (id : Nat) (bus : Bus) : Machine :=
  { m with buses := m.buses.set id bus }

@[simp] theorem bus_setBus_self {m : Machine} {id : Nat} (bus : Bus)
    (h : id < m.buses.length) : (m.setBus id bus).bus id = bus := by
  simp [Machine.bus, setBus, h]

@[simp] theorem bus_setBus_of_ne {m : Machine} {id other : Nat} (bus : Bus)
    (h : id ≠ other) : (m.setBus id bus).bus other = m.bus other := by
  simp [Machine.bus, setBus, h]

end Machine

/-- How devices are reached. -/
inductive Context where
  /-- A bus in memory. -/
  | bus (id : Nat)
  /-- A bus in memory that refuses writes to locked functions and knows no
  names. -/
  | guarded (id : Nat)
  /-- A scanned tree. -/
  | tree (scan : Scan)
  deriving DecidableEq

namespace Context

/-- The enumerated records, in bus order. -/
def records (c : Context) (m : Machine) : List Record :=
  match c with
  | .bus id | .guarded id => (m.bus id).records
  | .tree scan => scan.records

/-- The record at a location. -/
def find? (c : Context) (m : Machine) (location : Location) : Option Record :=
  match c with
  | .bus id => ((m.bus id).find? location).map (·.record)
  | .guarded id => (m.bus id).records.find? (·.location == location)
  | .tree scan => scan.records.find? (·.location == location)

/-- Reads config space. -/
def read (c : Context) (m : Machine) (location : Location) (offset : UInt16)
    (width : Width) : Except Fault UInt32 :=
  match c with
  | .bus id | .guarded id => (m.bus id).read location offset width
  | .tree scan => scan.read m.files location offset width

/-- Writes config space; the machine afterwards, or the fault that left it
as it was. -/
def write (c : Context) (m : Machine) (location : Location) (offset : UInt16)
    (width : Width) (value : UInt32) : Except Fault Machine :=
  match c with
  | .bus id => do return m.setBus id (← (m.bus id).write location offset width value)
  | .guarded id =>
      if location ∈ m.locked then .error (.config location offset .locked)
      else do return m.setBus id (← (m.bus id).write location offset width value)
  | .tree scan => do
      return { m with files := ← scan.write m.files location offset width value }

/-- The name of a device, if the context knows names. -/
def name? (c : Context) (m : Machine) (vendor device : UInt16) : Option String :=
  match c with
  | .bus id => (m.bus id).name? vendor device
  | .guarded _ => none
  | .tree scan => scan.names.bind (·.find? vendor device)

end Context

end PciBus

import PciBus.Logged
import PciBus.Record

/-!
# Resolving a device

A whitelist names the supported devices, and resolving finds the one
enumerated function that passes a location filter, is on the whitelist and
is usable. None is a fault, and so are two. A whitelist ends at its first
entry with vendor number zero.
-/

namespace PciBus

open Text

/-- How well a device has been tested. -/
inductive TestStatus where
  | works
  | untested
  | bad
  | deprecated
  | notApplicable
  deriving DecidableEq, Repr

/-- A supported device, with whatever its driver attached to it. -/
structure Supported (τ : Type) where
  vendor : UInt16
  device : UInt16
  status : TestStatus
  tag : τ
  deriving DecidableEq, Repr

/-- The supported devices of a driver. -/
abbrev Whitelist (τ : Type) := List (Supported τ)

namespace Whitelist

variable {τ : Type}

/-- The entries before the one that ends the list. -/
def active (whitelist : Whitelist τ) : Whitelist τ :=
  List.takeWhile (·.vendor != 0) whitelist

/-- The first entry for a function. -/
def entryFor? (whitelist : Whitelist τ) (record : Record) : Option (Supported τ) :=
  whitelist.active.find? fun entry =>
    entry.vendor == record.vendor && entry.device == record.device

/-- The functions that pass the filter and are on the list, in their order,
each with its entry. -/
def candidates (whitelist : Whitelist τ) (filter : Filter) (records : List Record) :
    List (Record × Supported τ) :=
  (records.filter fun record => filter.accepts record.location).filterMap fun record =>
    (whitelist.entryFor? record).map (record, ·)

/-- Logs that a candidate was found, and asks for a report if nobody has
tested it. -/
def announce (candidate : Record × Supported τ) : Logged Unit := do
  let (record, entry) := candidate
  Logged.note .debug s!"found {record.idText} at BDF {record.location.short}"
  if entry.status = .untested then
    Logged.note .info
      (s!"This PCI device ({record.idText}) is UNTESTED. Please report whether it works " ++
        "for you, including the name of the device.")

/-- The candidates that are usable. -/
def keepUsable (usable : Record → Logged Bool) :
    List (Record × Supported τ) → Logged (List (Record × Supported τ))
  | [] => return []
  | candidate :: rest => do
      announce candidate
      let keep ← usable candidate.1
      let others ← keepUsable usable rest
      return if keep then candidate :: others else others

/-- The only one of several candidates. -/
def theOnly : List (Record × Supported τ) → Logged (Record × Supported τ)
  | [candidate] => return candidate
  | [] => do
      Logged.note .error "no supported PCI device found"
      Logged.fail .noDevice
  | many => do
      Logged.note .error
        ("multiple supported PCI devices found; use 'pci=bb:dd.f' to explicitly select the " ++
          "card with the given BDF (PCI bus, device, function)")
        [("count", s!"{many.length}")]
      Logged.fail (.manyDevices many.length)

/-- The one function that passes the filter, is on the list and is usable,
with its entry. -/
def select (whitelist : Whitelist τ) (filter : Filter) (usable : Record → Logged Bool)
    (records : List Record) : Logged (Record × Supported τ) := do
  theOnly (← keepUsable usable (whitelist.candidates filter records))

end Whitelist

end PciBus

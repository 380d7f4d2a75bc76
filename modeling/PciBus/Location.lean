import PciBus.Text.Cut
import PciBus.Text.Numeral

/-!
# Locations

A PCI function is found at a domain, bus, device and function number. Its
directory is named `dddd:bb:dd.f`; an operator writes `bb:dd.f`. Every field
is hexadecimal.
-/

namespace PciBus

open Text

/-- Where a function sits. Nothing in the type keeps `device` below 32 or
`function` below 8; only names are read that way. -/
structure Location where
  domain : UInt32
  bus : UInt8
  device : UInt8
  function : UInt8
  deriving DecidableEq, Repr, Inhabited

namespace Location

/-- A location in domain 0. -/
def inDomainZero (bus device function : UInt8) : Location :=
  ⟨0, bus, device, function⟩

/-! ## Order -/

/-- The place of a location in bus order: domain first, then bus, device
and function. -/
def rank (l : Location) : Nat :=
  ((l.domain.toNat * 256 + l.bus.toNat) * 256 + l.device.toNat) * 256 + l.function.toNat

theorem rank_inj {a b : Location} (h : a.rank = b.rank) : a = b := by
  have := a.bus.toNat_lt
  have := a.device.toNat_lt
  have := a.function.toNat_lt
  have := b.bus.toNat_lt
  have := b.device.toNat_lt
  have := b.function.toNat_lt
  simp only [rank] at h
  cases a
  cases b
  simp only [mk.injEq, ← UInt32.toNat_inj, ← UInt8.toNat_inj]
  simp only at *
  omega

/-- Sorts locations into bus order; equal ones keep their order. -/
def sort (ls : List Location) : List Location :=
  ls.mergeSort fun a b => a.rank ≤ b.rank

/-! ## Names -/

/-- The name of the function's directory. -/
def name (l : Location) : String :=
  s!"{hex 4 l.domain.toNat}:{hex 2 l.bus.toNat}:{hex 2 l.device.toNat}.{hex 1 l.function.toNat}"

/-- The form without the domain, as operators write it. -/
def short (l : Location) : String :=
  s!"{hex 2 l.bus.toNat}:{hex 2 l.device.toNat}.{hex 1 l.function.toNat}"

/-- Reads the name of a directory: four to eight domain digits, two each for
bus and device, one for the function, with a device below 32 and a function
below 8. -/
def ofName? (name : String) : Option Location := do
  let (domain, rest) ← cutFirst ':' name.toList
  let (bus, rest) ← cutFirst ':' rest
  let (device, function) ← cutFirst '.' rest
  guard (4 ≤ domain.length ∧ domain.length ≤ 8 ∧ bus.length = 2 ∧ device.length = 2 ∧
    function.length = 1)
  let domain ← readHex? UInt32.size domain
  let bus ← readHex? UInt8.size bus
  let device ← readHex? 32 device
  let function ← readHex? 8 function
  some ⟨.ofNat domain, .ofNat bus, .ofNat device, .ofNat function⟩

/-- How the log writes a location in full. -/
def text (l : Location) : String :=
  s!"PciBdf \x7b domain: {l.domain.toNat}, bus: {l.bus.toNat}, device: {l.device.toNat}, " ++
    s!"function: {l.function.toNat} \x7d"

end Location

end PciBus

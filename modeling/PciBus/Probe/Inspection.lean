import PciBus.Bar
import PciBus.Handle
import PciBus.Probe.Failure

/-!
# Inspecting a device

What a probe prints of an open device: who it is, its BARs one after the
other, its ROM, and one register if that is asked for. Nothing is written.
A BAR that is 64 bits wide takes the register after it as well, so the walk
goes on behind it; every other result takes one register.
-/

namespace PciBus

open Text

namespace Probe

/-- The lines that were printed, and the failure that ended them. -/
structure Report where
  lines : List String := []
  failure : Option Failure := none
  deriving DecidableEq, Repr

/-! ## Walking the BARs -/

/-- How many registers a result stands for. An address out of reach has an
upper half too. -/
def registersOf : Except Fault Bar → Nat
  | .ok bar => if bar.width = .bits64 then 2 else 1
  | .error (.unreachable _ _ _ _ _) => 2
  | .error _ => 1

theorem registersOf_pos (result : Except Fault Bar) : 0 < registersOf result := by
  unfold registersOf
  split
  · split <;> omega
  · omega
  · omega

/-- The BARs from `index` on, with their numbers. -/
def walk (decode : Nat → Except Fault Bar) (count index : Nat) :
    List (Nat × Except Fault Bar) :=
  if index < count then
    (index, decode index) :: walk decode count (index + registersOf (decode index))
  else []
termination_by count - index
decreasing_by
  have := registersOf_pos (decode index)
  omega

/-- Every BAR on the walk is a register of its own, and what is shown for it
is what it decodes to. -/
theorem mem_walk {decode : Nat → Except Fault Bar} {count index i : Nat}
    {result : Except Fault Bar} (h : (i, result) ∈ walk decode count index) :
    index ≤ i ∧ i < count ∧ result = decode i := by
  fun_induction walk decode count index with
  | case1 index hlt ih =>
      rcases List.mem_cons.1 h with heq | hrest
      · simp only [Prod.mk.injEq] at heq
        obtain ⟨rfl, rfl⟩ := heq
        exact ⟨Nat.le_refl _, hlt, rfl⟩
      · have := ih hrest
        exact ⟨by omega, this.2⟩
  | case2 => simp at h

/-! ## Lines -/

/-- What a kind of BAR is called, if it is known. -/
def kindTitle : BarKind → Option String
  | .memory => some "memory"
  | .io => some "I/O"
  | .rom => some "ROM"
  | .unknown => none

def widthTitle : BarWidth → String
  | .bits32 => "32-bit"
  | .bits64 => "64-bit"

/-- A decoded BAR in words. -/
def describe (bar : Bar) : String :=
  match kindTitle bar.kind with
  | none => "unknown"
  | some kind =>
      let caching := if bar.prefetchable then ", prefetchable" else ""
      s!"{kind} {widthTitle bar.width} 0x{hex 1 bar.address.toNat}{caching}"

/-- The line for a BAR: what it is, or why it cannot be decoded. -/
def barLine : Nat × Except Fault Bar → String
  | (index, .ok bar) => s!"BAR{index}: {describe bar}"
  | (index, .error e) => s!"BAR{index}: {e.message}"

/-- The line that says who the device is. -/
def titleLine (handle : Handle τ) : String :=
  s!"{handle.record.location.short} {handle.record.idText} \"{handle.name}\""

/-! ## The device -/

/-- How many BARs a header has, and where its ROM is. -/
def layout? : Header → Option (Nat × UInt16)
  | .ordinary => some (barCount, Register.rom)
  | .bridge => some (2, Register.bridgeRom)
  | .cardBus => none
  | .other _ => none

/-- Decodes a BAR by its number. -/
def decodeBar (read : ConfigReader) (location : Location) (index : Nat) : Except Fault Bar := do
  let offset ← Bar.offset (.ofNat index)
  (Bar.classify read location offset Bar.nativeBits).result

/-- The BARs and the ROM. A ROM that cannot be decoded is a failure, a BAR
that cannot be is a line. -/
def inspectBars (read : ConfigReader) (location : Location) : Report :=
  match read Register.headerType .byte with
  | .error e => { failure := some (.ofFault e) }
  | .ok register =>
      let register := register.toUInt8
      match layout? (.ofRegister register) with
      | none =>
          { lines := [s!"header type 0x{hex 2 (Header.plain register).toNat}: BARs not decoded"] }
      | some (count, rom) =>
          let bars := (walk (decodeBar read location) count 0).map barLine
          match (Bar.classify read location rom Bar.nativeBits).result with
          | .ok bar => { lines := bars ++ [s!"ROM: {describe bar}"] }
          | .error e => { lines := bars, failure := some (.ofFault e) }

/-- Maps a BAR and reads the dword at an offset. -/
def readRegister (handle : Handle τ) (files : Files) (bar offset : UInt64) :
    Except Failure String := do
  let mapped ← (handle.map files bar).result.mapError fun e =>
    (Failure.ofFault e).during s!"map BAR{bar.toNat} of {handle.record.location.short}"
  let value ← (mapped.read files .dword offset).result.mapError .ofFault
  return s!"BAR{bar.toNat}[0x{hex 1 offset.toNat}] = 0x{hex 8 value.toNat}"

/-- The whole inspection; `wanted` is the BAR and the offset of the register
to read. -/
def inspect (read : ConfigReader) (files : Files) (handle : Handle τ)
    (wanted : Option (UInt64 × UInt64)) : Report :=
  let bars := inspectBars read handle.record.location
  let lines := titleLine handle :: bars.lines
  match bars.failure, wanted with
  | some failure, _ => { lines := lines, failure := some failure }
  | none, none => { lines := lines }
  | none, some (bar, offset) =>
      match readRegister handle files bar offset with
      | .ok line => { lines := lines ++ [line] }
      | .error failure => { lines := lines, failure := some failure }

end Probe

end PciBus

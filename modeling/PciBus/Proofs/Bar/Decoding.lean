import PciBus.Bar

/-!
# What a BAR decodes to

Decoding logs on its way, and what it logs decides nothing. Here stands what
it answers, without the log (`Bar.classify_result`): it reads the header type,
the register and the command, in this order, and of a 64-bit BAR also the
dword behind the register (`Bar.upperHalf`).
-/

namespace PciBus.Bar

variable (read : ConfigReader) (location : Location) (offset : UInt16) (bits : Nat)
  (command : UInt16) (raw : UInt32)

/-- The upper half of a memory BAR; zero where there is none. -/
def upperHalf : Except Fault UInt32 :=
  match widthOf raw with
  | .bits32 => .ok 0
  | .bits64 => read (offset + 4) .long

/-- The memory BAR with the two halves, if pointers are wide enough for it. -/
def memoryBar (upper : UInt32) : Except Fault Bar :=
  if upper ≠ 0 ∧ bits < 64 then .error (.unreachable location offset upper raw bits)
  else .ok ⟨.memory, widthOf raw, raw &&& 8 != 0, memoryAddress upper raw⟩

@[simp] theorem warnUnless_result (decoded : Bool) (message : String) :
    (warnUnless decoded location message).result = .ok () := by
  rw [warnUnless]
  split <;> rfl

theorem decodeMemory_result :
    (decodeMemory read location offset bits command raw).result =
      (upperHalf read offset raw).bind (memoryBar location offset bits raw) := by
  simp only [decodeMemory, upperHalf, Logged.result_bind, warnUnless_result, Except.bind]
  cases hwidth : widthOf raw with
  | bits32 => split <;> simp [memoryBar, hwidth, Except.bind]
  | bits64 =>
      cases hupper : read (offset + 4) .long with
      | error e => split <;> simp [Except.bind]
      | ok upper =>
          by_cases hfar : upper ≠ 0 ∧ bits < 64
          · split <;> simp [memoryBar, hfar, Except.bind]
          · split <;> simp [memoryBar, hfar, hwidth, Except.bind]

theorem decodeIo_result : (decodeIo location command raw).result =
    .ok ⟨.io, .bits32, false, raw.toUInt64 &&& ~~~3⟩ := by
  simp [decodeIo, Except.bind]

theorem decodeRom_result : (decodeRom location command raw).result =
    .ok ⟨.rom, .bits32, false, raw.toUInt64 &&& ~~~0x7ff⟩ := by
  simp [decodeRom, Except.bind]

/-- What the register `raw` decodes to, by what stands at its offset. -/
def decoded (kind : BarKind) : Except Fault Bar :=
  match kind with
  | .memory => (upperHalf read offset raw).bind (memoryBar location offset bits raw)
  | .io => .ok ⟨.io, .bits32, false, raw.toUInt64 &&& ~~~3⟩
  | .rom => .ok ⟨.rom, .bits32, false, raw.toUInt64 &&& ~~~0x7ff⟩
  | .unknown => .ok unknown

theorem classify_result :
    (classify read location offset bits).result =
      (read Register.headerType .byte).bind fun register =>
      (read offset .long).bind fun raw =>
      (read Register.command .word).bind fun _ =>
        decoded read location offset bits raw
          (kindAt (Header.ofRegister register.toUInt8) offset raw) := by
  cases hregister : read Register.headerType .byte with
  | error e => simp [classify, hregister, Except.bind]
  | ok register =>
      cases hraw : read offset .long with
      | error e => simp [classify, hregister, hraw, Except.bind]
      | ok raw =>
          have hlast : ∀ command : UInt32,
              (match kindAt (Header.ofRegister register.toUInt8) offset raw with
              | .memory => decodeMemory read location offset bits command.toUInt16 raw
              | .io => decodeIo location command.toUInt16 raw
              | .rom => decodeRom location command.toUInt16 raw
              | .unknown => do
                  Logged.note .error "BAR type unknown, please report a bug"
                    [("bdf", location.short)]
                  return unknown).result =
              decoded read location offset bits raw
                (kindAt (Header.ofRegister register.toUInt8) offset raw) := by
            intro command
            cases kindAt (Header.ofRegister register.toUInt8) offset raw with
            | memory => exact decodeMemory_result _ _ _ _ _ _
            | io => exact decodeIo_result _ _ _
            | rom => exact decodeRom_result _ _ _
            | unknown => rfl
          cases hcommand : read Register.command .word with
          | error e =>
              simp only [classify, Logged.result_bind, Logged.result_ofExcept, hregister, hraw,
                hcommand, Except.bind, Logged.result_note]
              split <;> simp [Except.bind]
          | ok command =>
              simp only [classify, Logged.result_bind, Logged.result_ofExcept, hregister, hraw,
                hcommand, Except.bind, Logged.result_note]
              split <;> exact hlast command

end PciBus.Bar

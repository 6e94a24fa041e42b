import ConsoleBus.Hardware
import ConsoleBus.Timing

/-!
# Registers with fixed answers

A register file without any transceiver behind it. What is written to the control register is read
back just so; everything else that is written goes nowhere. The other registers answer from lists
that were made up beforehand. When those run out, the status shows a received byte at every other
read, data are zeroes, and no interrupt is seen.
-/

namespace ConsoleBus

/-- A register file that answers from lists. -/
structure RegisterFile where
  /-- The time on the clock, in nanoseconds. -/
  now : Nat
  /-- The control register, as it was last written. -/
  control : Control
  /-- The answers to the next reads of the status. -/
  statuses : List Status
  /-- Whether the status shows a received byte at the next read after those. -/
  receiving : Bool
  /-- The answers to the next reads of the data register. -/
  bytes : List UInt8
  /-- The answers to the next reads of the interrupt. -/
  interrupts : List Bool
  deriving DecidableEq

namespace RegisterFile

/-- The status once the answers have run out. -/
def idleStatus (receiving : Bool) : Status :=
  let status := Status.sendReady.union Status.sendIdle
  if receiving then status.union Status.received else status

/-- Carry out one register access. -/
def access : (a : Access) → RegisterFile → a.Answer × RegisterFile
  | .readControl, s => (s.control, s)
  | .writeControl value, s => ((), { s with control := value })
  | .readStatus, s =>
    match s.statuses with
    | status :: statuses => (status, { s with statuses })
    | [] => (idleStatus s.receiving, { s with receiving := !s.receiving })
  | .readData, s => (s.bytes.headD 0, { s with bytes := s.bytes.tail })
  | .readInterrupt, s => (s.interrupts.headD false, { s with interrupts := s.interrupts.tail })
  | .writeMode _, s | .writeBaud _, s | .writeData _, s | .clearInterrupt, s => ((), s)

/-- Let a number of nanoseconds pass. -/
def pass (s : RegisterFile) (nanos : Nat) : RegisterFile := { s with now := s.now + nanos }

instance : Hardware RegisterFile where
  access := access
  sleep micros s := s.pass (Delay.mk micros .micros).inNanos
  patience s := s.statuses.length + 2

end RegisterFile

end ConsoleBus

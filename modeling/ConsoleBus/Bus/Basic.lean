import ConsoleBus.Config
import ConsoleBus.Hardware

/-!
# Routines of the bus

A `Bus σ α` is a routine that drives hardware in a state of type `σ` under a configuration and
ends with an `α`, or that gives no result because the hardware kept it waiting beyond its
patience. Every routine is put together from the ones below: single register accesses, the
read-modify-write of the control register, and waiting.
-/

namespace ConsoleBus

/-- A routine over hardware with states in `σ`. -/
abbrev Bus (σ : Type) : Type → Type := ReaderT Config (StateT σ Option)

namespace Bus

variable {σ : Type} [Hardware σ]

/-- A single register access. -/
def access (a : Access) : Bus σ a.Answer := fun _ s => some (Hardware.access a s)

/-- Let a number of microseconds pass. -/
def sleep (micros : Nat) : Bus σ Unit := fun _ s => some ((), Hardware.sleep micros s)

/-- Wait for a configured length of time. -/
def hold (micros : Nat) : Bus σ Unit := sleep (clampMicros micros)

/-- Read the control register and write it back changed. -/
def modifyControl (change : Control → Control) : Bus σ Unit := do
  let control ← access .readControl
  access (.writeControl (change control))

/-- Reset the transceiver and set it up for pads and memory cards: eight data bits at the
configured bit rate, with acknowledge pulses forwarded to the interrupt controller. It may be done
again at any time. -/
def setUp : Bus σ Unit := do
  let config ← read
  access (.writeControl Control.reset)
  access (.writeMode (Mode.factorOne.union Mode.eightBits))
  access (.writeBaud (UInt16.ofNat config.divisor))
  access (.writeControl Control.enabled)

end Bus

end ConsoleBus

import ConsoleBus.Register

/-!
# Hardware

The bus reaches the outside world by register accesses and by letting time pass. `Hardware` is
whatever can do both. Nothing more is asked of it: its answers may be anything. `Traced` wraps
hardware so that everything asked of it is written down together with the answers.
-/

namespace ConsoleBus

/-- A type whose values are states of something with the transceiver's registers, in which time
passes. -/
class Hardware (σ : Type) where
  /-- Carry out one register access. -/
  access : (a : Access) → σ → a.Answer × σ
  /-- Let a number of microseconds pass. -/
  sleep : Nat → σ → σ
  /-- How many status reads may be spent on one wait for the transceiver. A wait that needs more
  is given up, and so is all that would have followed it. -/
  patience : σ → Nat

/-- One thing asked of hardware. -/
inductive Occurrence where
  /-- A register access and what it gave back. -/
  | access (a : Access) (answer : a.Answer)
  /-- A number of microseconds that were let pass. -/
  | sleep (micros : Nat)

/-- Hardware together with all that has been asked of it. -/
structure Traced (σ : Type) where
  /-- The hardware itself. -/
  hardware : σ
  /-- What was asked of it, oldest first. -/
  trace : Array Occurrence

instance {σ : Type} [Hardware σ] : Hardware (Traced σ) where
  access a s :=
    let (answer, hardware) := Hardware.access a s.hardware
    (answer, ⟨hardware, s.trace.push (.access a answer)⟩)
  sleep micros s := ⟨Hardware.sleep micros s.hardware, s.trace.push (.sleep micros)⟩
  patience s := Hardware.patience s.hardware

end ConsoleBus

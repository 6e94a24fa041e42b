import ConsoleBus.Timing

/-!
# Bus configuration

The clock that the bit rate is derived from, and the lengths of time that a packet is made of. The
defaults are what the console itself uses.
-/

namespace ConsoleBus

/-- How the bus is driven. All lengths of time are in microseconds. -/
structure Config where
  /-- The clock, in hertz, that is divided down to the bit rate. -/
  systemClock : Nat := 33868800
  /-- The bit rate, in bits per second. -/
  baudRate : Nat := 250000
  /-- The pause before attention is asserted, so that packets do not run into each other. -/
  preDelay : Nat := 10
  /-- How long attention is held before the address byte, and again after the last byte. -/
  attentionDelay : Nat := 150
  /-- The pause after attention is released. -/
  postDelay : Nat := 10
  /-- How long to wait for each acknowledge. -/
  acknowledgeTimeout : Nat := 120
  /-- How often to look for an acknowledge while waiting. -/
  pollInterval : Nat := 10
  /-- The gap after each byte of a packet that is sent without acknowledges. -/
  byteDelay : Nat := 30
  deriving DecidableEq, Repr, Inhabited

namespace Config

/-- The stock console. -/
def standard : Config := {}

/-- The stock console, with more patience for devices that are slow to acknowledge. -/
def relaxed : Config := { acknowledgeTimeout := 240 }

/-- The baud rate reload value: how often the bit rate goes into the clock, kept within what the
register holds and above zero. A bit rate of zero counts as one. -/
def divisor (config : Config) : Nat :=
  max 1 (min 65535 (config.systemClock / max config.baudRate 1))

/-- The reload value is positive and fits the register. -/
theorem divisor_mem (config : Config) : 1 ≤ config.divisor ∧ config.divisor ≤ 65535 := by
  unfold divisor; omega

/-- The acknowledge timeout as it is counted. -/
def timeout (config : Config) : Nat := clampMicros config.acknowledgeTimeout

/-- The time between two looks for an acknowledge. It is at least one microsecond, so that the
waiting comes to an end. -/
def pollStep (config : Config) : Nat := max (clampMicros config.pollInterval) 1

theorem pollStep_pos (config : Config) : 0 < config.pollStep := by
  unfold pollStep; omega

end Config

end ConsoleBus

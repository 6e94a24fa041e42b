/-!
# Lengths of time

Configured lengths of time are whole microseconds of any size. A delay routine takes a count of 32
bits, so a longer time is cut to the longest such count. Clocks count nanoseconds.
-/

namespace ConsoleBus

/-- The longest count of microseconds that a delay routine takes. -/
def longestDelay : Nat := 0xFFFFFFFF

/-- A length of time in microseconds as a delay routine takes it. -/
def clampMicros (micros : Nat) : Nat := min micros longestDelay

theorem clampMicros_le (micros : Nat) : clampMicros micros ≤ longestDelay := Nat.min_le_right ..

/-- A unit in which a delay is given. -/
inductive TimeUnit where
  | nanos
  | micros
  | millis
  deriving DecidableEq, Repr

/-- The number of nanoseconds in one unit. -/
def TimeUnit.inNanos : TimeUnit → Nat
  | .nanos => 1
  | .micros => 1000
  | .millis => 1000000

/-- A delay: a count of a unit. -/
structure Delay where
  /-- How many units. -/
  count : Nat
  /-- The unit. -/
  unit : TimeUnit
  deriving DecidableEq, Repr

namespace Delay

/-- The length of the delay in nanoseconds. -/
def inNanos (delay : Delay) : Nat := delay.count * delay.unit.inNanos

/-- The delay for a configured length of time. -/
def ofMicros (micros : Nat) : Delay := ⟨clampMicros micros, .micros⟩

end Delay

/-- A clock and the moment since which its time is told, both in nanoseconds. -/
structure Stopwatch where
  /-- The moment the watch was started. -/
  start : Nat
  /-- The moment it shows now. -/
  now : Nat
  deriving DecidableEq, Repr

namespace Stopwatch

/-- A watch started at the given moment. -/
def startAt (moment : Nat) : Stopwatch := ⟨moment, moment⟩

/-- The watch after a delay. -/
def wait (watch : Stopwatch) (delay : Delay) : Stopwatch :=
  { watch with now := watch.now + delay.inNanos }

/-- Whole microseconds since the start. -/
def elapsedMicros (watch : Stopwatch) : Nat := (watch.now - watch.start) / 1000

end Stopwatch

end ConsoleBus

import ConsoleBus.Bounded
import ConsoleBus.Device
import ConsoleBus.Register
import ConsoleBus.Simulator.EventLog

/-!
# A simulated transceiver

A transceiver with two ports and a simulated device in each of them, or none. It has a clock of
its own, on which an acknowledge pulse comes due some time after the byte it belongs to.

A pulse raises the interrupt only if interrupts are enabled and the latch has been armed since the
last pulse. It does so at the first access after it comes due, even if attention has been released
by then. Whoever does not arm the latch again misses every pulse but the first, and whoever does
not clear an old interrupt takes it for the answer to a later byte.
-/

namespace ConsoleBus

/-- How far the packet on the wire has come. -/
inductive Stage where
  /-- There is no packet. -/
  | idle
  /-- The next byte is an address. -/
  | addressing
  /-- A device answers, and its next byte has this place in the packet. -/
  | answering (index : Nat)
  /-- No device answers. -/
  | unheard
  deriving DecidableEq, Repr

/-- The state of a simulated transceiver. -/
structure Simulator where
  /-- The time on the clock, in nanoseconds. -/
  now : Nat
  /-- The control register, without its strobes. -/
  control : Control
  /-- The mode register. -/
  mode : Mode
  /-- The baud rate reload value. -/
  baud : UInt16
  /-- The received bytes that wait to be read, oldest first. -/
  received : List UInt8
  /-- Whether the interrupt is raised. -/
  interrupt : Bool
  /-- Whether a pulse has been seen since the latch was last armed. -/
  latched : Bool
  /-- When the next acknowledge pulse comes due, if one is on its way. -/
  pulse : Option Nat
  /-- How long after a byte its acknowledge pulse comes due, in nanoseconds. -/
  latency : Nat
  /-- How far the packet on the wire has come. -/
  stage : Stage
  /-- What is plugged in. -/
  devices : PerPort (Option Device)
  /-- What happened on the wire. -/
  log : EventLog
  /-- How often the interrupt has been read since the log was cleared. -/
  interruptReads : Nat
  deriving DecidableEq

namespace Simulator

/-- The number of received bytes there is room for. -/
def receiveCapacity : Nat := 8

/-- A transceiver that has just been switched on, at the given time and with the given devices. -/
def switchedOn (now : Nat) (devices : PerPort (Option Device)) (latency : Nat) : Simulator where
  now := now
  control := Flags.empty
  mode := Flags.empty
  baud := 0
  received := []
  interrupt := false
  latched := false
  pulse := none
  latency := latency
  stage := .idle
  devices := devices
  log := .empty
  interruptReads := 0

variable (s : Simulator)

/-- The port that attention is routed to. -/
def port : Port := if s.control.contains Control.secondPort then .two else .one

/-- Whether attention is asserted. -/
def attention : Bool := s.control.contains Control.attention

/-- Write an event down. -/
def record (event : Event) : Simulator := { s with log := s.log.record event }

/-- The state with the device on a port changed or replaced. -/
def setDevice (port : Port) (device : Option Device) : Simulator :=
  { s with devices := s.devices.set port device }

/-- An acknowledge pulse sets out. One that was on its way before is lost. -/
def schedulePulse : Simulator := { s with pulse := some (s.now + s.latency) }

/-- The pulse that is on its way arrives, if it is due. It raises the interrupt if interrupts are
enabled and the latch is armed. -/
def deliverPulse : Simulator :=
  match s.pulse with
  | none => s
  | some due =>
    if s.now < due then s
    else if s.control.contains Control.interruptEnable && !s.latched then
      { s with pulse := none, latched := true, interrupt := true }
    else
      { s with pulse := none }

/-- The transceiver after its reset. What is plugged in notices nothing. -/
def reset : Simulator :=
  { s with
    control := Flags.empty
    received := []
    interrupt := false
    latched := false
    pulse := none
    stage := .idle }.record .reset

end Simulator

end ConsoleBus

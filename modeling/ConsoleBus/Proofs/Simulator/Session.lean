import ConsoleBus.Command
import ConsoleBus.Bus.Exchange
import ConsoleBus.Simulator.Handling

/-!
# Sessions with a simulated transceiver

In a session the bus is set up, waits and carries out commands, in any order and as often as one
likes, and in between somebody handles the simulated transceiver and what is plugged into it.
-/

namespace ConsoleBus

/-- Something done to a simulated transceiver from outside. -/
inductive Handling where
  /-- Replace what is plugged into a port. -/
  | plug (port : Port) (device : Option Device)
  /-- Press other buttons on the pad in a port, if there is one. -/
  | press (port : Port) (buttons : Buttons)
  | setLatency (delay : Delay)
  | pass (nanos : Nat)
  | clearLog
  deriving DecidableEq

namespace Handling

/-- The transceiver afterwards. -/
def apply : Handling → Simulator → Simulator
  | plug port device, s => s.setDevice port device
  | press port buttons, s => (s.press? port buttons).getD s
  | setLatency delay, s => s.setLatency delay
  | pass nanos, s => s.pass nanos
  | clearLog, s => s.clearLog

/-- What is plugged in afterwards. -/
def devices : Handling → PerPort (Option Device) → PerPort (Option Device)
  | plug port device, devices => devices.set port device
  | press port buttons, devices =>
    match (devices.get port).bind fun device => device.press? buttons with
    | some device => devices.set port (some device)
    | none => devices
  | setLatency _, devices | pass _, devices | clearLog, devices => devices

/-- Buttons are pressed by replacing a pad with itself, with other buttons. -/
theorem apply_press (port : Port) (buttons : Buttons) (s : Simulator) :
    (press port buttons).apply s =
      match (s.devices.get port).bind fun device => device.press? buttons with
      | some device => s.setDevice port (some device)
      | none => s := by
  show (s.press? port buttons).getD s = _
  unfold Simulator.press?
  cases s.devices.get port with
  | none => rfl
  | some device =>
    simp only [Option.bind_eq_bind, Option.bind_some]
    cases device.press? buttons <;> rfl

/-- Nothing but a device is changed by pressing buttons. -/
theorem apply_press_eq (port : Port) (buttons : Buttons) (s : Simulator) :
    (press port buttons).apply s = { s with devices := (press port buttons).devices s.devices } := by
  rw [apply_press]
  unfold devices
  dsimp only
  split <;> rfl

variable (handling : Handling) (s : Simulator)

theorem apply_devices : (handling.apply s).devices = handling.devices s.devices := by
  cases handling with
  | press port buttons => rw [apply_press_eq]
  | plug | setLatency | pass | clearLog => rfl

/-- Nobody outside can do anything to the registers or to a packet on its way. -/
theorem apply_frame : (handling.apply s).control = s.control ∧
    (handling.apply s).stage = s.stage ∧ (handling.apply s).pulse = s.pulse ∧
    s.now ≤ (handling.apply s).now := by
  cases handling with
  | press port buttons =>
    rw [apply_press_eq]
    exact ⟨rfl, rfl, rfl, Nat.le_refl _⟩
  | pass nanos => exact ⟨rfl, rfl, rfl, Nat.le_add_right _ _⟩
  | plug | setLatency | clearLog => exact ⟨rfl, rfl, rfl, Nat.le_refl _⟩

theorem apply_latency (h : ∀ delay, handling ≠ .setLatency delay) :
    (handling.apply s).latency = s.latency := by
  cases handling with
  | press port buttons => rw [apply_press_eq]
  | setLatency delay => exact absurd rfl (h delay)
  | plug | pass | clearLog => rfl

/-- The log may be cleared, but nothing is ever added to it from outside. -/
theorem apply_log (h : handling ≠ .clearLog) : (handling.apply s).log = s.log := by
  cases handling with
  | press port buttons => rw [apply_press_eq]
  | clearLog => exact absurd rfl h
  | plug | setLatency | pass => rfl

end Handling

/-- One step of a session. -/
inductive Action where
  | setUp
  /-- Wait for an acknowledge, at most for a number of microseconds. -/
  | wait (timeout : Nat)
  | command (command : Command)
  | handle (handling : Handling)
  deriving DecidableEq

end ConsoleBus

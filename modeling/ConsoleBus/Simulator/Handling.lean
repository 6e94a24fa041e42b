import ConsoleBus.Simulator.Access

/-!
# Handling the simulated transceiver

What somebody may do to a simulated transceiver from outside, without going through its registers:
plug devices in and out, press buttons, make devices slow, let time pass and clear the log.
-/

namespace ConsoleBus.Simulator

/-- Press other buttons on the pad in a port, if there is one. -/
def press? (s : Simulator) (port : Port) (buttons : Buttons) : Option Simulator := do
  let device ← s.devices.get port
  let device ← device.press? buttons
  return s.setDevice port (some device)

/-- Set how long after a byte its acknowledge pulse comes due. Pulses on their way keep their
time. -/
def setLatency (s : Simulator) (delay : Delay) : Simulator := { s with latency := delay.inNanos }

/-- Forget all that was logged, and how often the interrupt was read. -/
def clearLog (s : Simulator) : Simulator := { s with log := .empty, interruptReads := 0 }

end ConsoleBus.Simulator

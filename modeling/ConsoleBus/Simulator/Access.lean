import ConsoleBus.Hardware
import ConsoleBus.Simulator.State
import ConsoleBus.Timing

/-!
# Register accesses of the simulated transceiver

Every access but a write of the mode or the baud rate lets a pulse that is due arrive first.
Attention frames the packets: the first byte after it is asserted is an address, the device with
that address hears the rest, and is told of the end once attention is released.
-/

namespace ConsoleBus.Simulator

/-- A byte goes out on the selected port: the byte that comes in for it, and the state once the
packet has moved on. -/
def clockByte (s : Simulator) (sent : UInt8) : UInt8 × Simulator :=
  if !s.attention then (0xFF, s) else
  match s.stage, s.devices.get s.port with
  | .addressing, some device =>
    if device.address.byte = sent then
      (0xFF, ({ s with stage := .answering 0 }.setDevice s.port device.start).schedulePulse)
    else
      (0xFF, { s with stage := .unheard })
  | .addressing, none => (0xFF, { s with stage := .unheard })
  | .answering index, some device =>
    let (answer, device) := device.exchange index sent
    let s := { s with stage := .answering (index + 1) }.setDevice s.port device
    (answer.byte, if answer.acknowledged then s.schedulePulse else s)
  | .answering _, none | .idle, _ | .unheard, _ => (0xFF, s)

/-- Write the control register. A reset comes first, then the latch is armed, and then attention
may be asserted or released. The device on the port that attention was routed to is told of the
end of a packet it took part in. The two strobes are not kept. -/
def writeControl (s : Simulator) (value : Control) : Simulator :=
  let s := s.deliverPulse
  let s := if value.contains Control.reset then s.reset else s
  let s := if value.contains Control.acknowledge then { s with latched := false } else s
  let after := { s with control := (value.diff Control.acknowledge).diff Control.reset }
  if !s.attention && after.attention then
    { after with stage := .addressing }.record (.attention after.port true)
  else if s.attention && !after.attention then
    let after := match s.stage with
      | .answering _ => after.setDevice s.port ((s.devices.get s.port).map Device.finish)
      | _ => after
    { after with stage := .idle }.record (.attention s.port false)
  else
    after

/-- Read the status register. There is always room for a byte to send, and nothing left to send. -/
def readStatus (s : Simulator) : Status × Simulator :=
  let s := s.deliverPulse
  let status := Status.sendReady.union Status.sendIdle
  let status := if s.received.isEmpty then status else status.union Status.received
  (if s.interrupt then status.union Status.interrupt else status, s)

/-- Take the oldest received byte, or a zero if there is none. -/
def readData (s : Simulator) : UInt8 × Simulator :=
  let s := s.deliverPulse
  (s.received.headD 0, { s with received := s.received.tail })

/-- Send a byte. The byte that comes in is dropped if there is no room for it. -/
def writeData (s : Simulator) (sent : UInt8) : Simulator :=
  let s := s.deliverPulse
  let (received, after) := s.clockByte sent
  let after := { after with received := Bounded.push receiveCapacity after.received received }
  if s.attention then after.record (.byte s.port sent received) else after

/-- Carry out one register access. -/
def access : (a : Access) → Simulator → a.Answer × Simulator
  | .readControl, s => let s := s.deliverPulse; (s.control, s)
  | .writeControl value, s => ((), s.writeControl value)
  | .writeMode value, s => ((), { s with mode := value })
  | .writeBaud divisor, s => ((), { s with baud := divisor })
  | .readStatus, s => s.readStatus
  | .readData, s => s.readData
  | .writeData byte, s => ((), s.writeData byte)
  | .readInterrupt, s =>
    let s := { s with interruptReads := s.interruptReads + 1 }.deliverPulse
    (s.interrupt, s)
  | .clearInterrupt, s => ((), { s.deliverPulse with interrupt := false })

/-- Let a number of nanoseconds pass. -/
def pass (s : Simulator) (nanos : Nat) : Simulator := { s with now := s.now + nanos }

instance : Hardware Simulator where
  access := access
  sleep micros s := s.pass (Delay.mk micros .micros).inNanos
  patience s := s.received.length + 1

end ConsoleBus.Simulator

import ConsoleBus.Packet
import ConsoleBus.Port

/-!
# Transports

The commands for pads and memory cards need little of what carries their packets: to route the
attention line to a port, to exchange a packet and to send one without waiting for an answer.
`Transport m` is that much, for actions in `m`. `Recorded m` is the same transport with every
call written down.
-/

namespace ConsoleBus

/-- What the commands need of whatever carries their packets. -/
class Transport (m : Type → Type) where
  /-- Route the attention line to a port for the packets that follow. -/
  selectPort : Port → m Unit
  /-- Send an address and a request, and collect the reply in a buffer. Of the reply, `count` is
  the number of bytes exchanged after the address, zero if nothing acknowledged the address. -/
  exchange : Address → (request buffer : List UInt8) → m Reply
  /-- Send an address and a request without waiting for any acknowledge. -/
  send : Address → (request : List UInt8) → m Unit

/-- One call of a transport. -/
inductive Call where
  | selectPort (port : Port)
  /-- An exchange with room for `capacity` bytes in its buffer. -/
  | exchange (address : Address) (request : List UInt8) (capacity : Nat)
  | send (address : Address) (request : List UInt8)
  deriving DecidableEq, Repr

/-- Actions over `m` that also keep a record of calls, oldest first. -/
abbrev Recorded (m : Type → Type) : Type → Type := StateT (Array Call) m

namespace Recorded

variable {m : Type → Type} [Monad m]

/-- Write a call down. -/
def note (call : Call) : Recorded m Unit := modify fun calls => calls.push call

instance [Transport m] : Transport (Recorded m) where
  selectPort port := do
    note (.selectPort port)
    (Transport.selectPort port : m Unit)
  exchange address request buffer := do
    note (.exchange address request buffer.length)
    (Transport.exchange address request buffer : m Reply)
  send address request := do
    note (.send address request)
    (Transport.send address request : m Unit)

end Recorded

end ConsoleBus

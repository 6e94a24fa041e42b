import ConsoleBus.Card.GameId
import ConsoleBus.Card.Probe
import ConsoleBus.Pad

/-!
# Commands

All that can be asked of a transport, as data: the packets themselves and the commands for pads
and memory cards. `Command.run` carries one out and tells its `Outcome`.
-/

namespace ConsoleBus

/-- Something to ask of the bus. -/
inductive Command where
  /-- Route the attention line to a port. -/
  | selectPort (port : Port)
  /-- Exchange a packet, with a buffer that holds the given bytes at first. -/
  | exchange (address : Address) (request buffer : List UInt8)
  /-- Send a packet without waiting for acknowledges. -/
  | send (address : Address) (request : List UInt8)
  /-- Poll a pad for its buttons. -/
  | readButtons (port : Port)
  /-- Poll a pad for all it tells. -/
  | readPad (port : Port)
  /-- Ask the card on a port whether it understands game identifiers. -/
  | probe (port : Port)
  /-- Ask the cards on both ports. -/
  | presence
  /-- Tell the cards on a set of ports which game is running. -/
  | broadcast (gameId : String) (ports : PortMask)
  /-- Ask the cards on both ports, and tell those that understand which game is running. -/
  | announce (gameId : String)
  deriving DecidableEq

/-- What came of a command. -/
inductive Outcome where
  | done
  | reply (reply : Reply)
  | buttons (buttons : Buttons)
  | pad (state : PadState)
  | ports (mask : PortMask)
  | failed (error : CommandError)
  deriving DecidableEq

/-- The outcome of a command that may fail: `outcome` of its result, or the error. -/
def Outcome.ofExcept {α : Type} (outcome : α → Outcome) : Except CommandError α → Outcome
  | .ok result => outcome result
  | .error error => .failed error

namespace Command

variable {m : Type → Type} [Monad m] [Transport m]

/-- Carry out a command. -/
def run : Command → m Outcome
  | .selectPort port => do
    Transport.selectPort port
    return .done
  | .exchange address request buffer => return .reply (← Transport.exchange address request buffer)
  | .send address request => do
    Transport.send address request
    return .done
  | .readButtons port => return .buttons (← Pad.readButtons port)
  | .readPad port => return Outcome.ofExcept .pad (← Pad.read port)
  | .probe port => return Outcome.ofExcept (fun _ => .done) (← Card.probe port)
  | .presence => return .ports (← Card.presence)
  | .broadcast gameId ports =>
    return Outcome.ofExcept (fun _ => .done) (← Card.GameId.broadcast gameId ports)
  | .announce gameId => do
    let ports ← Card.presence
    return Outcome.ofExcept (fun _ => .done) (← Card.GameId.broadcast gameId ports)

end Command

end ConsoleBus

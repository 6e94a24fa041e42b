import ConsoleBus.Transport

/-!
# Looking for memory cards that understand game identifiers

Some memory cards remember which game is running. They answer a ping with two marker bytes; a
stock card does not know the ping and gives up after its first byte.
-/

namespace ConsoleBus.Card

/-- The ping: the request and a zero for each further byte of the reply. -/
def ping : List UInt8 := [Request.gameIdPing.byte, 0, 0, 0, 0]

/-- The third and the fourth byte of the answer to a ping. -/
def pingMarkers : List UInt8 := [0x27, 0xFF]

/-- Whether a reply comes from a card that understands game identifiers: it has the length of the
ping and its markers in the middle. -/
def checkPing (reply : Reply) : Except CommandError Unit :=
  match reply.received with
  | [] => .error .noDevice
  | [_, _, first, second, _] =>
    if [first, second] = pingMarkers then .ok () else .error .malformedReply
  | _ => .error .malformedReply

variable {m : Type → Type} [Monad m] [Transport m]

/-- Ping the memory card on a port. -/
def probe (port : Port) : m (Except CommandError Unit) := do
  Transport.selectPort port
  let reply ← Transport.exchange .memoryCard ping (List.replicate ping.length 0)
  return checkPing reply

/-- Ping the memory cards on the given ports in turn, and add the ports where the answer was good
to `found`. -/
def probeAll : List Port → (found : PortMask) → m PortMask
  | [], found => return found
  | port :: ports, found => do
    match ← probe port with
    | .ok () => probeAll ports (found.union port.mask)
    | .error _ => probeAll ports found

/-- The ports with a memory card that understands game identifiers. -/
def presence : m PortMask := probeAll Port.all Flags.empty

end ConsoleBus.Card

import ConsoleBus.Text
import ConsoleBus.Transport

/-!
# Telling memory cards which game is running

A game identifier is sent with a header of three bytes, the last of which counts the bytes that
follow, and a closing zero. Like a zero-terminated text, the identifier ends at its first NUL.
-/

namespace ConsoleBus.Card.GameId

/-- The number of bytes there is room for in a request. -/
def requestCapacity : Nat := 64

/-- The number of bytes before the identifier. -/
def headerLength : Nat := 3

/-- The number of bytes of the longest identifier that fits between header and closing zero. -/
def maxLength : Nat := requestCapacity - headerLength - 1

/-- The text before the first NUL. -/
def beforeNul (text : String) : String :=
  String.ofList (text.toList.takeWhile fun c => c != '\x00')

/-- The request that tells a card the identifier of the running game. -/
def request (gameId : String) : Except CommandError (List UInt8) :=
  let id := Text.bytes (beforeNul gameId)
  if id.length ≤ maxLength then
    .ok ([Request.gameIdSend.byte, 0, UInt8.ofNat (id.length + 1)] ++ id ++ [0])
  else
    .error .requestTooLarge

variable {m : Type → Type} [Monad m] [Transport m]

/-- Send a request to the memory card on each of the given ports, without waiting for answers. -/
def sendTo (request : List UInt8) (ports : List Port) : m Unit :=
  ports.forM fun port => do
    Transport.selectPort port
    Transport.send .memoryCard request

/-- Tell the memory cards on a set of ports which game is running. Whether a card heard it cannot
be told. An identifier that does not fit is refused before anything is sent. -/
def broadcast (gameId : String) (ports : PortMask) : m (Except CommandError Unit) :=
  match request gameId with
  | .error error => return .error error
  | .ok request => do
    sendTo request ports.ports
    return .ok ()

end ConsoleBus.Card.GameId

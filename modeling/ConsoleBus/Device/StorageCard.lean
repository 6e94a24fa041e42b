import ConsoleBus.Bounded
import ConsoleBus.Card.GameId
import ConsoleBus.Card.Probe
import ConsoleBus.Device.Basic

/-!
# Simulated memory cards

A stock card gives up on every packet after the first byte. A card that understands game
identifiers answers the ping, and takes whole packets that tell it which game is running: the
identifier is read from the request once the packet is over.
-/

namespace ConsoleBus.Device

/-- A memory card. -/
structure StorageCard where
  /-- Whether the card understands game identifiers. -/
  takesGameIds : Bool
  /-- The bytes of the packet so far, as many as fit in a request. -/
  request : List UInt8
  /-- The last game identifier that the card was told. -/
  gameId : Option String
  deriving DecidableEq

namespace StorageCard

/-- A card that has not been used. -/
def blank (takesGameIds : Bool) : StorageCard := ⟨takesGameIds, [], none⟩

/-- What a card sends back when it is pinged. -/
def pingReply : List UInt8 := [0x08, 0x00] ++ Card.pingMarkers ++ [0x00]

/-- What a card sends back when it does not understand a request. -/
def refusal : UInt8 := 0x08

/-- The start of a packet, with nothing received yet. -/
def start (card : StorageCard) : StorageCard := { card with request := [] }

/-- The card after a byte was received. -/
def receive (card : StorageCard) (sent : UInt8) : StorageCard :=
  { card with request := Bounded.push Card.GameId.requestCapacity card.request sent }

/-- The answer to the byte at `index` in a packet whose first byte is `first`. -/
def answer (card : StorageCard) (index : Nat) (first : UInt8) : Answer :=
  if !card.takesGameIds then
    .last refusal
  else if first = Request.gameIdPing.byte then
    ⟨pingReply.getD index 0, index + 1 < pingReply.length⟩
  else if first = Request.gameIdSend.byte then
    .more 0
  else
    .last refusal

/-- The identifier in a request, if it is a request to remember one: as many bytes after the header
as the request holds of those that its length byte announces, less the closing zero. Bytes that
are not well-formed text count as no text at all. -/
def announced? : List UInt8 → Option String
  | code :: _ :: length :: rest =>
    if code = Request.gameIdSend.byte then
      some ((Text.ofBytes? (rest.take (length.toNat - 1))).getD "")
    else
      none
  | _ => none

/-- The end of a packet: the card remembers the identifier it was told, if any. -/
def finish (card : StorageCard) : StorageCard :=
  if card.takesGameIds then
    { card with gameId := (announced? card.request).or card.gameId }
  else
    card

end StorageCard

end ConsoleBus.Device

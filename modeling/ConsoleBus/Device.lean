import ConsoleBus.Device.Gamepad
import ConsoleBus.Device.Script
import ConsoleBus.Device.StorageCard

/-!
# Simulated devices

What can be plugged into a port. A device takes part in packets for its own address only: it is
told of the start of such a packet, answers its bytes one by one, and is told of the end.
-/

namespace ConsoleBus

/-- A device that can be plugged into a port. -/
inductive Device where
  | gamepad (pad : Device.Gamepad)
  | storageCard (card : Device.StorageCard)
  | script (script : Device.Script)
  deriving DecidableEq

namespace Device

/-- The address the device listens for. -/
def address : Device → Address
  | gamepad _ => .controller
  | storageCard _ => .memoryCard
  | script s => s.address

/-- The device at the start of a packet. -/
def start : Device → Device
  | gamepad pad => gamepad pad
  | storageCard card => storageCard card.start
  | script s => script s.start

/-- The answer to the byte at `index` after the address, and the device after it. -/
def exchange (device : Device) (index : Nat) (sent : UInt8) : Answer × Device :=
  match device with
  | gamepad pad => (pad.answer index sent, gamepad pad)
  | storageCard card =>
    (card.answer index (card.request.headD sent), storageCard (card.receive sent))
  | script s => (s.answer index, script (s.receive sent))

/-- The device at the end of a packet. -/
def finish : Device → Device
  | storageCard card => storageCard card.finish
  | device => device

/-- The answers to bytes of a packet from `index` on, and the device after them. -/
def exchangeFrom (device : Device) (index : Nat) : List UInt8 → List Answer × Device
  | [] => ([], device)
  | byte :: bytes =>
    let (answer, device) := device.exchange index byte
    let (answers, device) := device.exchangeFrom (index + 1) bytes
    (answer :: answers, device)

/-- A whole packet of the given bytes: the answers, and the device at its end. -/
def packet (device : Device) (bytes : List UInt8) : List Answer × Device :=
  let (answers, device) := device.start.exchangeFrom 0 bytes
  (answers, device.finish)

/-- The device with other buttons pressed, if it has buttons. -/
def press? (device : Device) (buttons : Buttons) : Option Device :=
  match device with
  | gamepad pad => some (gamepad { pad with buttons })
  | storageCard _ | script _ => none

end Device

end ConsoleBus

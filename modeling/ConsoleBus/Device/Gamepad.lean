import ConsoleBus.Device.Basic
import ConsoleBus.Pad

/-!
# Simulated pads

A pad without sticks answers a poll with four bytes, one with sticks with eight. It keeps nothing
between bytes: what it answers depends on the place of the byte in the packet alone, but for the
first byte, which must ask for a poll.
-/

namespace ConsoleBus.Device

/-- A pad, with or without sticks. -/
structure Gamepad where
  /-- The pressed buttons. -/
  buttons : Buttons
  /-- Where the sticks point, if the pad has any. -/
  axes : Option Axes
  deriving DecidableEq

namespace Gamepad

/-- The first byte of the pad's reply: its kind and the number of byte pairs it sends. -/
def kind (pad : Gamepad) : UInt8 := if pad.axes.isSome then 0x73 else 0x41

/-- The bytes that the pad answers to a poll. -/
def pollReply (pad : Gamepad) : List UInt8 :=
  [pad.kind, Pad.marker, pad.buttons.lowByte, pad.buttons.highByte] ++
    (pad.axes.map Axes.toList).getD []

/-- The answer to the byte at `index` after the address. All bytes of the reply but the last are
acknowledged. -/
def answer (pad : Gamepad) (index : Nat) (sent : UInt8) : Answer :=
  if index = 0 ∧ sent ≠ Request.poll.byte then
    .last 0xFF
  else match pad.pollReply[index]? with
    | some byte => ⟨byte, index + 1 < pad.pollReply.length⟩
    | none => .last 0xFF

end Gamepad

end ConsoleBus.Device

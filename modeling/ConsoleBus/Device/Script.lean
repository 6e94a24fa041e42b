import ConsoleBus.Bounded
import ConsoleBus.Device.Basic

/-!
# Devices that follow a script

A scripted device answers with fixed bytes whatever it is asked, which serves to try out the
exchange of packets.
-/

namespace ConsoleBus.Device

/-- A device with fixed answers. -/
structure Script where
  /-- The address it listens for. -/
  address : Address
  /-- The bytes it answers. After them it answers zeroes. -/
  replies : List UInt8
  /-- The number of bytes that it acknowledges. -/
  acknowledgements : Nat
  /-- The bytes received in the last packet, as far as they fit. -/
  received : List UInt8
  deriving DecidableEq

namespace Script

/-- The number of bytes a script holds, and the number of received bytes it keeps. -/
def capacity : Nat := 64

/-- A device with the given answers, as many of them as fit. -/
def make (address : Address) (replies : List UInt8) (acknowledgements : Nat) : Script :=
  ⟨address, replies.take capacity, acknowledgements, []⟩

/-- The start of a packet, with nothing received yet. -/
def start (script : Script) : Script := { script with received := [] }

/-- The device after a byte was received. -/
def receive (script : Script) (sent : UInt8) : Script :=
  { script with received := Bounded.push capacity script.received sent }

/-- The answer to the byte at `index` in a packet. -/
def answer (script : Script) (index : Nat) : Answer :=
  ⟨script.replies.getD index 0, index < script.acknowledgements⟩

end Script

end ConsoleBus.Device

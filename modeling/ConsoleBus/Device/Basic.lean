import ConsoleBus.Packet

/-!
# Answers of a device

A device sees the bytes of a packet after the address one at a time. It answers each with a byte,
and acknowledges it if it has more to say.
-/

namespace ConsoleBus.Device

/-- What a device answers to one byte. -/
structure Answer where
  /-- The byte that goes back to the console. -/
  byte : UInt8
  /-- Whether the device acknowledges, because there is more to come. -/
  acknowledged : Bool
  deriving DecidableEq, Repr

namespace Answer

/-- An answer that is acknowledged. -/
def more (byte : UInt8) : Answer := ⟨byte, true⟩

/-- An answer after which the device is silent. -/
def last (byte : UInt8) : Answer := ⟨byte, false⟩

end Answer

end ConsoleBus.Device

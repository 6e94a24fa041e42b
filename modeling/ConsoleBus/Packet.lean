/-!
# Packets

A packet opens with an address byte, which picks the class of device that should answer. Then the
console sends request bytes while reply bytes come in at the same time, one for one.
-/

namespace ConsoleBus

/-- The class of device a packet is for. Pads and memory cards share the bus, and each listens
only for its own address. -/
inductive Address where
  /-- Pads, mice, light guns and the like. -/
  | controller
  /-- Memory cards and devices that act as one. -/
  | memoryCard
  deriving DecidableEq, Repr

/-- The address as it is sent. -/
def Address.byte : Address → UInt8
  | .controller => 0x01
  | .memoryCard => 0x81

/-- What a request asks for: the first byte after the address. -/
inductive Request where
  /-- Set up the pressure sensors of a pad in configuration mode. -/
  | initPressure
  /-- Read the state of a pad. -/
  | poll
  /-- Enter or leave configuration mode. -/
  | configMode
  /-- Set the analog mode and its light. -/
  | setAnalog
  /-- Get the analog mode and its light. -/
  | getAnalog
  /-- Get information about a motor. -/
  | getMotorInfo
  /-- Get the list of all motors. -/
  | getMotorList
  /-- Get the current state of the vibration motors. -/
  | getMotorState
  /-- Get the list of all supported modes. -/
  | getMode
  /-- Configure the format of poll requests. -/
  | requestConfig
  /-- Configure the format of poll replies. -/
  | responseConfig
  /-- Read a sector of 128 bytes from a memory card. -/
  | cardRead
  /-- Ask for the size of a memory card. -/
  | cardIdentify
  /-- Write a sector of 128 bytes to a memory card. -/
  | cardWrite
  /-- Ask whether a memory card understands game identifiers. -/
  | gameIdPing
  /-- Tell a memory card the identifier of the running game. -/
  | gameIdSend
  deriving DecidableEq, Repr

/-- The request code as it is sent. -/
def Request.byte : Request → UInt8
  | .initPressure => 0x40
  | .poll => 0x42
  | .configMode => 0x43
  | .setAnalog => 0x44
  | .getAnalog => 0x45
  | .getMotorInfo => 0x46
  | .getMotorList => 0x47
  | .getMotorState => 0x48
  | .getMode => 0x4C
  | .requestConfig => 0x4D
  | .responseConfig => 0x4F
  | .cardRead => 0x52
  | .cardIdentify => 0x53
  | .cardWrite => 0x57
  | .gameIdPing => 0x20
  | .gameIdSend => 0x21

/-- What an exchange leaves behind: a buffer of which the first `count` bytes were received.
The rest of the buffer is what it held before. -/
structure Reply where
  /-- The number of bytes received. -/
  count : Nat
  /-- The whole buffer, received bytes first. -/
  buffer : List UInt8
  deriving DecidableEq, Repr

/-- The bytes that were received. -/
def Reply.received (reply : Reply) : List UInt8 := reply.buffer.take reply.count

end ConsoleBus

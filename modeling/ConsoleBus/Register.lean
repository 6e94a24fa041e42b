import ConsoleBus.Flags

/-!
# The transceiver's registers

The console talks to its pads and memory cards through a serial transceiver with a control, a
mode, a baud rate, a status and a data register. Beside them stands one bit of the interrupt
controller, which the transceiver raises when a device acknowledges a byte. `Access` lists what
can be done with them; `Access.Answer` is what each access gives back.
-/

namespace ConsoleBus

/-- The layout of the control register. -/
abbrev Control.layout : Layout where
  title := "Control"
  width := 16
  flags := [⟨"TX_ENABLE", 0x0001⟩, ⟨"DTR", 0x0002⟩, ⟨"RX_ENABLE", 0x0004⟩,
    ⟨"ACKNOWLEDGE", 0x0010⟩, ⟨"RESET", 0x0040⟩, ⟨"DSR_IRQ_ENABLE", 0x1000⟩,
    ⟨"CS_PORT_2", 0x2000⟩]

/-- A value of the control register. -/
abbrev Control := Flags Control.layout

namespace Control

/-- Allows the transceiver to send. -/
def sendEnable : Control := ⟨0x0001⟩

/-- Asserts the attention line of the selected port. A packet lasts as long as it is asserted. -/
def attention : Control := ⟨0x0002⟩

/-- Lets the transceiver receive even without attention. -/
def receiveEnable : Control := ⟨0x0004⟩

/-- A strobe that arms the transceiver for the next acknowledge pulse. -/
def acknowledge : Control := ⟨0x0010⟩

/-- A strobe that resets the transceiver. -/
def reset : Control := ⟨0x0040⟩

/-- Forwards acknowledge pulses to the interrupt controller. -/
def interruptEnable : Control := ⟨0x1000⟩

/-- Routes the attention line to the second port instead of the first. -/
def secondPort : Control := ⟨0x2000⟩

/-- Sending, receiving and interrupts are enabled and nothing else is set. -/
def enabled : Control := (sendEnable.union receiveEnable).union interruptEnable

end Control

/-- The layout of the mode register. -/
abbrev Mode.layout : Layout where
  title := "Mode"
  width := 16
  flags := [⟨"BAUD_DIV1", 0x0001⟩, ⟨"BAUD_DIV16", 0x0002⟩, ⟨"DATA_8", 0x000C⟩]

/-- A value of the mode register. -/
abbrev Mode := Flags Mode.layout

namespace Mode

/-- The baud rate is counted down without a further factor. -/
def factorOne : Mode := ⟨0x0001⟩

/-- Characters have eight bits. This field spans two bits, both set. -/
def eightBits : Mode := ⟨0x000C⟩

end Mode

/-- The layout of the status register. -/
abbrev Status.layout : Layout where
  title := "Status"
  width := 32
  flags := [⟨"TX_NOT_FULL", 0x0001⟩, ⟨"RX_NOT_EMPTY", 0x0002⟩, ⟨"TX_IDLE", 0x0004⟩,
    ⟨"DSR", 0x0080⟩, ⟨"IRQ", 0x0200⟩]

/-- A value of the status register. -/
abbrev Status := Flags Status.layout

namespace Status

/-- There is room for another byte to send. -/
def sendReady : Status := ⟨0x0001⟩

/-- A received byte waits to be read. -/
def received : Status := ⟨0x0002⟩

/-- Nothing is left to send. -/
def sendIdle : Status := ⟨0x0004⟩

/-- An interrupt is requested. -/
def interrupt : Status := ⟨0x0200⟩

end Status

/-- The bit of the interrupt controller that an acknowledge pulse raises. -/
def acknowledgeInterrupt : Nat := 7

/-- One access to the transceiver, or to its bit of the interrupt controller. -/
inductive Access where
  | readControl
  | writeControl (value : Control)
  | writeMode (value : Mode)
  | writeBaud (divisor : UInt16)
  | readStatus
  /-- Take the oldest received byte. -/
  | readData
  /-- Hand over a byte to send. -/
  | writeData (byte : UInt8)
  /-- Ask whether a pulse was seen since the interrupt was last cleared. -/
  | readInterrupt
  | clearInterrupt
  deriving DecidableEq

/-- The type of what an access gives back. -/
abbrev Access.Answer : Access → Type
  | .readControl => Control
  | .readStatus => Status
  | .readData => UInt8
  | .readInterrupt => Bool
  | .writeControl _ | .writeMode _ | .writeBaud _ | .writeData _ | .clearInterrupt => Unit

end ConsoleBus

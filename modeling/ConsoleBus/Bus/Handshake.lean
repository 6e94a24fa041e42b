import ConsoleBus.Bus.Basic

/-!
# The acknowledge handshake

A device answers each byte it has more to say after with a pulse that raises an interrupt.
`waitAcknowledge` looks for it a bounded number of times. `exchangeByte` and `drain` wait for the
transceiver itself, which needs no more than the time of a byte; how many looks that may take is
up to the hardware's patience.
-/

namespace ConsoleBus.Bus

variable {σ : Type} [Hardware σ]

/-- Look for an acknowledge at every poll step until `remaining` microseconds are used up. Once one
is seen, both the interrupt and the transceiver's latch are cleared, so that the next pulse can be
seen too. -/
def lookForAcknowledge (config : Config) (remaining : Nat) : Bus σ Bool := do
  if remaining = 0 then
    return false
  if ← access .readInterrupt then
    access .clearInterrupt
    modifyControl fun control => control.union Control.acknowledge
    return true
  sleep config.pollStep
  lookForAcknowledge config (remaining - config.pollStep)
termination_by remaining
decreasing_by have := config.pollStep_pos; omega

/-- Wait at most `timeout` microseconds for an acknowledge, and tell whether it came. -/
def waitAcknowledge (timeout : Nat) : Bus σ Bool := do
  lookForAcknowledge (← read) timeout

/-- Read the status until it has the given flag, at most `looks` times. -/
def awaitStatus (flag : Status) : (looks : Nat) → Bus σ Unit
  | 0 => failure
  | looks + 1 => do
    let status ← access .readStatus
    if status.contains flag then
      return ()
    awaitStatus flag looks

/-- Read the status until it has the given flag, for as long as the hardware allows. -/
def await (flag : Status) : Bus σ Unit := do
  let s ← get
  awaitStatus flag (Hardware.patience s)

/-- Send a byte and give back the byte that came in at the same time. -/
def exchangeByte (byte : UInt8) : Bus σ UInt8 := do
  await Status.sendReady
  access (.writeData byte)
  await Status.received
  access .readData

/-- Drop received bytes until the status shows none, looking at most `looks` times. -/
def drainStatus : (looks : Nat) → Bus σ Unit
  | 0 => failure
  | looks + 1 => do
    let status ← access .readStatus
    if status.contains Status.received then
      let _ ← access .readData
      drainStatus looks

/-- Drop whatever was received and not read. -/
def drain : Bus σ Unit := do
  let s ← get
  drainStatus (Hardware.patience s)

end ConsoleBus.Bus

import ConsoleBus.Bus.Handshake
import ConsoleBus.Transport

/-!
# Packets on the bus

A packet is framed by the attention line, which is asserted before the address byte and released
after the last byte. In an exchange the device decides after every byte, by acknowledging it or
not, whether there is more to come. A packet can also be sent blindly, paced by time alone.
-/

namespace ConsoleBus.Bus

variable {σ : Type} [Hardware σ]

/-- Route the attention line to a port, without asserting it. -/
def selectPort (port : Port) : Bus σ Unit :=
  modifyControl fun control => match port with
    | .one => control.diff Control.secondPort
    | .two => control.union Control.secondPort

/-- Forget any earlier interrupt and assert attention, then give the device time to get ready. -/
def assertAttention : Bus σ Unit := do
  access .clearInterrupt
  modifyControl fun control => (control.union Control.attention).union Control.acknowledge
  hold (← read).attentionDelay

/-- Hold attention a while longer, then release it. -/
def releaseAttention : Bus σ Unit := do
  hold (← read).attentionDelay
  modifyControl fun control => control.diff Control.attention

/-- Exchange bytes until the buffer is full or a byte is not acknowledged, whichever comes first.
Once the request is used up, zeroes are sent. -/
def fill (request : List UInt8) : (buffer : List UInt8) → Bus σ Reply
  | [] => return ⟨0, []⟩
  | _ :: rest => do
    let byte ← exchangeByte (request.headD 0)
    if ← waitAcknowledge (← read).timeout then
      let reply ← fill request.tail rest
      return ⟨reply.count + 1, byte :: reply.buffer⟩
    else
      return ⟨1, byte :: rest⟩

/-- Exchange a packet. When nothing acknowledges the address, no byte is exchanged and the buffer
stays as it is; the byte that came in with the address is dropped the next time something does
answer. -/
def exchange (address : Address) (request buffer : List UInt8) : Bus σ Reply := do
  hold (← read).preDelay
  assertAttention
  access (.writeData address.byte)
  let reply ← if ← waitAcknowledge (← read).timeout then
      drain
      fill request buffer
    else
      pure ⟨0, buffer⟩
  releaseAttention
  hold (← read).postDelay
  return reply

/-- Send bytes without looking for acknowledges, with the byte delay after each. -/
def sendBytes (bytes : List UInt8) : Bus σ Unit :=
  bytes.forM fun byte => do
    let _ ← exchangeByte byte
    hold (← read).byteDelay

/-- Send a packet without looking for acknowledges. -/
def send (address : Address) (request : List UInt8) : Bus σ Unit := do
  assertAttention
  access (.writeData address.byte)
  hold (← read).byteDelay
  drain
  sendBytes request
  releaseAttention

instance : Transport (Bus σ) where
  selectPort := selectPort
  exchange := exchange
  send := send

end ConsoleBus.Bus

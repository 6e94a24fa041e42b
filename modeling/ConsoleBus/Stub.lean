import ConsoleBus.Transport

/-!
# A transport with prepared replies

A transport that carries nothing. Every exchange takes the next prepared reply of the selected port.
-/

namespace ConsoleBus

/-- A prepared reply: bytes for the buffer, and the number of bytes that it claims to have. -/
structure PreparedReply where
  /-- The bytes that are put into the buffer. -/
  bytes : List UInt8
  /-- The number of bytes that are said to have been exchanged. -/
  claimed : Nat
  deriving DecidableEq, Repr

/-- A transport that answers from prepared replies. -/
structure Stub where
  /-- The port that was selected last. -/
  selected : Port
  /-- The replies prepared for each port. -/
  replies : PerPort (List PreparedReply)
  deriving DecidableEq, Repr

namespace Stub

/-- A stub whose first port is selected. -/
def ofReplies (replies : PerPort (List PreparedReply)) : Stub := ⟨.one, replies⟩

/-- What a prepared reply leaves of a buffer. Neither its bytes nor what it claims go beyond the
end of the buffer. -/
def answer (prepared : PreparedReply) (buffer : List UInt8) : Reply where
  count := min prepared.claimed buffer.length
  buffer := prepared.bytes.take buffer.length ++ buffer.drop prepared.bytes.length

/-- Take the next reply prepared for the selected port. Without one, nothing is exchanged. -/
def exchange (buffer : List UInt8) (stub : Stub) : Reply × Stub :=
  match stub.replies.get stub.selected with
  | [] => (⟨0, buffer⟩, stub)
  | prepared :: rest =>
    (answer prepared buffer, { stub with replies := stub.replies.set stub.selected rest })

instance : Transport (StateM Stub) where
  selectPort port := modify fun stub => { stub with selected := port }
  exchange _ _ buffer := fun stub => stub.exchange buffer
  send _ _ := return ()

end Stub

end ConsoleBus

import ConsoleBus.Transport

/-!
# Pads

A pad is polled with one request, and answers with what kind of pad it is, a marker byte and its
buttons. A pad with sticks goes on with four bytes for their axes. On the wire the bit of a
pressed button is clear, so the two button bytes are inverted when they are read.
-/

namespace ConsoleBus

/-- The layout of a set of buttons. -/
abbrev Buttons.layout : Layout where
  title := "Buttons"
  width := 16
  flags := [⟨"SELECT", 0x0001⟩, ⟨"L3", 0x0002⟩, ⟨"R3", 0x0004⟩, ⟨"START", 0x0008⟩,
    ⟨"UP", 0x0010⟩, ⟨"RIGHT", 0x0020⟩, ⟨"DOWN", 0x0040⟩, ⟨"LEFT", 0x0080⟩,
    ⟨"L2", 0x0100⟩, ⟨"R2", 0x0200⟩, ⟨"L1", 0x0400⟩, ⟨"R1", 0x0800⟩,
    ⟨"TRIANGLE", 0x1000⟩, ⟨"CIRCLE", 0x2000⟩, ⟨"CROSS", 0x4000⟩, ⟨"SQUARE", 0x8000⟩]

/-- The buttons that are pressed. -/
abbrev Buttons := Flags Buttons.layout

namespace Buttons

/-- The buttons in the two bytes of a poll reply, low byte first. -/
def ofWire (low high : UInt8) : Buttons :=
  ⟨~~~(high.toBitVec.setWidth 16 <<< 8 ||| low.toBitVec.setWidth 16)⟩

/-- The low byte that a pad sends for its buttons. -/
def lowByte (buttons : Buttons) : UInt8 := ⟨(~~~buttons.bits).setWidth 8⟩

/-- The high byte that a pad sends for its buttons. -/
def highByte (buttons : Buttons) : UInt8 := ⟨((~~~buttons.bits) >>> 8).setWidth 8⟩

/-- Buttons are read back from the bytes that a pad sends for them. -/
@[simp] theorem ofWire_bytes (buttons : Buttons) :
    ofWire buttons.lowByte buttons.highByte = buttons := by
  apply Flags.ext
  apply BitVec.eq_of_getLsbD_eq
  intro i (hi : i < 16)
  simp [ofWire, lowByte, highByte, hi]
  by_cases low : i < 8
  · simp [low]
  · have back : 8 + (i - 8) = i := by omega
    have high : i - 8 < 8 := by omega
    simp [low, back, high, hi]

/-- Any two bytes are what some buttons are sent as. -/
@[simp] theorem bytes_ofWire (low high : UInt8) :
    (ofWire low high).lowByte = low ∧ (ofWire low high).highByte = high := by
  constructor
  · apply UInt8.eq_of_toBitVec_eq
    apply BitVec.eq_of_getLsbD_eq
    intro i hi
    simp [ofWire, lowByte, hi]
  · apply UInt8.eq_of_toBitVec_eq
    apply BitVec.eq_of_getLsbD_eq
    intro i hi
    have inWord : 8 + i < 16 := by omega
    have notLow : ¬ 8 + i < 8 := by omega
    have inLow : i < 16 := by omega
    simp [ofWire, highByte, hi, inWord, notLow, inLow]

end Buttons

/-- The positions of a pad's two sticks. -/
structure Axes where
  rightX : UInt8
  rightY : UInt8
  leftX : UInt8
  leftY : UInt8
  deriving DecidableEq, Repr, Inhabited

namespace Axes

/-- The axes in the order they are sent. -/
def toList (axes : Axes) : List UInt8 := [axes.rightX, axes.rightY, axes.leftX, axes.leftY]

/-- The axes at the start of the given bytes, if all four are there. -/
def ofBytes? : List UInt8 → Option Axes
  | rightX :: rightY :: leftX :: leftY :: _ => some ⟨rightX, rightY, leftX, leftY⟩
  | _ => none

end Axes

/-- What a poll tells about a pad. -/
structure PadState where
  /-- The kind of pad in the high nibble, and the number of byte pairs to come in the low one. -/
  kind : UInt8
  /-- The pressed buttons. -/
  buttons : Buttons
  /-- The axes, of pads that send them. -/
  axes : Option Axes
  deriving DecidableEq

namespace Pad

/-- The second byte of every pad's reply. -/
def marker : UInt8 := 0x5A

/-- A poll: the request, the number of the pad behind a multitap and two rumble bytes. -/
def pollRequest : List UInt8 := [Request.poll.byte, 0, 0, 0]

/-- No pad replies with more bytes than this. -/
def replyCapacity : Nat := 32

/-- The number of bytes in the reply of a pad without sticks: kind, marker and buttons. -/
def plainReplyLength : Nat := 4

/-- The number of bytes in the reply of a pad with sticks. -/
def axesReplyLength : Nat := plainReplyLength + 4

/-- What a reply to a poll says: kind, marker and two button bytes, and then the axes if there are
bytes enough for them. -/
def stateOfReply (reply : Reply) : Except CommandError PadState :=
  match reply.received with
  | [] => .error .noDevice
  | kind :: mark :: low :: high :: rest =>
    if mark = marker then .ok ⟨kind, Buttons.ofWire low high, Axes.ofBytes? rest⟩
    else .error .malformedReply
  | _ => .error .malformedReply

/-- A good reply has at least the bytes of a pad without sticks, and the axes are read exactly if
it has those of a pad with sticks. -/
theorem length_of_stateOfReply {reply : Reply} {state : PadState}
    (h : stateOfReply reply = .ok state) :
    plainReplyLength ≤ reply.received.length ∧
      (state.axes.isSome ↔ axesReplyLength ≤ reply.received.length) := by
  unfold stateOfReply at h
  split at h
  · cases h
  · rename_i rest heq
    rw [heq]
    split at h
    · cases h
      match rest with
      | [] | [_] | [_, _] | [_, _, _] =>
        simp [Axes.ofBytes?, plainReplyLength, axesReplyLength]
      | _ :: _ :: _ :: _ :: _ => simp [Axes.ofBytes?, plainReplyLength, axesReplyLength]
    · cases h
  · cases h

variable {m : Type → Type} [Monad m] [Transport m]

/-- Poll the pad on a port. -/
def read (port : Port) : m (Except CommandError PadState) := do
  Transport.selectPort port
  let reply ← Transport.exchange .controller pollRequest (List.replicate replyCapacity 0)
  return stateOfReply reply

/-- Poll the pad on a port for its buttons. Without a usable reply none are pressed. -/
def readButtons (port : Port) : m Buttons := do
  match ← read port with
  | .ok state => return state.buttons
  | .error _ => return Flags.empty

end Pad

end ConsoleBus

import ConsoleBus.Device
import Mathlib.Tactic.IntervalCases

/-!
# Lookups of devices

To answer a byte, or to read a request once the packet is over, a device looks up bytes by their
place: in its reply, among its axes, and in what it has received. Here each of these lookups is
checked, and a device that looks for a byte where there is none gives no answer at all. No lookup
ever fails, whatever state the device is in: it may have missed the start of the packet, and it may
be told of the end of a packet of which it has seen nothing.
-/

namespace ConsoleBus

namespace Device

/-- The part of a list from one place up to another one, if the list reaches that far. -/
def slice? {α : Type} (items : List α) (start stop : Nat) : Option (List α) :=
  if start ≤ stop ∧ stop ≤ items.length then some ((items.drop start).take (stop - start)) else none

/-! ## Pads -/

namespace Gamepad

/-- The answer of a pad that looks up each axis by its place. -/
def answer? (pad : Gamepad) (index : Nat) (sent : UInt8) : Option Answer :=
  match index with
  | 0 => some (if sent = Request.poll.byte then .more pad.kind else .last 0xFF)
  | 1 => some (.more Pad.marker)
  | 2 => some (.more pad.buttons.lowByte)
  | 3 => some ⟨pad.buttons.highByte, pad.axes.isSome⟩
  | place + 4 =>
    match pad.axes with
    | none => some (.last 0xFF)
    | some axes =>
      if place < 3 then axes.toList[place]?.map .more
      else if place = 3 then axes.toList[3]?.map .last
      else some (.last 0xFF)

theorem answer?_eq (pad : Gamepad) (index : Nat) (sent : UInt8) :
    pad.answer? index sent = some (pad.answer index sent) := by
  obtain ⟨buttons, axes⟩ := pad
  unfold answer? answer
  match index with
  | 0 =>
    by_cases hpoll : sent = Request.poll.byte
    · cases axes <;> simp [hpoll, pollReply, Answer.more]
    · simp [hpoll]
  | 1 | 2 => cases axes <;> simp [pollReply, Answer.more, Axes.toList]
  | 3 => cases axes <;> simp [pollReply, Axes.toList]
  | place + 4 =>
    cases axes with
    | none => simp [pollReply]
    | some axes =>
      by_cases hlate : 4 ≤ place
      · have hnone : (Gamepad.pollReply ⟨buttons, some axes⟩)[place + 4]? = none := by
          rw [List.getElem?_eq_none_iff]
          simp [pollReply, Axes.toList]
          omega
        have hlast : ¬ place < 3 ∧ ¬ place = 3 := by omega
        simp [hnone, hlast]
      · have hplace : place < 4 := by omega
        interval_cases place <;> simp [pollReply, Axes.toList, Answer.more, Answer.last]

end Gamepad

/-! ## Memory cards -/

namespace StorageCard

/-- The answer of a card that looks up the first byte of its request, and its reply to a ping. -/
def exchange? (card : StorageCard) (index : Nat) (sent : UInt8) :
    Option (Answer × StorageCard) := do
  let card := card.receive sent
  if !card.takesGameIds then
    return (.last refusal, card)
  let first ← card.request[0]?
  if first = Request.gameIdPing.byte then
    if index < 4 then
      return (.more (← pingReply[index]?), card)
    else
      return (.last (pingReply[index]?.getD 0), card)
  else if first = Request.gameIdSend.byte then
    return (.more 0, card)
  else
    return (.last refusal, card)

/-- The end of a packet for a card that looks up the code and the length in its request, and then
the identifier. -/
def finish? (card : StorageCard) : Option StorageCard := do
  if !card.takesGameIds || card.request.length < 3 then
    return card
  let code ← card.request[0]?
  if code ≠ Request.gameIdSend.byte then
    return card
  let length ← card.request[2]?
  let stop := min (3 + (length.toNat - 1)) card.request.length
  let id ← slice? card.request 3 stop
  return { card with gameId := some ((Text.ofBytes? id).getD "") }

/-- The byte that was just received is there, unless there are earlier ones. -/
theorem first_receive (card : StorageCard) (sent : UInt8) :
    (card.receive sent).request[0]? = some (card.request.headD sent) := by
  unfold receive Bounded.push
  cases hrequest : card.request with
  | nil => rfl
  | cons first rest =>
    dsimp only
    split <;> rfl

/-- From the last byte of the reply to a ping on, nothing is acknowledged. -/
theorem pingReply_late {index : Nat} (h : ¬ index < 4) : ¬ index + 1 < pingReply.length := by
  show ¬ index + 1 < 5
  omega

theorem exchange?_eq (card : StorageCard) (index : Nat) (sent : UInt8) :
    card.exchange? index sent =
      some (card.answer index (card.request.headD sent), card.receive sent) := by
  have hsame : (card.receive sent).takesGameIds = card.takesGameIds := rfl
  unfold exchange? answer
  simp only [hsame, first_receive]
  cases card.takesGameIds with
  | false => rfl
  | true =>
    generalize card.request.headD sent = first
    by_cases hping : first = Request.gameIdPing.byte
    · rw [hping]
      by_cases hearly : index < 4
      · interval_cases index <;> rfl
      · simp [hearly, pingReply_late hearly, Answer.last]
    · by_cases hsend : first = Request.gameIdSend.byte
      · have hother : ¬ Request.gameIdSend.byte = Request.gameIdPing.byte := by decide
        simp [hsend, hother]
      · simp [hping, hsend]

/-- The place where an identifier stops is never before its start, nor past the end. -/
theorem slice?_header {α : Type} (first second third : α) (rest : List α) (count : Nat) :
    slice? (first :: second :: third :: rest) 3
      (min (3 + count) (first :: second :: third :: rest).length) = some (rest.take count) := by
  have hlength : (first :: second :: third :: rest).length = 3 + rest.length := by
    simp only [List.length_cons]
    omega
  have hstop : min (3 + count) (3 + rest.length) - 3 = min count rest.length := by omega
  unfold slice?
  rw [hlength, if_pos (by omega), hstop]
  show some (rest.take _) = _
  rw [← List.take_take, List.take_length]

theorem finish?_eq (card : StorageCard) : card.finish? = some card.finish := by
  obtain ⟨takes, request, gameId⟩ := card
  unfold finish? finish
  cases takes with
  | false => rfl
  | true =>
    match request with
    | [] | [_] | [_, _] => rfl
    | code :: second :: length :: rest =>
      by_cases hcode : code = Request.gameIdSend.byte
      · have hslice := slice?_header code second length rest (length.toNat - 1)
        rw [hcode] at hslice
        simp only [List.length_cons] at hslice
        simp [hcode, announced?, hslice]
      · simp [hcode, announced?]

end StorageCard

/-! ## All devices -/

/-- The answer of a device that checks its lookups. A script has zeroes where it has no replies. -/
def exchange? (device : Device) (index : Nat) (sent : UInt8) : Option (Answer × Device) :=
  match device with
  | gamepad pad => (pad.answer? index sent).map fun answer => (answer, gamepad pad)
  | storageCard card => (card.exchange? index sent).map fun (answer, card) =>
    (answer, storageCard card)
  | script s => some (s.answer index, script (s.receive sent))

/-- The end of a packet for a device that checks its lookups. -/
def finish? : Device → Option Device
  | storageCard card => card.finish?.map storageCard
  | device => some device

theorem exchange?_eq (device : Device) (index : Nat) (sent : UInt8) :
    device.exchange? index sent = some (device.exchange index sent) := by
  cases device with
  | gamepad pad =>
    show (pad.answer? index sent).map _ = _
    rw [Gamepad.answer?_eq]
    rfl
  | storageCard card =>
    show (card.exchange? index sent).map _ = _
    rw [StorageCard.exchange?_eq]
    rfl
  | script s => rfl

theorem finish?_eq (device : Device) : device.finish? = some device.finish := by
  cases device with
  | storageCard card =>
    show card.finish?.map storageCard = _
    rw [StorageCard.finish?_eq]
    rfl
  | gamepad | script => rfl

end Device

end ConsoleBus

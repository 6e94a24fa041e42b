import ConsoleBus.Card.Probe
import ConsoleBus.Pad
import ConsoleBus.Proofs.Lookups

/-!
# How replies are told apart

What a reply to a poll or to a ping says depends on the number of bytes received and on a few of
them: their least number and a marker for a pad, their exact number and two markers for a memory
card. Each byte that is looked up is there, whatever the reply is.
-/

namespace ConsoleBus

/-! ## What is received of a reply -/

namespace Reply

variable {reply : Reply}

theorem length_received (h : reply.count ≤ reply.buffer.length) :
    reply.received.length = reply.count := by
  unfold received
  rw [List.length_take, Nat.min_eq_left h]

/-- What is received is found in the buffer at the same places. -/
theorem getElem?_buffer {bytes : List UInt8} (hreceived : reply.received = bytes) {index : Nat}
    (h : index < bytes.length) : reply.buffer[index]? = bytes[index]? := by
  subst hreceived
  unfold received at h ⊢
  rw [List.length_take] at h
  rw [List.getElem?_take_of_lt (Nat.lt_of_lt_of_le h (Nat.min_le_left _ _))]

theorem slice?_received (h : reply.count ≤ reply.buffer.length) :
    Device.slice? reply.buffer 0 reply.count = some reply.received :=
  if_pos ⟨Nat.zero_le _, h⟩

end Reply

/-! ## Replies of pads -/

theorem Buttons.bits_ofWire (low high : UInt8) :
    (Buttons.ofWire low high).bits = ~~~BitVec.ofNat 16 (low.toNat + 256 * high.toNat) := by
  have hlow : low.toNat < 2 ^ 8 := low.toNat_lt
  have hhigh : high.toNat < 2 ^ 8 := high.toNat_lt
  have hword : high.toBitVec.setWidth 16 <<< 8 ||| low.toBitVec.setWidth 16 =
      BitVec.ofNat 16 (low.toNat + 256 * high.toNat) := by
    apply BitVec.eq_of_toNat_eq
    have hshifted : high.toNat <<< 8 = high.toNat * 2 ^ 8 := Nat.shiftLeft_eq _ _
    have hor := Nat.shiftLeft_add_eq_or_of_lt hlow high.toNat
    simp only [BitVec.toNat_or, BitVec.toNat_shiftLeft, BitVec.toNat_setWidth, BitVec.toNat_ofNat,
      UInt8.toNat_toBitVec]
    have hwide : high.toNat % 2 ^ 16 = high.toNat ∧ low.toNat % 2 ^ 16 = low.toNat ∧
        high.toNat <<< 8 % 2 ^ 16 = high.toNat <<< 8 := by omega
    rw [hwide.1, hwide.2.1, hwide.2.2, ← hor]
    omega
  exact congrArg (fun word => ~~~word) hword

theorem Axes.map_toList_ofBytes? (bytes : List UInt8) :
    (Axes.ofBytes? bytes).map Axes.toList =
      if 4 ≤ bytes.length then some (bytes.take 4) else none := by
  match bytes with
  | [] | [_] | [_, _] | [_, _, _] => rfl
  | _ :: _ :: _ :: _ :: rest =>
    have hlength : 4 ≤ rest.length + 4 := Nat.le_add_left _ _
    exact (if_pos hlength).symm

namespace Pad

/-- What a reply to a poll says, if each byte that is looked up is there. -/
def stateOfReply? (reply : Reply) : Option (Except CommandError PadState) := do
  let received ← Device.slice? reply.buffer 0 reply.count
  if received.isEmpty then
    return .error .noDevice
  if received.length < plainReplyLength then
    return .error .malformedReply
  if (← received[1]?) ≠ marker then
    return .error .malformedReply
  let axes ← if axesReplyLength ≤ received.length then do
      pure (some (Axes.mk (← received[4]?) (← received[5]?) (← received[6]?) (← received[7]?)))
    else pure none
  return .ok ⟨← received[0]?, Buttons.ofWire (← received[2]?) (← received[3]?), axes⟩

/-- The buttons that a poll tells. -/
def buttonsOf : Except CommandError PadState → Buttons
  | .ok state => state.buttons
  | .error _ => Flags.empty

/-- The result of a poll tells just what the number of bytes in the reply and its first eight bytes
say. -/
structure Tells (reply : Reply) (result : Except CommandError PadState) : Prop where
  noDevice : result = .error .noDevice ↔ reply.count = 0
  malformed : result = .error .malformedReply ↔
    0 < reply.count ∧ (reply.count < 4 ∨ reply.buffer[1]? ≠ some 0x5A)
  ok : 4 ≤ reply.count → reply.buffer[1]? = some 0x5A → ∃ state low high,
    result = .ok state ∧ reply.buffer[0]? = some state.kind ∧
    reply.buffer[2]? = some low ∧ reply.buffer[3]? = some high ∧
    state.buttons.bits = ~~~BitVec.ofNat 16 (low.toNat + 256 * high.toNat) ∧
    state.axes.map Axes.toList =
      if 8 ≤ reply.count then some ((reply.buffer.drop 4).take 4) else none

variable {reply : Reply} {kind low high : UInt8} {rest : List UInt8}

theorem stateOfReply?_eq (h : reply.count ≤ reply.buffer.length) :
    stateOfReply? reply = some (stateOfReply reply) := by
  unfold stateOfReply? stateOfReply
  rw [Reply.slice?_received h]
  match reply.received with
  | [] | [_] | [_, _] | [_, _, _] => rfl
  | kind :: mark :: low :: high :: rest =>
    by_cases hmark : mark = marker
    · match rest with
      | [] | [_] | [_, _] | [_, _, _] =>
        simp [hmark, plainReplyLength, axesReplyLength, Axes.ofBytes?]
      | _ :: _ :: _ :: _ :: _ =>
        simp [hmark, plainReplyLength, axesReplyLength, Axes.ofBytes?]
    · simp [hmark, plainReplyLength]

theorem tells_noDevice (h : reply.count = 0) : Tells reply (.error .noDevice) where
  noDevice := ⟨fun _ => h, fun _ => rfl⟩
  malformed := ⟨fun hother => (nomatch hother), fun hcount => by omega⟩
  ok := fun hlong => by omega

theorem tells_malformed (hpos : 0 < reply.count)
    (h : reply.count < 4 ∨ reply.buffer[1]? ≠ some 0x5A) :
    Tells reply (.error .malformedReply) where
  noDevice := ⟨fun hother => (nomatch hother), fun hcount => by omega⟩
  malformed := ⟨fun _ => ⟨hpos, h⟩, fun _ => rfl⟩
  ok := fun hlong hmarker => by
    rcases h with hshort | hother
    · omega
    · exact absurd hmarker hother

theorem tells_ok (h : reply.count ≤ reply.buffer.length)
    (hreceived : reply.received = kind :: marker :: low :: high :: rest) :
    Tells reply (.ok ⟨kind, Buttons.ofWire low high, Axes.ofBytes? rest⟩) := by
  have hlength := Reply.length_received h
  simp only [hreceived, List.length_cons] at hlength
  have hbuffer : ∀ index, index < 4 →
      reply.buffer[index]? = (kind :: marker :: low :: high :: rest)[index]? := by
    intro index hindex
    exact Reply.getElem?_buffer hreceived (Nat.lt_of_lt_of_le hindex (Nat.le_add_left _ _))
  have hrest : rest = (reply.buffer.drop 4).take (reply.count - 4) := by
    rw [← List.drop_take]
    exact congrArg (List.drop 4) hreceived.symm
  refine ⟨⟨fun hother => (nomatch hother), fun hcount => by omega⟩,
    ⟨fun hother => (nomatch hother), fun hbad => ?_⟩, fun _ _ => ?_⟩
  · rcases hbad.2 with hshort | hother
    · omega
    · exact absurd (hbuffer 1 (by decide)) hother
  · refine ⟨_, low, high, rfl, hbuffer 0 (by decide), hbuffer 2 (by decide), hbuffer 3 (by decide),
      Buttons.bits_ofWire low high, ?_⟩
    rw [Axes.map_toList_ofBytes?]
    by_cases hlong : 8 ≤ reply.count
    · rw [if_pos hlong, if_pos (by omega), hrest, List.take_take, Nat.min_eq_left (by omega)]
    · rw [if_neg hlong, if_neg (by omega)]

theorem tells_stateOfReply (h : reply.count ≤ reply.buffer.length) :
    Tells reply (stateOfReply reply) := by
  have hlength := Reply.length_received h
  unfold stateOfReply
  match hreceived : reply.received with
  | [] =>
    rw [hreceived] at hlength
    exact tells_noDevice hlength.symm
  | [_] | [_, _] | [_, _, _] =>
    simp only [hreceived, List.length_cons, List.length_nil] at hlength
    exact tells_malformed (by omega) (.inl (by omega))
  | kind :: mark :: low :: high :: rest =>
    dsimp only
    by_cases hmark : mark = marker
    · rw [if_pos hmark]
      rw [hmark] at hreceived
      exact tells_ok h hreceived
    · have hmarked : reply.buffer[1]? = some mark := Reply.getElem?_buffer hreceived (by simp)
      simp only [hreceived, List.length_cons] at hlength
      rw [if_neg hmark]
      refine tells_malformed (by omega) (.inr ?_)
      rw [hmarked]
      exact fun hsame => hmark (Option.some.inj hsame)

end Pad

/-! ## Replies of memory cards -/

namespace Card

/-- Whether a reply comes from a card that understands game identifiers, if the markers are there
to be looked up. -/
def checkPing? (reply : Reply) : Option (Except CommandError Unit) := do
  if reply.count = 0 then
    return .error .noDevice
  if reply.count ≠ ping.length then
    return .error .malformedReply
  if (← Device.slice? reply.buffer 2 4) = pingMarkers then
    return .ok ()
  return .error .malformedReply

/-- The result of a ping tells just what the number of bytes in the reply and the markers say. -/
structure Tells (reply : Reply) (result : Except CommandError Unit) : Prop where
  noDevice : result = .error .noDevice ↔ reply.count = 0
  ok : result = .ok () ↔
    reply.count = 5 ∧ reply.buffer[2]? = some 0x27 ∧ reply.buffer[3]? = some 0xFF
  malformed : result = .error .malformedReply ↔ 0 < reply.count ∧
    ¬ (reply.count = 5 ∧ reply.buffer[2]? = some 0x27 ∧ reply.buffer[3]? = some 0xFF)

variable {reply : Reply}

theorem checkPing?_eq (h : reply.count ≤ reply.buffer.length)
    (hlength : reply.buffer.length = ping.length) :
    checkPing? reply = some (checkPing reply) := by
  obtain ⟨count, buffer⟩ := reply
  unfold checkPing? checkPing Reply.received
  match buffer, hlength with
  | [_, _, first, second, _], _ =>
    by_cases hfull : count = 5
    · rw [hfull]
      by_cases hmarkers : [first, second] = pingMarkers
      · simp [hmarkers, Device.slice?, ping]
      · simp [hmarkers, Device.slice?, ping]
    · have hcount : count ≤ 5 := h
      have hshort : count < 5 := by omega
      interval_cases count <;> rfl

theorem tells_noDevice (h : reply.count = 0) : Tells reply (.error .noDevice) where
  noDevice := ⟨fun _ => h, fun _ => rfl⟩
  ok := ⟨fun hother => (nomatch hother), fun hgood => by omega⟩
  malformed := ⟨fun hother => (nomatch hother), fun hbad => by omega⟩

theorem tells_ok (hcount : reply.count = 5)
    (h : reply.buffer[2]? = some 0x27 ∧ reply.buffer[3]? = some 0xFF) :
    Tells reply (.ok ()) where
  noDevice := ⟨fun hother => (nomatch hother), fun hnone => by omega⟩
  ok := ⟨fun _ => ⟨hcount, h⟩, fun _ => rfl⟩
  malformed := ⟨fun hother => (nomatch hother), fun hbad => absurd ⟨hcount, h⟩ hbad.2⟩

theorem tells_malformed (hpos : 0 < reply.count)
    (h : ¬ (reply.count = 5 ∧ reply.buffer[2]? = some 0x27 ∧ reply.buffer[3]? = some 0xFF)) :
    Tells reply (.error .malformedReply) where
  noDevice := ⟨fun hother => (nomatch hother), fun hcount => by omega⟩
  ok := ⟨fun hother => (nomatch hother), fun hgood => absurd hgood h⟩
  malformed := ⟨fun _ => ⟨hpos, h⟩, fun _ => rfl⟩

theorem tells_checkPing (h : reply.count ≤ reply.buffer.length) :
    Tells reply (checkPing reply) := by
  have hlength := Reply.length_received h
  unfold checkPing
  match hreceived : reply.received with
  | [] =>
    rw [hreceived] at hlength
    exact tells_noDevice hlength.symm
  | [_] | [_, _] | [_, _, _] | [_, _, _, _] | _ :: _ :: _ :: _ :: _ :: _ :: _ =>
    simp only [hreceived, List.length_cons, List.length_nil] at hlength
    exact tells_malformed (by omega) fun hgood => by omega
  | [_, _, first, second, _] =>
    rw [hreceived] at hlength
    have hcount : reply.count = 5 := hlength.symm
    have hthird : reply.buffer[2]? = some first := Reply.getElem?_buffer hreceived (by simp)
    have hfourth : reply.buffer[3]? = some second := Reply.getElem?_buffer hreceived (by simp)
    have hmarkers : [first, second] = pingMarkers ↔
        reply.buffer[2]? = some 0x27 ∧ reply.buffer[3]? = some 0xFF := by
      rw [hthird, hfourth]
      simp [pingMarkers]
    dsimp only
    by_cases hgood : [first, second] = pingMarkers
    · rw [if_pos hgood]
      exact tells_ok hcount (hmarkers.mp hgood)
    · rw [if_neg hgood]
      exact tells_malformed (by omega) fun hall => hgood (hmarkers.mpr hall.2)

end Card

end ConsoleBus

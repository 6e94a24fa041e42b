import ConsoleBus.Proofs.DevicePackets

/-!
# What a memory card makes of any packet

Nothing says that the bytes a card receives are a request: the length byte may announce more than
was sent, or nothing, the packet may be longer than a request or break off, and its text may not be
well formed. The answers depend on the first byte and on the place of a byte alone, and what the
card remembers is told by the bytes it was sent (`told?`), whatever state it was in before.
-/

namespace ConsoleBus.Device

/-- The device after a number of whole packets. -/
def afterPackets (device : Device) (packets : List (List UInt8)) : Device :=
  packets.foldl (fun device bytes => (device.packet bytes).2) device

namespace StorageCard

open Card.GameId

/-- What a card sends back at a place of a packet with the given first byte. -/
def reply (takesGameIds : Bool) (first : UInt8) (place : Nat) : Answer :=
  if takesGameIds ∧ first = Request.gameIdPing.byte then
    [.more 0x08, .more 0x00, .more 0x27, .more 0xFF].getD place (.last 0x00)
  else if takesGameIds ∧ first = Request.gameIdSend.byte then
    .more 0x00
  else
    .last 0x08

/-- The identifier that a packet tells a card, if it has a header that says so: the bytes after the
header, up to where the length byte says, or the packet ends, or a request would be full. -/
def told? (bytes : List UInt8) : Option String := do
  let code ← bytes[0]?
  let length ← bytes[2]?
  if code = Request.gameIdSend.byte then
    let stop := min (3 + (length.toNat - 1)) (min bytes.length requestCapacity)
    let part ← slice? bytes 3 stop
    return (Text.ofBytes? part).getD ""
  else
    none

variable {card : StorageCard} {first : UInt8} {bytes : List UInt8}

/-! ## The answers -/

theorem answer_eq_reply (card : StorageCard) (index : Nat) (first : UInt8) :
    card.answer index first = reply card.takesGameIds first index := by
  unfold answer reply
  cases card.takesGameIds with
  | false => rfl
  | true =>
    by_cases hping : first = Request.gameIdPing.byte
    · match index with
      | 0 | 1 | 2 | 3 => simp [hping, pingReply, Answer.more, Card.pingMarkers]
      | 4 => simp [hping, pingReply, Answer.last, Card.pingMarkers]
      | index + 5 => simp [hping, pingReply, Answer.last, Card.pingMarkers]
    · simp [hping, refusal]

theorem exchange_fst (card : StorageCard) (index : Nat) (byte : UInt8) :
    ((storageCard card).exchange index byte).1 =
      reply card.takesGameIds (card.request.headD byte) index :=
  answer_eq_reply card index _

theorem head?_receive (h : card.request.head? = some first) (byte : UInt8) :
    (card.receive byte).request.head? = some first := by
  unfold receive Bounded.push
  cases hrequest : card.request with
  | nil =>
    rw [hrequest] at h
    cases h
  | cons head rest =>
    rw [hrequest] at h
    dsimp only
    split <;> exact h

/-- Once the first byte is stored, nothing that follows makes a difference to the answers. -/
theorem exchangeFrom_received (bytes : List UInt8) : ∀ (card : StorageCard) (index : Nat),
    card.request.head? = some first →
      ((storageCard card).exchangeFrom index bytes).1 =
        bytes.mapIdx fun place _ => reply card.takesGameIds first (place + index) := by
  induction bytes with
  | nil => exact fun _ _ _ => rfl
  | cons byte bytes ih =>
    intro card index hfirst
    have hhead : card.request.headD byte = first := by
      rw [List.headD_eq_head?_getD, hfirst, Option.getD_some]
    have hrest := ih (card.receive byte) (index + 1) (head?_receive hfirst byte)
    have hmoved : (fun (place : Nat) (_ : UInt8) =>
        reply card.takesGameIds first (place + 1 + index)) =
          fun place _ => reply card.takesGameIds first (place + (index + 1)) := by
      funext place _
      rw [Nat.add_assoc, Nat.add_comm 1]
    rw [exchangeFrom_cons, exchange_fst, hhead, List.mapIdx_cons, hmoved, Nat.zero_add]
    exact congrArg _ hrest

theorem packet_answers (card : StorageCard) (bytes : List UInt8) :
    ((storageCard card).packet bytes).1 =
      bytes.mapIdx fun place _ => reply card.takesGameIds (bytes.headD 0) place := by
  cases bytes with
  | nil => rfl
  | cons first bytes =>
    have hrest : ((storageCard (card.start.receive first)).exchangeFrom 1 bytes).1 =
        bytes.mapIdx fun place _ => reply card.takesGameIds first (place + 1) :=
      exchangeFrom_received bytes (card.start.receive first) 1 rfl
    rw [packet_fst]
    show ((storageCard card.start).exchange 0 first).1 :: _ = _
    rw [exchange_fst, List.mapIdx_cons]
    exact congrArg _ hrest

/-! ## The identifier -/

/-- A request that is cut off where it is full announces what the whole packet tells. -/
theorem announced?_take (bytes : List UInt8) :
    announced? (bytes.take requestCapacity) = told? bytes := by
  match bytes with
  | [] | [_] | [_, _] => rfl
  | code :: second :: length :: rest =>
    have hstop : min (3 + (length.toNat - 1))
        (min (code :: second :: length :: rest).length requestCapacity) =
        min (3 + min (length.toNat - 1) 61) (code :: second :: length :: rest).length := by
      unfold requestCapacity
      omega
    show (if code = _ then some ((Text.ofBytes? ((rest.take 61).take _)).getD "") else none) =
      (if code = _ then (slice? _ 3 (min _ _)).bind _ else none)
    rw [hstop, slice?_header, List.take_take]
    rfl

theorem told?_isSome_iff :
    (told? bytes).isSome = true ↔
      3 ≤ bytes.length ∧ bytes.head? = some Request.gameIdSend.byte := by
  rw [← announced?_take]
  match bytes with
  | [] | [_] | [_, _] => simp [announced?, requestCapacity]
  | code :: second :: length :: rest =>
    by_cases hcode : code = Request.gameIdSend.byte <;>
      simp [announced?, requestCapacity, hcode]

/-- What is read as an identifier has no more bytes than a request has after its header, so there is
room for it wherever there is room for a request. -/
theorem length_told?_le {id : String} (h : told? bytes = some id) :
    (Text.bytes id).length ≤ 61 := by
  rw [← announced?_take] at h
  match bytes with
  | [] | [_] | [_, _] => cases h
  | code :: second :: length :: rest =>
    have hread : (Text.ofBytes? ((rest.take 61).take (length.toNat - 1))).getD "" = id := by
      by_cases hcode : code = Request.gameIdSend.byte
      · exact Option.some.inj ((if_pos hcode).symm.trans h)
      · exact absurd ((if_neg hcode).symm.trans h) (by simp)
    cases hpart : Text.ofBytes? ((rest.take 61).take (length.toNat - 1)) with
    | none =>
      rw [hpart] at hread
      rw [← hread]
      decide
    | some text =>
      rw [hpart, Option.getD_some] at hread
      rw [← hread, Text.bytes_of_ofBytes? hpart, List.length_take, List.length_take]
      omega

/-! ## Whole packets -/

theorem packet_storageCard (card : StorageCard) (bytes : List UInt8) :
    (storageCard card).packet bytes =
      (bytes.mapIdx fun place _ => reply card.takesGameIds (bytes.headD 0) place,
        storageCard {
          takesGameIds := card.takesGameIds
          request := bytes.take requestCapacity
          gameId := if card.takesGameIds then (told? bytes).or card.gameId else card.gameId }) := by
  refine Prod.ext (packet_answers card bytes) ?_
  rw [packet_snd]
  show ((storageCard card.start).exchangeFrom 0 bytes).2.finish = _
  rw [exchangeFrom_storageCard]
  show storageCard (StorageCard.finish { card with request := bytes.take requestCapacity }) = _
  unfold finish
  dsimp only
  rw [announced?_take]
  cases card.takesGameIds <;> rfl

/-- A card remembers what the last packet told it that told it anything. -/
theorem afterPackets_storageCard (packets : List (List UInt8)) : ∀ card : StorageCard,
    ∃ after : StorageCard, (storageCard card).afterPackets packets = storageCard after ∧
      after.takesGameIds = card.takesGameIds ∧
      after.gameId = if card.takesGameIds then (packets.reverse.findSome? told?).or card.gameId
        else card.gameId := by
  induction packets with
  | nil =>
    intro card
    refine ⟨card, rfl, rfl, ?_⟩
    cases card.takesGameIds <;> rfl
  | cons bytes packets ih =>
    intro card
    obtain ⟨after, hafter, htakes, hid⟩ := ih {
      takesGameIds := card.takesGameIds
      request := bytes.take requestCapacity
      gameId := if card.takesGameIds then (told? bytes).or card.gameId else card.gameId }
    refine ⟨after, ?_, htakes, ?_⟩
    · rw [← hafter, afterPackets, List.foldl_cons, packet_storageCard]
      rfl
    · rw [hid, List.reverse_cons, List.findSome?_append]
      cases card.takesGameIds with
      | false => rfl
      | true =>
        simp only [if_true, List.findSome?_singleton, Option.or_assoc]

/-- No packet makes a card fail, whatever its bytes are and whatever was sent before. The answers
can be told from the first byte and the place of each byte. A card that understands game identifiers
remembers what the packet tells it, which is an identifier that fits if the packet has the header of
such a request and nothing otherwise, and then what it remembered is kept. -/
theorem packet_decoded (card : StorageCard) (earlier : List (List UInt8)) (bytes : List UInt8) :
    ∃ before after : StorageCard,
      (storageCard card).afterPackets earlier = storageCard before ∧
      (storageCard before).packet? bytes =
        some (bytes.mapIdx fun place _ => reply card.takesGameIds (bytes.headD 0) place,
          storageCard after) ∧
      before.takesGameIds = card.takesGameIds ∧ after.takesGameIds = card.takesGameIds ∧
      before.gameId =
        (if card.takesGameIds then (earlier.reverse.findSome? told?).or card.gameId
          else card.gameId) ∧
      after.gameId =
        (if card.takesGameIds then (told? bytes).or before.gameId else before.gameId) ∧
      ((told? bytes).isSome = true ↔
        3 ≤ bytes.length ∧ bytes.head? = some Request.gameIdSend.byte) ∧
      ∀ id ∈ told? bytes, (Text.bytes id).length ≤ 61 := by
  obtain ⟨before, hbefore, htakes, hid⟩ := afterPackets_storageCard earlier card
  have hpacket := congrArg some (packet_storageCard before bytes)
  rw [← packet?_eq, htakes] at hpacket
  exact ⟨before, _, hbefore, hpacket, htakes, rfl, hid, rfl, told?_isSome_iff,
    fun id htold => length_told?_le htold⟩

/-- The first packet tells a card an identifier. The second one has a length byte that announces
more than is sent, and what is sent is not text. -/
theorem packet_decoded_notText :
    ∃ before after : StorageCard,
      (storageCard ⟨true, [0x20], none⟩).afterPackets [[0x21, 0, 4, 0x41, 0x42, 0x43, 0]] =
        storageCard before ∧
      (storageCard before).packet? [0x21, 0, 9, 0xFF] =
        some ([.more 0, .more 0, .more 0, .more 0], storageCard after) ∧
      before.gameId = some "ABC" ∧ after.gameId = some "" ∧ (Text.bytes "").length ≤ 61 := by
  obtain ⟨before, after, hbefore, hpacket, -, -, hfirst, hsecond, -, hfits⟩ :=
    packet_decoded ⟨true, [0x20], none⟩ [[0x21, 0, 4, 0x41, 0x42, 0x43, 0]] [0x21, 0, 9, 0xFF]
  have htold : told? [0x21, 0, 4, 0x41, 0x42, 0x43, 0] = some "ABC" := by decide +kernel
  have hbroken : told? [0x21, 0, 9, 0xFF] = some "" := by decide +kernel
  refine ⟨before, after, hbefore, hpacket, ?_, ?_, hfits "" hbroken⟩
  · rw [hfirst, if_pos rfl, List.reverse_singleton, List.findSome?_singleton, htold]
    rfl
  · rw [hsecond, hbroken]
    rfl

end StorageCard

end ConsoleBus.Device

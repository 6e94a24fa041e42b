import ConsoleBus.Proofs.Boundaries
import ConsoleBus.Proofs.DevicePackets

/-!
# Identifiers in packets

An identifier ends at its first NUL. Since no other character has a zero among its bytes, it does
not matter whether one looks for the NUL character in the text or for a zero among its bytes. The
request for an identifier that fits is read back by every card that understands it.
-/

namespace ConsoleBus

namespace Card.GameId

variable {id text gameId : String}

/-! ## Where an identifier ends -/

theorem takeWhile_append_of_head? {α : Type} {p : α → Bool} {first rest : List α}
    (hfirst : ∀ a ∈ first, p a = true) (hrest : ∀ a ∈ rest.head?, p a = false) :
    (first ++ rest).takeWhile p = first := by
  rw [List.takeWhile_append_of_pos hfirst]
  cases rest with
  | nil => exact List.append_nil first
  | cons a rest =>
    rw [List.takeWhile_cons_of_neg (Bool.eq_false_iff.mp (hrest a rfl)), List.append_nil]

theorem toList_beforeNul (text : String) :
    (beforeNul text).toList = text.toList.takeWhile fun c => c != '\x00' := String.toList_ofList

/-- The text before the first NUL has none itself, and after it comes a NUL or nothing. -/
theorem beforeNul_eq_iff :
    beforeNul text = id ↔ '\x00' ∉ id.toList ∧
      ∃ rest, text = id ++ rest ∧ ∀ c ∈ rest.toList.head?, c = '\x00' := by
  constructor
  · rintro rfl
    refine ⟨fun hnul => ?_, String.ofList (text.toList.dropWhile fun c => c != '\x00'), ?_, ?_⟩
    · rw [toList_beforeNul] at hnul
      exact absurd (List.all_eq_true.mp List.all_takeWhile _ hnul) (by decide)
    · unfold beforeNul
      rw [← String.ofList_append, List.takeWhile_append_dropWhile, String.ofList_toList]
    · intro c hc
      have hstop := List.head?_dropWhile_not (fun c => c != '\x00') text.toList
      rw [String.toList_ofList] at hc
      rw [Option.mem_def.mp hc] at hstop
      exact bne_eq_false_iff_eq.mp hstop
  · rintro ⟨hnul, rest, rfl, hend⟩
    have hid : ∀ c ∈ id.toList, (c != '\x00') = true := by
      intro c hc
      rw [bne_iff_ne]
      rintro rfl
      exact hnul hc
    have hrest : ∀ c ∈ rest.toList.head?, (c != '\x00') = false :=
      fun c hc => bne_eq_false_iff_eq.mpr (hend c hc)
    unfold beforeNul
    rw [String.toList_append, takeWhile_append_of_head? hid hrest, String.ofList_toList]

theorem ne_zero_of_mem_utf8EncodeChar {c : Char} {byte : UInt8} (h : c ≠ '\x00')
    (hbyte : byte ∈ String.utf8EncodeChar c) : byte ≠ 0 := by
  have hpos : c.val.toNat ≠ 0 := fun hzero => h (Char.ext (UInt32.toNat_inj.mp hzero))
  rw [Ne, ← UInt8.toNat_inj]
  show byte.toNat ≠ 0
  revert hbyte
  fun_cases String.utf8EncodeChar c
  all_goals
    simp only [List.mem_cons, List.not_mem_nil, or_false]
    intro hbyte
  · rw [hbyte, UInt8.toNat_ofNat']
    omega
  · rcases hbyte with rfl | rfl <;> rw [UInt8.toNat_ofNat'] <;> omega
  · rcases hbyte with rfl | rfl | rfl <;> rw [UInt8.toNat_ofNat'] <;> omega
  · rcases hbyte with rfl | rfl | rfl | rfl <;> rw [UInt8.toNat_ofNat'] <;> omega

/-- The bytes before the first zero are those of the text before the first NUL. -/
theorem bytes_beforeNul (text : String) :
    Text.bytes (beforeNul text) = (Text.bytes text).takeWhile fun byte => byte != 0 := by
  obtain ⟨hnul, rest, htext, hend⟩ := beforeNul_eq_iff.mp (rfl : beforeNul text = _)
  have hid : ∀ byte ∈ Text.bytes (beforeNul text), (byte != 0) = true := by
    intro byte hbyte
    rw [Text.bytes_eq_flatMap, List.mem_flatMap] at hbyte
    obtain ⟨c, hc, hbyte⟩ := hbyte
    refine bne_iff_ne.mpr (ne_zero_of_mem_utf8EncodeChar ?_ hbyte)
    rintro rfl
    exact hnul hc
  have hrest : ∀ byte ∈ (Text.bytes rest).head?, (byte != 0) = false := by
    rw [Text.bytes_eq_flatMap]
    cases hchars : rest.toList with
    | nil => exact fun byte hbyte => nomatch hbyte
    | cons c chars =>
      rw [hend c (by rw [hchars]; rfl)]
      intro byte hbyte
      rw [← Option.some.inj hbyte]
      rfl
  have hbytes : Text.bytes text = Text.bytes (beforeNul text) ++ Text.bytes rest :=
    (congrArg Text.bytes htext).trans (Text.bytes_append _ _)
  rw [hbytes, takeWhile_append_of_head? hid hrest]

/-! ## The request -/

/-- The request for an identifier that fits. -/
def requestFor (id : String) : List UInt8 :=
  [Request.gameIdSend.byte, 0, UInt8.ofNat ((Text.bytes id).length + 1)] ++ Text.bytes id ++ [0]

/-- An identifier fits into a request if there are 60 bytes at most before its first zero byte. -/
def Fits (gameId : String) : Prop :=
  ((Text.bytes gameId).takeWhile fun byte => byte != 0).length ≤ 60

instance : Decidable (Fits gameId) := inferInstanceAs (Decidable (_ ≤ _))

theorem fits_iff : Fits gameId ↔ (Text.bytes (beforeNul gameId)).length ≤ maxLength := by
  rw [bytes_beforeNul]
  rfl

theorem request_eq (gameId : String) :
    request gameId =
      if Fits gameId then .ok (requestFor (beforeNul gameId)) else .error .requestTooLarge :=
  if_congr fits_iff.symm rfl rfl

theorem length_requestFor : (requestFor id).length = (Text.bytes id).length + 4 := by
  unfold requestFor
  simp only [List.length_append, List.length_cons, List.length_nil]
  omega

theorem length_requestFor_le (h : (Text.bytes id).length ≤ maxLength) :
    (requestFor id).length ≤ requestCapacity := by
  rw [length_requestFor]
  unfold maxLength headerLength requestCapacity at h
  unfold requestCapacity
  omega

end Card.GameId

/-! ## What a device makes of the request -/

namespace Device

open Card.GameId

/-- The device after the packet that tells a card in its place which game is running. -/
def notified (id : String) : Device → Device
  | gamepad pad => gamepad pad
  | storageCard card =>
    storageCard { card with
      request := requestFor id
      gameId := if card.takesGameIds then some id else card.gameId }
  | script s =>
    if s.address = .memoryCard then script { s with received := requestFor id } else script s

variable {id : String}

/-- The length byte takes the closing zero off again, and the bytes of a text are well formed. -/
theorem StorageCard.announced?_requestFor (h : (Text.bytes id).length ≤ maxLength) :
    StorageCard.announced? (requestFor id) = some id := by
  have hlength : (UInt8.ofNat ((Text.bytes id).length + 1)).toNat - 1 = (Text.bytes id).length := by
    unfold maxLength headerLength requestCapacity at h
    rw [UInt8.toNat_ofNat']
    omega
  have hcode : (Request.gameIdSend.byte = Request.gameIdSend.byte) := rfl
  unfold requestFor
  show (if Request.gameIdSend.byte = Request.gameIdSend.byte then
    some ((Text.ofBytes? ((Text.bytes id ++ [0]).take _)).getD "") else none) = some id
  rw [if_pos hcode, hlength, List.take_left, Text.ofBytes?_bytes]
  rfl

/-- Whoever listens for cards is notified by the packet. -/
theorem packet_requestFor {device : Device} (h : (Text.bytes id).length ≤ maxLength)
    (haddress : device.address = .memoryCard) :
    (device.packet (requestFor id)).2 = device.notified id := by
  have hwhole : (requestFor id).take requestCapacity = requestFor id :=
    List.take_of_length_le (length_requestFor_le h)
  cases device with
  | gamepad pad => cases haddress
  | storageCard card =>
    rw [packet_snd]
    show ((storageCard card.start).exchangeFrom 0 _).2.finish = _
    rw [exchangeFrom_storageCard, hwhole]
    show storageCard (StorageCard.finish { card with request := requestFor id }) = _
    unfold StorageCard.finish notified
    dsimp only
    rw [StorageCard.announced?_requestFor h, Option.some_or]
    cases hcard : card.takesGameIds <;> rfl
  | script s =>
    have hfits : (requestFor id).take Script.capacity = requestFor id := hwhole
    rw [packet_snd]
    show ((script s.start).exchangeFrom 0 _).2.finish = _
    rw [exchangeFrom_script, hfits]
    exact (if_pos haddress).symm

/-- Whoever does not listen for cards is not notified. -/
theorem notified_of_ne {device : Device} (haddress : device.address ≠ .memoryCard) :
    device.notified id = device := by
  cases device with
  | gamepad pad => rfl
  | storageCard card => exact absurd rfl haddress
  | script s => exact if_neg haddress

end Device

end ConsoleBus

import ConsoleBus.Proofs.Lookups

/-!
# Whole packets

A device sees a packet byte by byte. What it does to a whole packet follows from what it does to
each byte: there are as many answers as bytes, a device that stores bytes has stored the first ones
as far as they fit, and if no lookup fails at any byte then none fails in the packet.
-/

namespace ConsoleBus

theorem Bounded.push_append_take {α : Type} {capacity : Nat} {items : List α} (item : α)
    (later : List α) (h : items.length ≤ capacity) :
    (push capacity items item ++ later).take capacity =
      (items ++ item :: later).take capacity := by
  unfold push
  by_cases hroom : items.length < capacity
  · rw [if_pos hroom, List.append_assoc]
    rfl
  · have hfull : items.length = capacity := Nat.le_antisymm h (Nat.le_of_not_lt hroom)
    rw [if_neg hroom, List.take_left' hfull, List.take_left' hfull]

namespace Device

variable {device : Device} {index : Nat} {byte : UInt8} {bytes : List UInt8}

/-! ## Byte by byte -/

theorem exchangeFrom_cons :
    device.exchangeFrom index (byte :: bytes) =
      ((device.exchange index byte).1 ::
        ((device.exchange index byte).2.exchangeFrom (index + 1) bytes).1,
        ((device.exchange index byte).2.exchangeFrom (index + 1) bytes).2) := rfl

theorem packet_fst : (device.packet bytes).1 = (device.start.exchangeFrom 0 bytes).1 := rfl

theorem packet_snd : (device.packet bytes).2 = (device.start.exchangeFrom 0 bytes).2.finish := rfl

theorem length_exchangeFrom (bytes : List UInt8) : ∀ (device : Device) (index : Nat),
    (device.exchangeFrom index bytes).1.length = bytes.length := by
  induction bytes with
  | nil => exact fun _ _ => rfl
  | cons byte bytes ih =>
    intro device index
    rw [exchangeFrom_cons, List.length_cons, List.length_cons, ih]

/-- A device that stores each byte for which it has room has stored the first of them. -/
theorem exchangeFrom_storing {capacity : Nat} (store : List UInt8 → Device)
    (hstore : ∀ items index byte,
      ((store items).exchange index byte).2 = store (Bounded.push capacity items byte))
    (bytes : List UInt8) : ∀ (items : List UInt8) (index : Nat), items.length ≤ capacity →
      ((store items).exchangeFrom index bytes).2 = store ((items ++ bytes).take capacity) := by
  induction bytes with
  | nil =>
    intro items index hroom
    rw [List.append_nil, List.take_of_length_le hroom]
    rfl
  | cons byte bytes ih =>
    intro items index hroom
    rw [exchangeFrom_cons, hstore, ih _ _ (Bounded.length_push_le byte hroom),
      Bounded.push_append_take byte bytes hroom]

/-- A card that was told of the start of a packet stores the bytes of this packet alone. -/
theorem exchangeFrom_storageCard (card : StorageCard) (bytes : List UInt8) :
    ((storageCard card.start).exchangeFrom 0 bytes).2 =
      storageCard { card with request := bytes.take Card.GameId.requestCapacity } :=
  exchangeFrom_storing (fun request => storageCard { card with request }) (fun _ _ _ => rfl)
    bytes [] 0 (Nat.zero_le _)

theorem exchangeFrom_script (s : Script) (bytes : List UInt8) :
    ((script s.start).exchangeFrom 0 bytes).2 =
      script { s with received := bytes.take Script.capacity } :=
  exchangeFrom_storing (fun received => script { s with received }) (fun _ _ _ => rfl)
    bytes [] 0 (Nat.zero_le _)

/-! ## Packets with checked lookups -/

/-- The answers to bytes of a packet from `index` on, and the device after them, if the device
finds all that it looks up. -/
def exchangeFrom? (device : Device) (index : Nat) : List UInt8 → Option (List Answer × Device)
  | [] => some ([], device)
  | byte :: bytes => do
    let (answer, device) ← device.exchange? index byte
    let (answers, device) ← device.exchangeFrom? (index + 1) bytes
    return (answer :: answers, device)

/-- A whole packet, with all lookups checked. -/
def packet? (device : Device) (bytes : List UInt8) : Option (List Answer × Device) := do
  let (answers, device) ← device.start.exchangeFrom? 0 bytes
  let device ← device.finish?
  return (answers, device)

theorem exchangeFrom?_eq (bytes : List UInt8) : ∀ (device : Device) (index : Nat),
    device.exchangeFrom? index bytes = some (device.exchangeFrom index bytes) := by
  induction bytes with
  | nil => exact fun _ _ => rfl
  | cons byte bytes ih =>
    intro device index
    show (device.exchange? index byte).bind _ = _
    rw [exchange?_eq, Option.bind_some]
    show (((device.exchange index byte).2.exchangeFrom? (index + 1) bytes).bind _) = _
    rw [ih]
    rfl

theorem packet?_eq (device : Device) (bytes : List UInt8) :
    device.packet? bytes = some (device.packet bytes) := by
  show (device.start.exchangeFrom? 0 bytes).bind _ = _
  rw [exchangeFrom?_eq, Option.bind_some]
  show (device.start.exchangeFrom 0 bytes).2.finish?.bind _ = _
  rw [finish?_eq]
  rfl

end Device

end ConsoleBus

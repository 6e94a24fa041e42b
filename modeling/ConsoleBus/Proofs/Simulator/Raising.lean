import ConsoleBus.Proofs.Simulator.Usage

/-!
# How often the interrupt is raised

A pulse raises the interrupt when it arrives, if the latch lets it, and it arrives at the start of
an access, even of the one that arms the latch again. Two potentials tell how often this can
happen, whatever is done to the transceiver. The latch lets one pulse through until it is armed
again, and no more than one pulse is on its way at a time. Each time the interrupt is raised, both
go down by one: only arming makes the first one go up, and only a byte that is acknowledged the
second one.
-/

namespace ConsoleBus

namespace Simulator

/-- How often the interrupt goes up from one state to another: once or not at all. -/
def risen (s t : Simulator) : Nat := if s.interrupt = false ∧ t.interrupt = true then 1 else 0

/-- How many pulses are on their way. -/
def pending (s : Simulator) : Nat := if s.pulse.isSome then 1 else 0

/-- How many pulses the latch lets through until it is armed again. -/
def room (s : Simulator) : Nat := if s.latched then 0 else 1

/-- Whether the byte would go out as an address, and the device in the selected port has it. -/
def addressMatched (s : Simulator) (byte : UInt8) : Bool :=
  s.attention && s.stage == .addressing &&
    (s.devices.get s.port).any fun device => device.address.byte == byte

/-- Whether the byte would go out to a device that takes part in the packet and acknowledges it. -/
def byteAcknowledged (s : Simulator) (byte : UInt8) : Bool :=
  s.attention && match s.stage, s.devices.get s.port with
    | .answering index, some device => (device.exchange index byte).1.acknowledged
    | _, _ => false

end Simulator

namespace Use

/-- The state once a pulse that is due has arrived, if the use lets one arrive at all. -/
def arrival : Use → Simulator → Simulator
  | access (.writeMode _), s | access (.writeBaud _), s | handle _ _, s => s
  | access _, s => s.deliverPulse

/-- How often the interrupt goes up in a use: when a pulse arrives, and in what the use does
then. -/
def rises (use : Use) (s : Simulator) : Nat :=
  s.risen (use.arrival s) + (use.arrival s).risen (use.apply s)

/-- Whether the use is a write of the control register that arms the latch. -/
def arms : Use → Bool
  | access (.writeControl value) =>
    value.contains Control.acknowledge || value.contains Control.reset
  | _ => false

/-- How many bytes go out in a use that a device knows as its address. -/
def addresses : Use → Simulator → Nat
  | access (.writeData byte), s => if s.addressMatched byte then 1 else 0
  | _, _ => 0

/-- How many bytes go out in a use that a device acknowledges. -/
def acknowledges : Use → Simulator → Nat
  | access (.writeData byte), s => if s.byteAcknowledged byte then 1 else 0
  | _, _ => 0

end Use

namespace Simulator

/-- A count for each use, summed over a number of uses. -/
def total (count : Use → Simulator → Nat) : Simulator → List Use → Nat
  | _, [] => 0
  | s, use :: uses => count use s + total count (use.apply s) uses

variable {s t : Simulator}

theorem SameWire.addressMatched (h : SameWire s t) (byte : UInt8) :
    t.addressMatched byte = s.addressMatched byte := by
  unfold Simulator.addressMatched
  rw [h.attention, h.stage, h.devices, h.port]

theorem SameWire.byteAcknowledged (h : SameWire s t) (byte : UInt8) :
    t.byteAcknowledged byte = s.byteAcknowledged byte := by
  unfold Simulator.byteAcknowledged
  rw [h.attention, h.stage, h.devices, h.port]

/-- A pulse sets out for an address that a device has, and for a byte that a device acknowledges. -/
theorem clockByte_pulse (s : Simulator) (sent : UInt8) :
    (s.clockByte sent).2.pulse =
      if s.addressMatched sent || s.byteAcknowledged sent then some (s.now + s.latency)
      else s.pulse := by
  unfold clockByte addressMatched byteAcknowledged
  cases s.attention with
  | false => rfl
  | true =>
    cases s.stage with
    | idle | unheard => rfl
    | addressing =>
      cases s.devices.get s.port with
      | none => rfl
      | some device =>
        by_cases haddress : device.address.byte = sent
        · simp [haddress, schedulePulse, setDevice]
        · simp [haddress]
    | answering index =>
      cases s.devices.get s.port with
      | none => rfl
      | some device =>
        cases hmore : (device.exchange index sent).1.acknowledged <;>
          simp [hmore, schedulePulse, setDevice]

theorem writeData_raising (s : Simulator) (sent : UInt8) :
    (s.writeData sent).interrupt = s.deliverPulse.interrupt ∧
      (s.writeData sent).latched = s.deliverPulse.latched ∧
      (s.writeData sent).pulse = (s.deliverPulse.clockByte sent).2.pulse := by
  obtain ⟨stage, devices, pulse, hclocked, -⟩ := clockByte_frame s.deliverPulse sent
  unfold writeData
  dsimp only
  rw [hclocked]
  split <;> exact ⟨rfl, rfl, rfl⟩

theorem settled_raising (control : Control) (s : Simulator) :
    (s.settled control).interrupt = s.interrupt ∧ (s.settled control).latched = s.latched ∧
      (s.settled control).pulse = s.pulse := by
  rcases settled_cases control s with ⟨-, hs⟩ | ⟨-, -, hs⟩ | ⟨-, -, hs⟩ <;> rw [hs] <;>
    exact ⟨rfl, rfl, rfl⟩

/-! ## A single use -/

/-- From the first state to the second the interrupt does not go up, the latch changes only if it
may be armed, and no more than so many pulses set out. -/
structure Calms (arms : Bool) (requests : Nat) (s t : Simulator) : Prop where
  interrupt : t.interrupt = true → s.interrupt = true
  latched : arms = false → t.latched = s.latched
  pending : t.pending ≤ s.pending + requests

theorem calms_of_eq {arms : Bool} {requests : Nat} (hinterrupt : t.interrupt = s.interrupt)
    (hlatched : t.latched = s.latched) (hpulse : t.pulse = s.pulse) :
    Calms arms requests s t where
  interrupt := fun h => hinterrupt ▸ h
  latched := fun _ => hlatched
  pending := by
    unfold Simulator.pending
    rw [hpulse]
    exact Nat.le_add_right _ _

theorem calms_writeControl (s : Simulator) (value : Control) :
    Calms (value.contains Control.acknowledge || value.contains Control.reset) 0
      s.deliverPulse (s.writeControl value) := by
  obtain ⟨hinterrupt, hlatched, hpulse⟩ :=
    settled_raising ((value.diff Control.acknowledge).diff Control.reset) (s.strobed value)
  rw [writeControl_eq]
  by_cases hreset : value.contains Control.reset = true
  · rw [strobed_of_reset hreset] at hinterrupt hlatched hpulse ⊢
    refine ⟨fun h => ?_, fun h => ?_, ?_⟩
    · rw [hinterrupt] at h
      cases h
    · rw [hreset, Bool.or_true] at h
      cases h
    · unfold pending
      rw [hpulse]
      exact Nat.zero_le _
  · rw [strobed_of_not_reset hreset] at hinterrupt hlatched hpulse ⊢
    refine ⟨fun h => hinterrupt ▸ h, fun h => ?_, ?_⟩
    · rw [hlatched, (Bool.or_eq_false_iff.mp h).1, Bool.not_false, Bool.and_true]
    · unfold pending
      rw [hpulse]
      exact Nat.le_refl _

theorem calms_writeData (s : Simulator) (sent : UInt8) :
    Calms false
      ((if s.addressMatched sent then 1 else 0) + if s.byteAcknowledged sent then 1 else 0)
      s.deliverPulse (s.writeData sent) := by
  obtain ⟨hinterrupt, hlatched, hpulse⟩ := writeData_raising s sent
  refine ⟨fun h => hinterrupt ▸ h, fun _ => hlatched, ?_⟩
  unfold pending
  rw [hpulse, clockByte_pulse, (sameWire_deliverPulse s).addressMatched,
    (sameWire_deliverPulse s).byteAcknowledged]
  cases s.addressMatched sent <;> cases s.byteAcknowledged sent <;> simp

theorem calms_use (use : Use) (s : Simulator) :
    Calms use.arms (use.addresses s + use.acknowledges s) (use.arrival s) (use.apply s) := by
  cases use with
  | access a =>
    cases a with
    | readControl | readStatus | readData | writeMode | writeBaud =>
      exact calms_of_eq rfl rfl rfl
    | writeControl value => exact calms_writeControl s value
    | writeData byte => exact calms_writeData s byte
    | readInterrupt =>
      have hinert : Inert fun s => { s with interruptReads := s.interruptReads + 1 } := {}
      show Calms false 0 s.deliverPulse
        { s with interruptReads := s.interruptReads + 1 }.deliverPulse
      rw [hinert.deliverPulse s]
      exact calms_of_eq rfl rfl rfl
    | clearInterrupt =>
      show Calms false 0 s.deliverPulse { s.deliverPulse with interrupt := false }
      exact ⟨fun h => (nomatch h), fun _ => rfl, Nat.le_add_right _ _⟩
  | handle handling kept =>
    show Calms false 0 s (handling.apply s)
    cases handling with
    | press port buttons =>
      rw [Handling.apply_press_eq]
      exact calms_of_eq rfl rfl rfl
    | plug | setLatency | pass | clearLog => exact calms_of_eq rfl rfl rfl

/-- A pulse that arrives uses up itself, and the room in the latch if it raises the interrupt. -/
theorem risen_deliverPulse (s : Simulator) :
    s.risen s.deliverPulse + s.deliverPulse.room ≤ s.room ∧
      s.risen s.deliverPulse + s.deliverPulse.pending ≤ s.pending := by
  rcases deliverPulse_cases s with
    ⟨-, hs⟩ | ⟨due, hpulse, -, hready, hs⟩ | ⟨due, hpulse, -, -, hs⟩
  · rw [hs]
    simp [risen]
  · rw [hs]
    unfold risen room pending
    rw [hpulse, hready.2]
    cases s.interrupt <;> simp
  · rw [hs]
    simp [risen, room, pending, hpulse]

theorem ready_of_risen (h : 0 < s.risen s.deliverPulse) : s.Ready := by
  rcases deliverPulse_cases s with ⟨-, hs⟩ | ⟨_, _, _, hready, -⟩ | ⟨_, _, _, _, hs⟩
  · rw [hs] at h
    simp [risen] at h
  · exact hready
  · rw [hs] at h
    simp [risen] at h

theorem Calms.risen {arms : Bool} {requests : Nat} (h : Calms arms requests s t) :
    s.risen t = 0 := by
  refine if_neg fun hrisen => ?_
  have hraised := h.interrupt hrisen.2
  rw [hrisen.1] at hraised
  cases hraised

theorem Calms.room {requests : Nat} (h : Calms false requests s t) : t.room = s.room := by
  unfold Simulator.room
  rw [h.latched rfl]

/-- Either nothing can arrive in a use, or it is an access that lets a due pulse arrive first. -/
theorem arrival_cases (use : Use) (s : Simulator) :
    use.arrival s = s ∨ (∃ a, use = .access a) ∧ use.arrival s = s.deliverPulse := by
  cases use with
  | access a =>
    cases a with
    | writeMode | writeBaud => exact .inl rfl
    | readControl | readStatus | readData | writeControl | writeData | readInterrupt
    | clearInterrupt => exact .inr ⟨⟨_, rfl⟩, rfl⟩
  | handle => exact .inl rfl

variable {use : Use}

/-- The interrupt goes up only with a pulse that arrives. -/
theorem rises_eq (use : Use) (s : Simulator) : use.rises s = s.risen (use.arrival s) := by
  unfold Use.rises
  rw [(calms_use use s).risen]
  rfl

/-- Whoever compares the interrupt before and after a use sees no rise that is not counted. -/
theorem risen_le_rises (use : Use) (s : Simulator) : s.risen (use.apply s) ≤ use.rises s := by
  unfold Use.rises risen
  cases s.interrupt <;> cases (use.arrival s).interrupt <;> cases (use.apply s).interrupt <;> simp

theorem risen_self (s : Simulator) : s.risen s = 0 := by simp [risen]

theorem risen_arrival (use : Use) (s : Simulator) :
    s.risen (use.arrival s) + (use.arrival s).room ≤ s.room ∧
      s.risen (use.arrival s) + (use.arrival s).pending ≤ s.pending := by
  rcases arrival_cases use s with hself | ⟨-, hdelivered⟩
  · rw [hself, risen_self, Nat.zero_add, Nat.zero_add]
    exact ⟨Nat.le_refl _, Nat.le_refl _⟩
  · rw [hdelivered]
    exact risen_deliverPulse s

theorem rises_le_room (use : Use) (s : Simulator) : use.rises s ≤ s.room := by
  rw [rises_eq]
  exact Nat.le_trans (Nat.le_add_right _ _) (risen_arrival use s).1

theorem rises_add_room (h : use.arms = false) (s : Simulator) :
    use.rises s + (use.apply s).room ≤ s.room := by
  have hcalms := calms_use use s
  rw [h] at hcalms
  rw [rises_eq, hcalms.room]
  exact (risen_arrival use s).1

theorem rises_add_pending (use : Use) (s : Simulator) :
    use.rises s + (use.apply s).pending ≤ s.pending + (use.addresses s + use.acknowledges s) := by
  have hcalms := (calms_use use s).pending
  have harrival := (risen_arrival use s).2
  rw [rises_eq]
  omega

/-- The interrupt goes up only in an access, and only while interrupts are enabled. -/
theorem enabled_of_rises (h : 0 < use.rises s) :
    s.control.contains Control.interruptEnable = true ∧ ∃ a, use = .access a := by
  rw [rises_eq] at h
  rcases arrival_cases use s with hself | ⟨haccess, hdelivered⟩
  · rw [hself, risen_self] at h
    cases h
  · rw [hdelivered] at h
    exact ⟨(ready_of_risen h).1, haccess⟩

/-! ## Whole runs -/

theorem total_append (count : Use → Simulator → Nat) (uses more : List Use) : ∀ s : Simulator,
    total count s (uses ++ more) = total count s uses + total count (s.after uses) more := by
  induction uses with
  | nil => exact fun s => (Nat.zero_add _).symm
  | cons use uses ih =>
    intro s
    show count use s + total count (use.apply s) (uses ++ more) = _
    rw [ih, ← Nat.add_assoc]
    rfl

/-- As long as the latch is not armed again, every rise uses up room in it. -/
theorem total_rises_add_room (uses : List Use) : ∀ s : Simulator,
    (∀ use ∈ uses, use.arms = false) →
      total Use.rises s uses + (s.after uses).room ≤ s.room := by
  induction uses with
  | nil => exact fun s _ => Nat.le_of_eq (Nat.zero_add _)
  | cons use uses ih =>
    intro s h
    have hstep := rises_add_room (h use List.mem_cons_self) s
    have hrest := ih (use.apply s) fun other hother => h other (List.mem_cons_of_mem _ hother)
    show use.rises s + total Use.rises (use.apply s) uses + ((use.apply s).after uses).room ≤ _
    omega

/-- Every rise uses up a pulse, and pulses come from acknowledged bytes alone. -/
theorem total_rises_add_pending (uses : List Use) : ∀ s : Simulator,
    total Use.rises s uses + (s.after uses).pending ≤
      s.pending + (total Use.addresses s uses + total Use.acknowledges s uses) := by
  induction uses with
  | nil => exact fun s => Nat.le_of_eq (Nat.zero_add _)
  | cons use uses ih =>
    intro s
    have hstep := rises_add_pending use s
    have hrest := ih (use.apply s)
    show use.rises s + total Use.rises (use.apply s) uses + ((use.apply s).after uses).pending ≤
      s.pending + (use.addresses s + total Use.addresses (use.apply s) uses +
        (use.acknowledges s + total Use.acknowledges (use.apply s) uses))
    omega

theorem room_le_one (s : Simulator) : s.room ≤ 1 := by
  unfold room
  cases s.latched <;> simp

/-- A transceiver is switched on and then used in any way. From any moment on, the interrupt goes
up at most once until the latch is armed again, where a pulse that arrives in the very write that
arms it comes before. It goes up only in an access, and only if interrupts were enabled before.
Altogether it goes up no more often than there were addresses that a plugged device has and bytes
that a device acknowledged. -/
theorem one_interrupt_per_arming (now : Nat) (devices : PerPort (Option Device)) (latency : Nat) :
    let start := switchedOn now devices latency
    (∀ (earlier between : List Use) (last : Use), (∀ use ∈ between, use.arms = false) →
      total Use.rises (start.after earlier) (between ++ [last]) ≤ 1) ∧
    (∀ (earlier : List Use) (use : Use), 0 < use.rises (start.after earlier) →
      (start.after earlier).control.contains Control.interruptEnable = true ∧
        ∃ a, use = .access a) ∧
    ∀ uses, total Use.rises start uses ≤
      total Use.addresses start uses + total Use.acknowledges start uses := by
  intro start
  refine ⟨fun earlier between last hidle => ?_, fun earlier use => enabled_of_rises,
    fun uses => ?_⟩
  · have hbetween := total_rises_add_room between (start.after earlier) hidle
    have hlast := rises_le_room last ((start.after earlier).after between)
    have hroom := room_le_one (start.after earlier)
    have hsingle : total Use.rises ((start.after earlier).after between) [last] =
        last.rises ((start.after earlier).after between) := Nat.add_zero _
    rw [total_append, hsingle]
    omega
  · have htotal := total_rises_add_pending uses start
    have hstart : start.pending = 0 := rfl
    omega

/-- A transceiver with a slow pad. -/
def slowPad : Simulator := switchedOn 0 ⟨some (.gamepad ⟨⟨0⟩, none⟩), none⟩ 2000

/-- A write that asserts attention, if need be, and arms the latch. -/
def armingWrite : Use := .access (.writeControl ⟨0x1013⟩)

/-- The pad is addressed, and time passes. -/
def addressed : List Use := [.access (.writeData 0x01), .handle (.pass 2000) nofun]

/-- The pad is addressed, the latch is armed too late, and the next byte is acknowledged after the
interrupt was cleared. -/
def lateUses : List Use :=
  armingWrite :: addressed ++ [armingWrite, .access .clearInterrupt, .access (.writeData 0x42),
    .handle (.pass 2000) nofun, .access .clearInterrupt]

/-- The pulse for the address arrives in the very write that arms the latch again, so it counts
before that write, and there is room for the next one. -/
theorem one_interrupt_per_arming_late :
    total Use.rises (slowPad.after [armingWrite]) (addressed ++ [armingWrite]) = 1 ∧
    total Use.rises (slowPad.after [armingWrite]) (addressed ++ [armingWrite]) ≤ 1 ∧
    (slowPad.after (armingWrite :: addressed)).control.contains Control.interruptEnable = true ∧
    total Use.rises slowPad lateUses = 2 ∧ total Use.addresses slowPad lateUses = 1 ∧
    1 ≤ total Use.acknowledges slowPad lateUses := by
  obtain ⟨honce, henabled, hall⟩ :=
    one_interrupt_per_arming 0 ⟨some (.gamepad ⟨⟨0⟩, none⟩), none⟩ 2000
  have hidle : ∀ use ∈ addressed, use.arms = false := by decide
  have hlate : 0 < armingWrite.rises (slowPad.after (armingWrite :: addressed)) := by decide
  have hrises : total Use.rises slowPad lateUses = 2 := by decide
  have haddresses : total Use.addresses slowPad lateUses = 1 := by decide
  have hbound : total Use.rises slowPad lateUses ≤
      total Use.addresses slowPad lateUses + total Use.acknowledges slowPad lateUses :=
    hall lateUses
  rw [hrises, haddresses] at hbound
  exact ⟨by decide, honce [armingWrite] addressed armingWrite hidle,
    (henabled (armingWrite :: addressed) armingWrite hlate).1, hrises, haddresses,
    Nat.le_of_add_le_add_left hbound⟩

end Simulator

end ConsoleBus

import ConsoleBus.Proofs.Flags
import ConsoleBus.Simulator.Access

/-!
# Pulses and the wire

Almost every access of the simulated transceiver first lets a pulse arrive that is due. This
changes the interrupt, the latch and the pulse itself, and nothing that can be told from the wire.
`SameWire` relates two states that differ in such things only, so that what happens on the wire can
be followed without any regard to time.
-/

namespace ConsoleBus.Simulator

variable {s t u : Simulator}

/-! ## The delivery of a pulse -/

/-- No pulse is due: there is none, or its time has not come. -/
def NoneDue (s : Simulator) : Prop := ∀ due ∈ s.pulse, s.now < due

theorem noneDue_of_none (h : s.pulse = none) : s.NoneDue := by
  intro due hdue
  rw [h] at hdue
  cases hdue

theorem noneDue_of_lt {due : Nat} (hpulse : s.pulse = some due) (hlate : s.now < due) :
    s.NoneDue := by
  intro other hother
  rw [hpulse] at hother
  rw [← Option.some.inj hother]
  exact hlate

/-- A pulse that arrives would raise the interrupt. -/
def Ready (s : Simulator) : Prop :=
  s.control.contains Control.interruptEnable = true ∧ s.latched = false

theorem deliverPulse_of_ready {due : Nat} (hpulse : s.pulse = some due) (hdue : due ≤ s.now)
    (h : s.Ready) :
    s.deliverPulse = { s with pulse := none, latched := true, interrupt := true } := by
  unfold deliverPulse
  rw [hpulse]
  simp only [if_neg (Nat.not_lt.mpr hdue), h.1, h.2, Bool.not_false, Bool.and_self, if_true]

theorem deliverPulse_of_not_ready {due : Nat} (hpulse : s.pulse = some due) (hdue : due ≤ s.now)
    (h : ¬ s.Ready) : s.deliverPulse = { s with pulse := none } := by
  have hshut : (s.control.contains Control.interruptEnable && !s.latched) = false := by
    rw [Bool.eq_false_iff]
    intro hopen
    rw [Bool.and_eq_true, Bool.not_eq_true'] at hopen
    exact h hopen
  unfold deliverPulse
  rw [hpulse]
  simp only [if_neg (Nat.not_lt.mpr hdue), hshut, Bool.false_eq_true, if_false]

/-- All that a delivery can do. -/
theorem deliverPulse_cases (s : Simulator) :
    (s.NoneDue ∧ s.deliverPulse = s) ∨
    (∃ due, s.pulse = some due ∧ due ≤ s.now ∧ s.Ready ∧
      s.deliverPulse = { s with pulse := none, latched := true, interrupt := true }) ∨
    (∃ due, s.pulse = some due ∧ due ≤ s.now ∧ ¬ s.Ready ∧
      s.deliverPulse = { s with pulse := none }) := by
  cases hpulse : s.pulse with
  | none =>
    refine .inl ⟨noneDue_of_none hpulse, ?_⟩
    unfold deliverPulse
    rw [hpulse]
  | some due =>
    by_cases hlt : s.now < due
    · refine .inl ⟨noneDue_of_lt hpulse hlt, ?_⟩
      unfold deliverPulse
      rw [hpulse]
      exact if_pos hlt
    · have hdue : due ≤ s.now := Nat.le_of_not_lt hlt
      by_cases hready : s.Ready
      · exact .inr (.inl ⟨due, rfl, hdue, hready, deliverPulse_of_ready hpulse hdue hready⟩)
      · exact .inr (.inr ⟨due, rfl, hdue, hready, deliverPulse_of_not_ready hpulse hdue hready⟩)

theorem deliverPulse_eq_self (h : s.NoneDue) : s.deliverPulse = s := by
  rcases deliverPulse_cases s with ⟨-, hs⟩ | ⟨due, hpulse, hdue, -⟩ | ⟨due, hpulse, hdue, -⟩
  · exact hs
  · exact absurd (h due hpulse) (Nat.not_lt.mpr hdue)
  · exact absurd (h due hpulse) (Nat.not_lt.mpr hdue)

@[simp] theorem deliverPulse_control (s : Simulator) : s.deliverPulse.control = s.control := by
  rcases deliverPulse_cases s with ⟨-, hs⟩ | ⟨_, _, _, _, hs⟩ | ⟨_, _, _, _, hs⟩ <;> rw [hs]

@[simp] theorem deliverPulse_now (s : Simulator) : s.deliverPulse.now = s.now := by
  rcases deliverPulse_cases s with ⟨-, hs⟩ | ⟨_, _, _, _, hs⟩ | ⟨_, _, _, _, hs⟩ <;> rw [hs]

@[simp] theorem deliverPulse_received (s : Simulator) : s.deliverPulse.received = s.received := by
  rcases deliverPulse_cases s with ⟨-, hs⟩ | ⟨_, _, _, _, hs⟩ | ⟨_, _, _, _, hs⟩ <;> rw [hs]

@[simp] theorem deliverPulse_interruptReads (s : Simulator) :
    s.deliverPulse.interruptReads = s.interruptReads := by
  rcases deliverPulse_cases s with ⟨-, hs⟩ | ⟨_, _, _, _, hs⟩ | ⟨_, _, _, _, hs⟩ <;> rw [hs]

/-- A pulse that is due leaves no pulse behind. -/
theorem deliverPulse_pulse_of_due (h : ∀ due ∈ s.pulse, due ≤ s.now) :
    s.deliverPulse.pulse = none := by
  rcases deliverPulse_cases s with ⟨hnone, hs⟩ | ⟨_, _, _, _, hs⟩ | ⟨_, _, _, _, hs⟩
  · rw [hs]
    cases hpulse : s.pulse with
    | none => rfl
    | some due => exact absurd (hnone due hpulse) (Nat.not_lt.mpr (h due hpulse))
  · rw [hs]
  · rw [hs]

theorem noneDue_deliverPulse (s : Simulator) : s.deliverPulse.NoneDue := by
  rcases deliverPulse_cases s with ⟨hnone, hs⟩ | ⟨_, _, _, _, hs⟩ | ⟨_, _, _, _, hs⟩
  · rw [hs]
    exact hnone
  · rw [hs]
    exact fun _ hdue => nomatch hdue
  · rw [hs]
    exact fun _ hdue => nomatch hdue

/-- After a delivery nothing is due until time passes. -/
@[simp] theorem deliverPulse_deliverPulse (s : Simulator) :
    s.deliverPulse.deliverPulse = s.deliverPulse :=
  deliverPulse_eq_self (noneDue_deliverPulse s)

/-! ## Changes that no delivery notices -/

/-- A change to a transceiver that a delivery neither depends on nor gets in the way of. -/
structure Inert (f : Simulator → Simulator) : Prop where
  now : ∀ s, (f s).now = s.now := by intro s; rfl
  control : ∀ s, (f s).control = s.control := by intro s; rfl
  latched : ∀ s, (f s).latched = s.latched := by intro s; rfl
  pulse : ∀ s, (f s).pulse = s.pulse := by intro s; rfl
  raised : ∀ s : Simulator, f { s with pulse := none, latched := true, interrupt := true } =
    { f s with pulse := none, latched := true, interrupt := true } := by intro s; rfl
  lost : ∀ s : Simulator, f { s with pulse := none } = { f s with pulse := none } := by
    intro s; rfl

theorem Inert.deliverPulse {f : Simulator → Simulator} (hf : Inert f) (s : Simulator) :
    (f s).deliverPulse = f s.deliverPulse := by
  have hready : (f s).Ready ↔ s.Ready := by
    unfold Ready
    rw [hf.control, hf.latched]
  rcases deliverPulse_cases s with
    ⟨hnone, hs⟩ | ⟨due, hpulse, hdue, hopen, hs⟩ | ⟨due, hpulse, hdue, hshut, hs⟩
  · have hlate : (f s).NoneDue := by
      intro due hdue
      rw [hf.pulse] at hdue
      rw [hf.now]
      exact hnone due hdue
    rw [hs, deliverPulse_eq_self hlate]
  · rw [← hf.pulse] at hpulse
    rw [← hf.now] at hdue
    rw [hs, hf.raised, deliverPulse_of_ready hpulse hdue (hready.mpr hopen)]
  · rw [← hf.pulse] at hpulse
    rw [← hf.now] at hdue
    rw [hs, hf.lost, deliverPulse_of_not_ready hpulse hdue (mt hready.mp hshut)]

/-- A delivery may come early. -/
theorem Inert.early {f : Simulator → Simulator} (hf : Inert f) (s : Simulator) :
    (f s.deliverPulse).deliverPulse = (f s).deliverPulse := by
  rw [hf.deliverPulse, hf.deliverPulse, deliverPulse_deliverPulse]

theorem inert_setDevice (port : Port) (device : Option Device) :
    Inert fun s => s.setDevice port device := {}

/-! ## States that cannot be told apart on the wire -/

/-- The two states differ at most in time, in what is received, and in the interrupt with its latch
and its pulse. -/
structure SameWire (s t : Simulator) : Prop where
  control : t.control = s.control
  mode : t.mode = s.mode
  baud : t.baud = s.baud
  latency : t.latency = s.latency
  stage : t.stage = s.stage
  devices : t.devices = s.devices
  log : t.log = s.log

theorem SameWire.refl (s : Simulator) : SameWire s s := ⟨rfl, rfl, rfl, rfl, rfl, rfl, rfl⟩

theorem SameWire.trans (h : SameWire s t) (h' : SameWire t u) : SameWire s u :=
  ⟨h'.control.trans h.control, h'.mode.trans h.mode, h'.baud.trans h.baud,
    h'.latency.trans h.latency, h'.stage.trans h.stage, h'.devices.trans h.devices,
    h'.log.trans h.log⟩

theorem SameWire.port (h : SameWire s t) : t.port = s.port := by
  unfold Simulator.port
  rw [h.control]

theorem SameWire.attention (h : SameWire s t) : t.attention = s.attention := by
  unfold Simulator.attention
  rw [h.control]

theorem sameWire_deliverPulse (s : Simulator) : SameWire s s.deliverPulse := by
  rcases deliverPulse_cases s with ⟨-, hs⟩ | ⟨_, _, _, _, hs⟩ | ⟨_, _, _, _, hs⟩
  · rw [hs]
    exact .refl s
  · rw [hs]
    exact ⟨rfl, rfl, rfl, rfl, rfl, rfl, rfl⟩
  · rw [hs]
    exact ⟨rfl, rfl, rfl, rfl, rfl, rfl, rfl⟩

theorem sameWire_pass (s : Simulator) (nanos : Nat) : SameWire s (s.pass nanos) :=
  ⟨rfl, rfl, rfl, rfl, rfl, rfl, rfl⟩

end ConsoleBus.Simulator

import ConsoleBus.Proofs.Simulator.Packets

/-!
# What a wait finds

A wait sees the acknowledge of the last byte if its pulse comes due no later than the last look,
and sees nothing if no pulse is on its way. Either way it leaves the transceiver `Quiet`. A pulse
that nobody waits for stays on its way, and is harmless if it comes due before the next packet has
cleared the interrupt; `Within` says how long that may take.
-/

namespace ConsoleBus

namespace Config

/-- How long after its start a wait for an acknowledge looks for the last time. -/
def lastLook (config : Config) : Nat :=
  ((config.timeout + config.pollStep - 1) / config.pollStep - 1) * config.pollStep

/-- How long the last byte of a packet that is sent blindly is followed by nothing, until the next
exchange clears the interrupt. -/
def settling (config : Config) : Nat :=
  clampMicros config.byteDelay + clampMicros config.attentionDelay + clampMicros config.preDelay

theorem lastLook_lt {config : Config} (h : 0 < config.timeout) :
    config.lastLook < config.timeout := by
  unfold lastLook
  have hstep := config.pollStep_pos
  generalize config.timeout = t at h ⊢
  generalize config.pollStep = step at hstep ⊢
  have hround : (t + step - 1) / step * step ≤ t + step - 1 := Nat.div_mul_le_self _ _
  rw [Nat.sub_mul]
  omega

/-- After the last look there is no more than one step left. -/
theorem timeout_le_lastLook_add (config : Config) :
    config.timeout ≤ config.lastLook + config.pollStep := by
  unfold lastLook
  have hstep := config.pollStep_pos
  generalize config.timeout = t
  generalize config.pollStep = step at hstep ⊢
  have hround : t + step - 1 < (t + step - 1) / step * step + step := Nat.lt_div_mul_add hstep
  rw [Nat.sub_mul]
  omega

/-- A wait looks only at whole steps after its start, and the last look is the last of those that
come before the timeout. -/
theorem le_lastLook {config : Config} {looks : Nat} (h : looks * config.pollStep < config.timeout) :
    looks * config.pollStep ≤ config.lastLook := by
  unfold lastLook
  have hstep := config.pollStep_pos
  generalize config.timeout = t at h ⊢
  generalize config.pollStep = step at h hstep ⊢
  have hlooks : looks + 1 ≤ (t + step - 1) / step := by
    rw [Nat.le_div_iff_mul_le hstep, Nat.add_mul]
    omega
  exact Nat.mul_le_mul_right step (by omega)

end Config

namespace Simulator

variable {s t : Simulator} {port : Port} {asserted : Bool} {config : Config} {limit slack : Nat}

/-! ## Quiet transceivers -/

/-- No pulse has arrived and none is on its way, and the latch is armed. -/
structure Quiet (s : Simulator) : Prop where
  pulse : s.pulse = none
  interrupt : s.interrupt = false
  latched : s.latched = false

theorem Quiet.deliverPulse_eq (h : s.Quiet) : s.deliverPulse = s :=
  deliverPulse_eq_self (noneDue_of_none h.pulse)

theorem Quiet.deliverPulse (h : s.Quiet) : s.deliverPulse.Quiet := by
  rw [h.deliverPulse_eq]
  exact h

theorem Quiet.pass (h : s.Quiet) (nanos : Nat) : (s.pass nanos).Quiet :=
  ⟨h.pulse, h.interrupt, h.latched⟩

theorem Quiet.drained (h : s.Quiet) : s.drained.Quiet :=
  ⟨h.deliverPulse.pulse, h.deliverPulse.interrupt, h.deliverPulse.latched⟩

/-- Once every pulse is due, arming leaves nothing to be seen. -/
theorem quiet_fresh (h : ∀ due ∈ s.pulse, due ≤ s.now) : s.fresh.Quiet :=
  ⟨deliverPulse_pulse_of_due h, rfl, rfl⟩

theorem quiet_poised (config : Config) (h : ∀ due ∈ s.pulse, due ≤ s.now) :
    (s.poised config).Quiet := by
  have hfresh := quiet_fresh h
  have hraised : (s.fresh.withAttention.pass (clampMicros config.attentionDelay * 1000)).Quiet :=
    ⟨hfresh.pulse, hfresh.interrupt, hfresh.latched⟩
  exact hraised.deliverPulse

theorem Quiet.ended (h : s.Quiet) (config : Config) : (s.ended config).Quiet := by
  have hend := (h.pass (clampMicros config.attentionDelay * 1000)).deliverPulse
  exact ⟨hend.pulse, hend.interrupt, hend.latched⟩

/-! ## Waits that see nothing -/

/-- Time passes, and no pulse arrives in it. -/
structure Idled (s t : Simulator) : Prop extends Passed s t where
  samePulse : t.pulse = s.pulse
  interrupt : t.interrupt = s.interrupt
  latched : t.latched = s.latched

theorem Idled.refl (s : Simulator) : Idled s s := ⟨.refl s, rfl, rfl, rfl⟩

theorem Idled.trans {u : Simulator} (h : Idled s t) (h' : Idled t u) : Idled s u :=
  ⟨h.toPassed.trans h'.toPassed, h'.samePulse.trans h.samePulse, h'.interrupt.trans h.interrupt,
    h'.latched.trans h.latched⟩

theorem Idled.quiet (h : Idled s t) (hs : s.Quiet) : t.Quiet :=
  ⟨h.samePulse.trans hs.pulse, h.interrupt.trans hs.interrupt, h.latched.trans hs.latched⟩

theorem idled_pass (s : Simulator) (nanos : Nat) : Idled s (s.pass nanos) :=
  ⟨passed_pass s nanos, rfl, rfl, rfl⟩

theorem idled_look (h : s.NoneDue) : Idled s s.look := by
  have hlook : s.look = { s with interruptReads := s.interruptReads + 1 } :=
    deliverPulse_eq_self h
  refine ⟨passed_look s, ?_, ?_, ?_⟩ <;> rw [hlook]

/-- A pulse that comes due after every look is not seen. -/
theorem lookForAcknowledge_unseen (remaining : Nat) : ∀ s : Simulator, s.interrupt = false →
    (∀ looks, looks * config.pollStep < remaining →
      ∀ due ∈ s.pulse, s.now + looks * (config.pollStep * 1000) < due) →
    ∃ t, (Bus.lookForAcknowledge config remaining : Bus Simulator Bool) config s =
      some (false, t) ∧ Idled s t := by
  induction remaining using Nat.strongRecOn with
  | ind remaining ih =>
    intro s hinterrupt hlate
    by_cases hpos : 0 < remaining
    · have hnone : s.NoneDue := by
        intro due hdue
        have hfirst := hlate 0 (by omega) due hdue
        omega
      have hlook := idled_look hnone
      have hunseen : ¬ s.look.interrupt = true := by
        rw [hlook.interrupt, hinterrupt]
        exact Bool.false_ne_true
      have hlater : ∀ looks, looks * config.pollStep < remaining - config.pollStep →
          ∀ due ∈ (s.look.pass (config.pollStep * 1000)).pulse,
            (s.look.pass (config.pollStep * 1000)).now + looks * (config.pollStep * 1000) < due := by
        intro looks hlooks due hdue
        have hnext := hlate (looks + 1) (by rw [Nat.succ_mul]; omega) due
          (hlook.samePulse ▸ hdue)
        have hnow : s.look.now = s.now := deliverPulse_now _
        show s.look.now + config.pollStep * 1000 + looks * (config.pollStep * 1000) < due
        rw [Nat.succ_mul] at hnext
        omega
      have hstep := config.pollStep_pos
      obtain ⟨t, hrun, ht⟩ := ih (remaining - config.pollStep) (by omega)
        (s.look.pass (config.pollStep * 1000)) (hlook.interrupt.trans hinterrupt) hlater
      rw [Bus.lookForAcknowledge_of_pos hpos, readInterrupt_apply, if_neg hunseen]
      exact ⟨t, hrun, (hlook.trans (idled_pass _ _)).trans ht⟩
    · have hzero : remaining = 0 := by omega
      rw [hzero, Bus.lookForAcknowledge_zero]
      exact ⟨s, rfl, .refl s⟩

/-- An acknowledge is not seen if it comes after the last look, nor if there is none at all. -/
theorem waitAcknowledge_unseen (hinterrupt : s.interrupt = false)
    (hlate : 0 < config.timeout → ∀ due ∈ s.pulse, s.now + config.lastLook * 1000 < due) :
    ∃ t, (Bus.waitAcknowledge config.timeout : Bus Simulator Bool) config s = some (false, t) ∧
      Idled s t := by
  have hunseen : ∀ looks, looks * config.pollStep < config.timeout →
      ∀ due ∈ s.pulse, s.now + looks * (config.pollStep * 1000) < due := by
    intro looks hlooks due hdue
    have hlast := Config.le_lastLook hlooks
    have hpending := hlate (Nat.lt_of_le_of_lt (Nat.zero_le _) hlooks) due hdue
    rw [← Nat.mul_assoc]
    exact Nat.lt_of_le_of_lt (Nat.add_le_add_left (Nat.mul_le_mul_right 1000 hlast) _) hpending
  exact lookForAcknowledge_unseen config.timeout s hinterrupt hunseen

/-- Where there is nothing to be seen, nothing is seen. -/
theorem waitAcknowledge_quiet (config : Config) (h : s.Quiet) :
    ∃ t, (Bus.waitAcknowledge config.timeout : Bus Simulator Bool) config s = some (false, t) ∧
      t.Quiet ∧ Passed s t := by
  have hlate : 0 < config.timeout → ∀ due ∈ s.pulse, s.now + config.lastLook * 1000 < due := by
    intro _ due hdue
    rw [h.pulse] at hdue
    cases hdue
  obtain ⟨t, hrun, ht⟩ := waitAcknowledge_unseen h.interrupt hlate
  exact ⟨t, hrun, ht.quiet h, ht.toPassed⟩

/-! ## Transceivers that expect a pulse -/

/-- A pulse has arrived, or it will raise the interrupt until the given time. -/
def Expecting (limit : Nat) (s : Simulator) : Prop :=
  (s.pulse = none ∧ s.interrupt = true) ∨
  (s.interrupt = false ∧ s.latched = false ∧ ∃ due, s.pulse = some due ∧ due ≤ limit)

/-- Pulses are forwarded to the interrupt, and the control register holds no strobe. -/
structure Forwarding (asserted : Bool) (s : Simulator) : Prop extends s.Steady asserted where
  enabled : s.control.contains Control.interruptEnable = true

theorem forwarding_of_driven (h : s.control = Control.driven port asserted) :
    s.Forwarding asserted := by
  refine ⟨steady_of_driven h, ?_⟩
  rw [h]
  exact Control.contains_interruptEnable_driven port asserted

theorem Forwarding.sameWire (h : s.Forwarding asserted) (hwire : SameWire s t) :
    t.Forwarding asserted :=
  ⟨h.toSteady.sameWire hwire, hwire.control ▸ h.enabled⟩

theorem Forwarding.carry (h : s.Forwarding asserted) (sent : UInt8) :
    (s.carry sent).Forwarding asserted :=
  ⟨h.toSteady.carry sent, (carry_control s sent).symm ▸ h.enabled⟩

theorem Expecting.deliverPulse (h : s.Forwarding asserted)
    (hs : s.Expecting limit) : s.deliverPulse.Expecting limit := by
  rcases hs with ⟨hpulse, hinterrupt⟩ | ⟨hinterrupt, hlatched, due, hpulse, hdue⟩
  · rw [deliverPulse_eq_self (noneDue_of_none hpulse)]
    exact .inl ⟨hpulse, hinterrupt⟩
  · rcases deliverPulse_cases s with ⟨-, hself⟩ | ⟨_, _, _, _, harrived⟩ | ⟨_, _, _, hmissed, _⟩
    · rw [hself]
      exact .inr ⟨hinterrupt, hlatched, due, hpulse, hdue⟩
    · rw [harrived]
      exact .inl ⟨rfl, rfl⟩
    · exact absurd ⟨h.enabled, hlatched⟩ hmissed

theorem Expecting.look (h : s.Forwarding asserted) (hs : s.Expecting limit) :
    s.look.Expecting limit :=
  Expecting.deliverPulse (s := { s with interruptReads := s.interruptReads + 1 })
    ⟨⟨h.attention, h.strobeless⟩, h.enabled⟩ hs

/-- A look that comes late enough sees the pulse. -/
theorem Expecting.look_interrupt (h : s.Forwarding asserted)
    (hs : s.Expecting limit) (hlimit : limit ≤ s.now) : s.look.interrupt = true := by
  rcases hs with ⟨hpulse, hinterrupt⟩ | ⟨-, hlatched, due, hpulse, hdue⟩
  · unfold Simulator.look
    rw [deliverPulse_eq_self
      (noneDue_of_none (s := { s with interruptReads := s.interruptReads + 1 }) hpulse)]
    exact hinterrupt
  · unfold Simulator.look
    rw [deliverPulse_of_ready (s := { s with interruptReads := s.interruptReads + 1 }) hpulse
      (Nat.le_trans hdue hlimit) ⟨h.enabled, hlatched⟩]

/-- A pulse that was seen is gone. -/
theorem Expecting.quiet_fresh (hs : s.Expecting limit) (hseen : s.interrupt = true) :
    s.fresh.Quiet := by
  rcases hs with ⟨hpulse, -⟩ | ⟨hinterrupt, -⟩
  · refine Simulator.quiet_fresh fun due hdue => ?_
    rw [hpulse] at hdue
    cases hdue
  · rw [hinterrupt] at hseen
    cases hseen

/-- The pulse is seen if it comes due until some look, counted from zero. -/
theorem lookForAcknowledge_expecting (looks : Nat) : ∀ (remaining : Nat) (s : Simulator),
    s.Forwarding asserted → s.Expecting limit →
      limit ≤ s.now + looks * (config.pollStep * 1000) → looks * config.pollStep < remaining →
        ∃ t, (Bus.lookForAcknowledge config remaining : Bus Simulator Bool) config s =
          some (true, t) ∧ t.Quiet ∧ Passed s t := by
  induction looks with
  | zero =>
    intro remaining s h hs hlimit hremaining
    have hseen : s.look.interrupt = true := hs.look_interrupt h (by omega)
    have hlook := h.sameWire (passed_look s).wire
    rw [Bus.lookForAcknowledge_of_pos (by omega), readInterrupt_apply, if_pos hseen,
      withFreshControl_arm hlook.strobeless]
    exact ⟨s.look.fresh, rfl, (hs.look h).quiet_fresh hseen, (passed_look s).trans (passed_fresh _)⟩
  | succ looks ih =>
    intro remaining s h hs hlimit hremaining
    have hlook := h.sameWire (passed_look s).wire
    have hpos : 0 < remaining := by omega
    rw [Bus.lookForAcknowledge_of_pos hpos, readInterrupt_apply]
    by_cases hseen : s.look.interrupt = true
    · rw [if_pos hseen, withFreshControl_arm hlook.strobeless]
      exact ⟨s.look.fresh, rfl, (hs.look h).quiet_fresh hseen,
        (passed_look s).trans (passed_fresh _)⟩
    · rw [if_neg hseen]
      have hnow := (passed_look s).now
      rw [Nat.succ_mul] at hlimit hremaining
      have hlater : limit ≤ (s.look.pass (config.pollStep * 1000)).now +
          looks * (config.pollStep * 1000) := by
        show limit ≤ s.look.now + config.pollStep * 1000 + looks * (config.pollStep * 1000)
        omega
      obtain ⟨t, hrun, hquiet, ht⟩ := ih (remaining - config.pollStep)
        (s.look.pass (config.pollStep * 1000)) (hlook.sameWire (sameWire_pass _ _)) (hs.look h)
        hlater (by omega)
      exact ⟨t, hrun, hquiet, ((passed_look s).trans (passed_pass _ _)).trans ht⟩

/-- An acknowledge is seen if it comes until the last look. -/
theorem waitAcknowledge_expecting (htimeout : 0 < config.timeout)
    (h : s.Forwarding asserted) (hs : s.Expecting limit)
    (hlimit : limit ≤ s.now + config.lastLook * 1000) :
    ∃ t, (Bus.waitAcknowledge config.timeout : Bus Simulator Bool) config s = some (true, t) ∧
      t.Quiet ∧ Passed s t := by
  refine lookForAcknowledge_expecting ((config.timeout + config.pollStep - 1) / config.pollStep - 1)
    config.timeout s h hs ?_ (Config.lastLook_lt htimeout)
  rw [← Nat.mul_assoc]
  exact hlimit

/-! ## Pulses that nobody waits for -/

/-- Any pulse on its way comes due within the given time. -/
def Within (slack : Nat) (s : Simulator) : Prop := ∀ due ∈ s.pulse, due ≤ s.now + slack

theorem Quiet.within (h : s.Quiet) (slack : Nat) : s.Within slack := by
  intro due hdue
  rw [h.pulse] at hdue
  cases hdue

theorem Within.mono {more : Nat} (h : s.Within slack) (hle : slack ≤ more) : s.Within more :=
  fun due hdue => Nat.le_trans (h due hdue) (Nat.add_le_add_left hle _)

theorem Within.passed (h : s.Within slack) (hpassed : Passed s t) : t.Within slack :=
  fun due hdue =>
    Nat.le_trans (h due (hpassed.pulse due hdue)) (Nat.add_le_add_right hpassed.now _)

theorem Within.pass {nanos : Nat} (h : s.Within (nanos + slack)) :
    (s.pass nanos).Within slack := by
  intro due hdue
  have hle := h due hdue
  show due ≤ s.now + nanos + slack
  omega

/-- A byte may send another pulse on its way. -/
theorem Within.carry (h : s.Within slack) (hlatency : s.latency ≤ slack) (sent : UInt8) :
    (s.carry sent).Within slack := by
  obtain ⟨_, _, pulse, hs, hpulse⟩ := carry_frame s sent
  rw [hs]
  intro due hdue
  rcases hpulse with rfl | rfl
  · exact h due hdue
  · rw [← Option.some.inj hdue]
    exact Nat.add_le_add_left hlatency _

end Simulator

end ConsoleBus

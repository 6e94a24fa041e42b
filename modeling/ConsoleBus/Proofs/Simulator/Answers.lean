import ConsoleBus.Proofs.Instant
import ConsoleBus.Proofs.Simulator.Listening
import ConsoleBus.Proofs.Simulator.Timing

/-!
# What a device answers over the wire

A device that listens hears every byte of its packet, and its acknowledges are seen as long as they
come until the last look of a wait. So what an exchange gives back is what the device would say if
it were asked directly. Where no device listens, nothing is acknowledged and nothing comes back.
-/

namespace ConsoleBus

namespace Simulator

variable {s t : Simulator} {port : Port} {config : Config} {address : Address} {index slack : Nat}
  {device : Device} {devices : PerPort (Option Device)}

/-! ## Acknowledges on their way -/

theorem Follows.pulse_carry (h : s.Follows port index (some device) devices) (sent : UInt8) :
    (s.carry sent).pulse = if (device.exchange index sent).1.acknowledged then
      some (s.now + s.latency) else s.pulse := by
  have hdevice : s.devices.get port = some device := by
    rw [h.plugged]
    exact PerPort.get_set devices port (some device)
  show (s.clockByte sent).2.pulse = _
  rw [clockByte_answering h.steady.attention h.selected h.stage hdevice]

/-- An acknowledged byte sends a pulse on its way. -/
theorem Follows.carry_expecting (h : s.Follows port index (some device) devices)
    (hquiet : s.Quiet) {sent : UInt8}
    (hack : (device.exchange index sent).1.acknowledged = true) :
    (s.carry sent).Expecting (s.now + s.latency) := by
  have hpulse := h.pulse_carry sent
  rw [if_pos hack] at hpulse
  obtain ⟨_, _, _, hcarried, -⟩ := carry_frame s sent
  rw [hcarried] at hpulse ⊢
  exact .inr ⟨hquiet.interrupt, hquiet.latched, _, hpulse, Nat.le_refl _⟩

theorem Follows.carry_quiet (h : s.Follows port index (some device) devices) (hquiet : s.Quiet)
    {sent : UInt8} (hlast : ¬ (device.exchange index sent).1.acknowledged = true) :
    (s.carry sent).Quiet := by
  have hpulse := h.pulse_carry sent
  rw [if_neg hlast, hquiet.pulse] at hpulse
  obtain ⟨_, _, _, hcarried, -⟩ := carry_frame s sent
  rw [hcarried] at hpulse ⊢
  exact ⟨hpulse, hquiet.interrupt, hquiet.latched⟩

/-- Over the wire a device says what it says when it is asked directly. -/
theorem fill_converse (htimeout : 0 < config.timeout) (buffer : List UInt8) :
    ∀ (index : Nat) (device : Device) (request : List UInt8) (s : Simulator),
      s.Follows port index (some device) devices → s.Forwarding true → s.Quiet →
        s.received = [] → s.latency ≤ config.lastLook * 1000 →
          ∃ next t, (Bus.fill request buffer : Bus Simulator Reply) config s =
            some ((device.converse index request buffer).1, t) ∧
            t.Follows port next (some (device.converse index request buffer).2) devices ∧
            t.Quiet ∧ t.latency = s.latency := by
  -- Each wait leaves the transceiver quiet again, so that every byte finds it as the first did.
  induction buffer with
  | nil => exact fun index device request s h _ hquiet _ _ => ⟨index, s, rfl, h, hquiet, rfl⟩
  | cons old rest ih =>
    intro index device request s h hforward hquiet hreceived hlatency
    have hbyte : (Bus.exchangeByte (request.headD 0) : Bus Simulator UInt8) config s = _ :=
      exchangeByte_run h.steady.attention hreceived (request.headD 0)
    rw [hquiet.deliverPulse_eq, h.heard] at hbyte
    generalize hcarried : s.carry (request.headD 0) = u at hbyte
    have hwire : SameWire u u.deliverPulse := sameWire_deliverPulse u
    have hu : u.deliverPulse.Follows port (index + 1)
        (some (device.exchange index (request.headD 0)).2) devices := by
      rw [← hcarried]
      exact (h.carry _).sameWire (sameWire_deliverPulse _)
    have huforward : u.Forwarding true := hcarried ▸ hforward.carry _
    have hnow : u.deliverPulse.now = s.now := by rw [deliverPulse_now, ← hcarried, carry_now]
    have hkept : u.deliverPulse.latency = s.latency := by
      rw [hwire.latency, ← hcarried, carry_latency]
    have hempty : u.deliverPulse.received = [] := by
      rw [deliverPulse_received, ← hcarried, carry_received, hreceived]
    unfold Bus.fill
    rw [Bus.bind_of_eq_some hbyte, Bus.bind_of_eq_some Bus.read_apply]
    by_cases hack : (device.exchange index (request.headD 0)).1.acknowledged = true
    · have hexpecting : u.deliverPulse.Expecting (s.now + s.latency) := by
        rw [← hcarried] at huforward ⊢
        exact (h.carry_expecting hquiet hack).deliverPulse huforward
      obtain ⟨t, hwait, htquiet, hpassed⟩ := waitAcknowledge_expecting htimeout
        (huforward.sameWire hwire) hexpecting
        (by rw [hnow]; exact Nat.add_le_add_left hlatency _)
      obtain ⟨next, v, hfill, hv, hvquiet, hvlatency⟩ := ih (index + 1)
        (device.exchange index (request.headD 0)).2 request.tail t (hu.sameWire hpassed.wire)
        (huforward.sameWire (hwire.trans hpassed.wire)) htquiet (hpassed.received.trans hempty)
        (by rw [hpassed.wire.latency, hkept]; exact hlatency)
      rw [Bus.bind_of_eq_some hwait, Device.converse_more hack]
      refine ⟨next, v, Bus.bind_of_eq_some hfill _, hv, hvquiet, ?_⟩
      rw [hvlatency, hpassed.wire.latency, hkept]
    · have hsilent : u.deliverPulse.Quiet := by
        rw [← hcarried]
        exact (h.carry_quiet hquiet hack).deliverPulse
      obtain ⟨t, hwait, htquiet, hpassed⟩ := waitAcknowledge_quiet config hsilent
      rw [Bus.bind_of_eq_some hwait, Device.converse_last hack]
      refine ⟨index + 1, t, rfl, hu.sameWire hpassed.wire, htquiet, ?_⟩
      rw [hpassed.wire.latency, hkept]

/-! ## The address -/

theorem forwarding_withAttention (h : s.Forwarding false) : s.withAttention.Forwarding true := by
  refine ⟨steady_withAttention h.toSteady, ?_⟩
  show Flags.contains (s.control.union Control.attention) Control.interruptEnable = true
  rw [Flags.contains_union_of_inter (by decide)]
  exact h.enabled

theorem forwarding_poised (config : Config) (h : s.Forwarding false) :
    (s.poised config).Forwarding true :=
  (forwarding_withAttention h).sameWire (sameWire_poised config s)

/-- Until the address goes out time has passed, and no new pulse has set out. -/
theorem poised_since (config : Config) (s : Simulator) :
    s.now ≤ (s.poised config).now ∧ ∀ due ∈ (s.poised config).pulse, due ∈ s.pulse := by
  have hfresh := passed_fresh s
  have hraised := passed_deliverPulse
    (s.fresh.withAttention.pass (clampMicros config.attentionDelay * 1000))
  have hnow : s.fresh.now ≤ (s.poised config).now :=
    Nat.le_trans (Nat.le_add_right _ _) hraised.now
  exact ⟨Nat.le_trans hfresh.now hnow, fun due hdue => hfresh.pulse due (hraised.pulse due hdue)⟩

/-- A pulse that comes due once attention is asserted will be taken for an acknowledge. -/
theorem expecting_poised {due : Nat} (config : Config) (h : s.Forwarding false)
    (hpulse : s.pulse = some due) (hlate : s.now < due) : (s.poised config).Expecting due := by
  have hkept : s.fresh.pulse = some due := by
    show s.deliverPulse.pulse = some due
    rw [deliverPulse_eq_self (noneDue_of_lt hpulse hlate), hpulse]
  have hraised := forwarding_withAttention (h.sameWire (passed_fresh s).wire)
  exact Expecting.deliverPulse
    (hraised.sameWire (sameWire_pass _ (clampMicros config.attentionDelay * 1000)))
    (.inr ⟨rfl, rfl, due, hkept, Nat.le_refl _⟩)

theorem forwarding_begun (config : Config) (address : Address) (h : s.Forwarding false) :
    (s.begun config address).Forwarding true := by
  have hcarried := (forwarding_poised config h).carry address.byte
  rw [begun_eq config address]
  exact ⟨⟨hcarried.attention, hcarried.strobeless⟩, hcarried.enabled⟩

theorem latency_begun (config : Config) (address : Address) (s : Simulator) :
    (s.begun config address).latency = s.latency := by
  rw [begun_eq config address]
  exact (carry_latency (s.poised config) address.byte).trans (sameWire_poised config s).latency

theorem now_le_begun (config : Config) (address : Address) (s : Simulator) :
    s.now ≤ (s.begun config address).now := by
  rw [begun_eq config address]
  show s.now ≤ ((s.poised config).carry address.byte).now
  rw [carry_now]
  exact (poised_since config s).1

/-- Where nobody listens, the address changes nothing that a wait could see. -/
theorem begun_of_nobody (config : Config) (h : s.Steady false)
    (hnobody : s.listener address = none) :
    (s.begun config address).pulse = (s.poised config).pulse ∧
      (s.begun config address).interrupt = (s.poised config).interrupt ∧
      (s.begun config address).latched = (s.poised config).latched := by
  rw [← listener_poised config s address] at hnobody
  rw [begun_eq config address]
  unfold carry
  rw [clockByte_nobody (steady_poised config h).attention rfl (sameWire_poised config s).stage
    (listener_eq_none_iff.mp hnobody)]
  exact ⟨rfl, rfl, rfl⟩

/-- Whoever listens sends a pulse on its way, in the place of any other. -/
theorem begun_of_listener (config : Config) (h : s.Steady false)
    (hlistener : s.listener address = some device) :
    (s.begun config address).pulse = some ((s.begun config address).now + s.latency) ∧
      (s.begun config address).interrupt = (s.poised config).interrupt ∧
      (s.begun config address).latched = (s.poised config).latched := by
  have hwire := sameWire_poised config s
  have hlatency : (s.poised config).latency = s.latency := hwire.latency
  rw [← listener_poised config s address] at hlistener
  obtain ⟨hdevice, haddress⟩ := listener_eq_some_iff.mp hlistener
  rw [begun_eq config address, ← hlatency]
  unfold carry
  rw [clockByte_listener (steady_poised config h).attention rfl hwire.stage hdevice haddress]
  exact ⟨rfl, rfl, rfl⟩

/-- If nothing old can arrive any more, the address is acknowledged by nobody but a listener. -/
theorem begun_quiet (h : s.Steady false) (hdue : ∀ due ∈ s.pulse, due ≤ s.now)
    (hnobody : s.listener address = none) : (s.begun config address).Quiet := by
  have hquiet := quiet_poised config hdue
  obtain ⟨hpulse, hinterrupt, hlatched⟩ := begun_of_nobody config h hnobody
  exact ⟨hpulse.trans hquiet.pulse, hinterrupt.trans hquiet.interrupt,
    hlatched.trans hquiet.latched⟩

/-- Acknowledges come no later than the last look of a wait. -/
structure InTime (config : Config) (s : Simulator) : Prop where
  waits : 0 < config.timeout
  seen : s.latency ≤ config.lastLook * 1000

theorem begun_seen (h : s.Forwarding false) (hdue : ∀ due ∈ s.pulse, due ≤ s.now)
    (hlistener : s.listener address = some device) (hintime : s.InTime config) :
    ∃ t, (Bus.waitAcknowledge config.timeout : Bus Simulator Bool) config
      (s.begun config address) = some (true, t) ∧ t.Quiet ∧ Passed (s.begun config address) t := by
  have hquiet := quiet_poised config hdue
  obtain ⟨hpulse, hinterrupt, hlatched⟩ := begun_of_listener config h.toSteady hlistener
  exact waitAcknowledge_expecting hintime.waits (forwarding_begun config address h)
    (.inr ⟨hinterrupt.trans hquiet.interrupt, hlatched.trans hquiet.latched, _, hpulse,
      Nat.le_refl _⟩)
    (Nat.add_le_add_left hintime.seen _)

/-- An acknowledge that comes too late is not seen, nor is there one where nobody listens. -/
theorem begun_unseen (h : s.Steady false) (hdue : ∀ due ∈ s.pulse, due ≤ s.now)
    (hunheard : s.listener address = none ∨ ¬ s.InTime config) :
    ∃ t, (Bus.waitAcknowledge config.timeout : Bus Simulator Bool) config
      (s.begun config address) = some (false, t) ∧ Idled (s.begun config address) t := by
  cases hlistener : s.listener address with
  | none =>
    have hquiet : (s.begun config address).Quiet := begun_quiet h hdue hlistener
    refine waitAcknowledge_unseen hquiet.interrupt fun _ due hsome => ?_
    cases hquiet.pulse.symm.trans hsome
  | some device =>
    obtain ⟨hpulse, hinterrupt, -⟩ := begun_of_listener config h hlistener
    refine waitAcknowledge_unseen (hinterrupt.trans (quiet_poised config hdue).interrupt) ?_
    intro htimeout due hsome
    have hslow : ¬ s.InTime config := by
      rcases hunheard with hnobody | hslow
      · cases hnobody.symm.trans hlistener
      · exact hslow
    have hlater : config.lastLook * 1000 < s.latency :=
      Nat.lt_of_not_le fun hseen => hslow ⟨htimeout, hseen⟩
    rw [← Option.some.inj (hpulse.symm.trans hsome)]
    exact Nat.add_lt_add_left hlater _

/-! ## Whole exchanges -/

theorem latency_ended (config : Config) (s : Simulator) : (s.ended config).latency = s.latency := by
  show (s.pass (clampMicros config.attentionDelay * 1000)).deliverPulse.latency = _
  rw [(sameWire_deliverPulse _).latency]
  rfl

theorem exchange_answered (h : s.Forwarding false)
    (hwithin : s.Within (clampMicros config.preDelay * 1000))
    (hlistener : s.listener address = some device) (hintime : s.InTime config)
    (request buffer : List UInt8) :
    ∃ t, (Bus.exchange address request buffer : Bus Simulator Reply) config s =
        some ((device.start.converse 0 request buffer).1, t) ∧
      t.Quiet ∧ t.latency = s.latency ∧ t.devices = s.devices.set s.port
        (some (device.start.converse 0 request buffer).2.finish) := by
  generalize hheld : s.pass (clampMicros config.preDelay * 1000) = held
  obtain ⟨hforward, hdue, hheard, hkept⟩ : held.Forwarding false ∧
      (∀ due ∈ held.pulse, due ≤ held.now) ∧ held.listener address = some device ∧
      held.InTime config := by
    rw [← hheld]
    exact ⟨h.sameWire (sameWire_pass s _), hwithin, hlistener, ⟨hintime.waits, hintime.seen⟩⟩
  have hbegun := forwarding_begun config address hforward
  have hfollows := follows_begun config address hforward.toSteady
  rw [hheard] at hfollows
  obtain ⟨t, hwait, htquiet, hpassed⟩ := begun_seen hforward hdue hheard hkept
  have hwire := hpassed.wire.trans (sameWire_drained t)
  have hlatency : t.drained.latency = held.latency := by
    rw [hwire.latency, latency_begun]
  obtain ⟨next, u, hfill, hu, huquiet, hulatency⟩ := fill_converse hintime.waits buffer 0
    device.start request t.drained (hfollows.sameWire hwire) (hbegun.sameWire hwire)
    htquiet.drained rfl (hlatency ▸ hkept.seen)
  have hanswer : (Bus.answerAddress request buffer true : Bus Simulator Reply) config t =
      some ((device.start.converse 0 request buffer).1, u) := by
    show (Bus.drain >>= fun _ => Bus.fill request buffer) config t = _
    rw [Bus.bind_of_eq_some (drain_run t), hfill]
  obtain ⟨-, -, hdevices⟩ := hu.ended config
  refine ⟨_, exchange_steady h.toSteady hheld address hwait hanswer hu.steady,
    (huquiet.ended config).pass _, ?_, ?_⟩
  · show (u.ended config).latency = _
    rw [latency_ended, hulatency, hlatency, ← hheld]
    rfl
  · rw [← hheld] at hdevices
    exact hdevices

/-- Where nobody is heard, an exchange is over after its address. -/
theorem exchange_unanswered (h : s.Steady false)
    (hwithin : s.Within (clampMicros config.preDelay * 1000))
    (hunheard : s.listener address = none ∨ ¬ s.InTime config) (request buffer : List UInt8) :
    ∃ t, (Bus.exchange address request buffer : Bus Simulator Reply) config s =
        some (⟨0, buffer⟩, t) ∧
      (s.listener address = none → t.Quiet) ∧ t.latency = s.latency ∧
      t.devices = devicesWith s.devices s.port
        ((s.listener address).map fun device => device.start.finish) := by
  generalize hheld : s.pass (clampMicros config.preDelay * 1000) = held
  obtain ⟨hsteady, hdue, hlistener, hintime⟩ : held.Steady false ∧
      (∀ due ∈ held.pulse, due ≤ held.now) ∧ held.listener address = s.listener address ∧
      (held.InTime config → s.InTime config) := by
    rw [← hheld]
    exact ⟨h.sameWire (sameWire_pass s _), hwithin, rfl, fun h => ⟨h.waits, h.seen⟩⟩
  rw [← hlistener] at hunheard ⊢
  obtain ⟨t, hwait, hidled⟩ := begun_unseen hsteady hdue (hunheard.imp_right (mt hintime))
  have hfollows := (follows_begun config address hsteady).sameWire hidled.wire
  obtain ⟨-, -, hdevices⟩ := hfollows.ended config
  refine ⟨_, exchange_steady h hheld address hwait (Bus.pure_apply _) hfollows.steady,
    fun hnobody => ?_, ?_, ?_⟩
  · exact ((hidled.quiet (begun_quiet hsteady hdue hnobody)).ended config).pass _
  · show (t.ended config).latency = _
    rw [latency_ended, hidled.wire.latency, latency_begun, ← hheld]
    rfl
  · rw [Option.map_map, ← hheld] at hdevices
    rw [← hheld]
    exact hdevices

/-! ## Bytes that are sent blindly -/

theorem paced_latency (config : Config) (bytes : List UInt8) (s : Simulator) :
    (paced config bytes s).latency = s.latency :=
  paced_keeps (P := fun t => t.latency = s.latency) (fun _ _ hwire h => hwire.latency.trans h)
    (fun t sent h => (carry_latency t sent).trans h) config bytes s rfl

/-- The gap after each byte brings a pulse on its way closer. -/
theorem Within.paced {slack : Nat} (config : Config) (bytes : List UInt8) :
    ∀ s : Simulator, s.Within slack → s.latency ≤ clampMicros config.byteDelay * 1000 + slack →
      (paced config bytes s).Within slack := by
  induction bytes with
  | nil => exact fun s h _ => h
  | cons byte bytes ih =>
    intro s h hlatency
    have hdelivered : s.deliverPulse.latency = s.latency := (sameWire_deliverPulse s).latency
    have hmore : s.deliverPulse.Within (clampMicros config.byteDelay * 1000 + slack) :=
      (h.passed (passed_deliverPulse s)).mono (Nat.le_add_left _ _)
    have hsent := (hmore.carry (hdelivered ▸ hlatency) byte).passed (passed_deliverPulse _)
    refine ih _ hsent.pass ?_
    show (s.deliverPulse.carry byte).deliverPulse.latency ≤ _
    rw [(sameWire_deliverPulse _).latency, carry_latency, hdelivered]
    exact hlatency

theorem Within.begun (h : s.Within slack) (hlatency : s.latency ≤ slack) (config : Config)
    (address : Address) : (s.begun config address).Within slack := by
  obtain ⟨hnow, hpulse⟩ := poised_since config s
  have hkept : (s.poised config).latency = s.latency := (sameWire_poised config s).latency
  have hbefore : (s.poised config).Within slack := fun due hdue =>
    Nat.le_trans (h due (hpulse due hdue)) (Nat.add_le_add_right hnow _)
  rw [begun_eq config address]
  exact hbefore.carry (hkept ▸ hlatency) address.byte

theorem Within.ended (h : s.Within (clampMicros config.attentionDelay * 1000 + slack)) :
    (s.ended config).Within slack := by
  have hend := h.pass.passed (passed_deliverPulse (s.pass (clampMicros config.attentionDelay * 1000)))
  exact fun due hdue => hend due hdue

/-- A packet that is sent blindly leaves at most one pulse on its way, and that comes due before
the next exchange clears the interrupt. -/
theorem Within.sent (hwithin : s.Within (clampMicros config.preDelay * 1000))
    (hsettled : s.latency ≤ config.settling * 1000) (h : s.Steady false) (address : Address)
    (request : List UInt8)
    (hrun : (Bus.send address request : Bus Simulator Unit) config s = some ((), t)) :
    t.Within (clampMicros config.preDelay * 1000) ∧ t.latency = s.latency := by
  generalize hintroduced : s.introduced config address = u
  have hwire : SameWire (s.begun config address) u := by
    rw [← hintroduced]
    exact sameWire_introduced config address s
  have hlatency : u.latency = s.latency := hwire.latency.trans (latency_begun config address s)
  have hsteady := (follows_begun config address h).steady.sameWire hwire
  have hempty : u.received = [] := by rw [← hintroduced]; rfl
  have hbytes : (Bus.sendBytes request : Bus Simulator Unit) config (s.introduced config address) =
      some ((), Simulator.paced config request u) := by
    rw [hintroduced]
    exact sendBytes_run request u hsteady.attention hempty
  have hsettling : config.settling * 1000 = clampMicros config.byteDelay * 1000 +
      (clampMicros config.attentionDelay * 1000 + clampMicros config.preDelay * 1000) := by
    unfold Config.settling
    rw [Nat.add_mul, Nat.add_mul, Nat.add_assoc]
  rw [hsettling] at hsettled
  -- After every byte the gap has passed already, which leaves the two other holds.
  have hgap : u.Within
      (clampMicros config.attentionDelay * 1000 + clampMicros config.preDelay * 1000) := by
    have hbegun := (hwithin.mono (by omega)).begun hsettled config address
    have hdelivered := hbegun.pass.passed (passed_deliverPulse _)
    rw [← hintroduced]
    exact fun due hdue => hdelivered due hdue
  have hsend := send_steady h address hbytes (hsteady.paced config request)
  obtain ⟨-, rfl⟩ := Bus.run_unique hrun hsend
  refine ⟨(hgap.paced config request u (hlatency ▸ hsettled)).ended, ?_⟩
  rw [latency_ended, paced_latency, hlatency]

end Simulator

end ConsoleBus

import ConsoleBus.Proofs.Simulator.Control

/-!
# What the routines of the bus do to a simulated transceiver

A byte that goes out moves the packet on and may send a pulse on its way. The lemmas here follow
the routines of the bus from one state of the transceiver to the next. Waiting is described twice:
by what it leaves alone in any case, and elsewhere by what it finds.
-/

namespace ConsoleBus

namespace Simulator

variable {s t : Simulator} {port : Port} {asserted : Bool} {config : Config}

/-! ## Bytes on the wire -/

/-- The byte that comes in for a byte that goes out. -/
def heard (s : Simulator) (sent : UInt8) : UInt8 := (s.clockByte sent).1

/-- The state after a byte went out with attention asserted. What came in is yet to be stored. -/
def carry (s : Simulator) (sent : UInt8) : Simulator :=
  (s.clockByte sent).2.record (.byte s.port sent (s.heard sent))

/-- A byte moves the packet on and changes the devices, and it may send a pulse on its way. -/
theorem clockByte_frame (s : Simulator) (sent : UInt8) :
    ∃ stage devices pulse, (s.clockByte sent).2 = { s with stage, devices, pulse } ∧
      (pulse = s.pulse ∨ pulse = some (s.now + s.latency)) := by
  unfold clockByte
  split
  · exact ⟨s.stage, s.devices, s.pulse, rfl, .inl rfl⟩
  · split
    · split
      · exact ⟨_, _, _, rfl, .inr rfl⟩
      · exact ⟨.unheard, s.devices, s.pulse, rfl, .inl rfl⟩
    · exact ⟨.unheard, s.devices, s.pulse, rfl, .inl rfl⟩
    · dsimp only
      split
      · exact ⟨_, _, _, rfl, .inr rfl⟩
      · exact ⟨_, _, s.pulse, rfl, .inl rfl⟩
    all_goals exact ⟨s.stage, s.devices, s.pulse, rfl, .inl rfl⟩

/-- Whatever is asked of a transceiver without strobes, it is left without strobes. -/
theorem access_strobeless (a : Access) (h : s.control.Strobeless) :
    (access a s).2.control.Strobeless := by
  have hdelivered : s.deliverPulse.control.Strobeless := by
    rw [deliverPulse_control]
    exact h
  cases a with
  | readControl | readStatus | readData | clearInterrupt => exact hdelivered
  | writeMode | writeBaud => exact h
  | writeControl value => exact writeControl_strobeless s value
  | readInterrupt =>
    show Control.Strobeless (Simulator.deliverPulse _).control
    rw [deliverPulse_control]
    exact h
  | writeData byte =>
    obtain ⟨_, _, _, hcarried, -⟩ := clockByte_frame s.deliverPulse byte
    have hclocked : (s.deliverPulse.clockByte byte).2.control.Strobeless := by
      rw [hcarried]
      exact hdelivered
    show Control.Strobeless (s.writeData byte).control
    unfold writeData
    dsimp only
    split <;> exact hclocked

theorem carry_frame (s : Simulator) (sent : UInt8) :
    ∃ stage devices pulse,
      s.carry sent = { s with
        stage, devices, pulse, log := s.log.record (.byte s.port sent (s.heard sent)) } ∧
      (pulse = s.pulse ∨ pulse = some (s.now + s.latency)) := by
  obtain ⟨stage, devices, pulse, h, hpulse⟩ := clockByte_frame s sent
  refine ⟨stage, devices, pulse, ?_, hpulse⟩
  unfold carry
  rw [h]
  rfl

variable (s) (sent : UInt8)

@[simp] theorem carry_control : (s.carry sent).control = s.control := by
  obtain ⟨_, _, _, h, -⟩ := carry_frame s sent
  rw [h]

@[simp] theorem carry_port : (s.carry sent).port = s.port := by
  unfold Simulator.port
  rw [carry_control]

@[simp] theorem carry_received : (s.carry sent).received = s.received := by
  obtain ⟨_, _, _, h, -⟩ := carry_frame s sent
  rw [h]

@[simp] theorem carry_now : (s.carry sent).now = s.now := by
  obtain ⟨_, _, _, h, -⟩ := carry_frame s sent
  rw [h]

@[simp] theorem carry_latency : (s.carry sent).latency = s.latency := by
  obtain ⟨_, _, _, h, -⟩ := carry_frame s sent
  rw [h]

@[simp] theorem carry_interruptReads : (s.carry sent).interruptReads = s.interruptReads := by
  obtain ⟨_, _, _, h, -⟩ := carry_frame s sent
  rw [h]

@[simp] theorem carry_log :
    (s.carry sent).log = s.log.record (.byte s.port sent (s.heard sent)) := by
  obtain ⟨_, _, _, h, -⟩ := carry_frame s sent
  rw [h]

variable {s sent}

theorem SameWire.heard (h : SameWire s t) (sent : UInt8) : t.heard sent = s.heard sent := by
  unfold Simulator.heard clockByte
  rw [h.attention, h.stage, h.devices, h.port]
  cases s.attention with
  | false => rfl
  | true =>
    simp only [Bool.not_true, Bool.false_eq_true, if_false]
    split
    · split <;> rfl
    all_goals rfl

/-! ## Looks and strobes -/

theorem sleep_eq_pass (micros : Nat) (s : Simulator) :
    Hardware.sleep micros s = s.pass (micros * 1000) := rfl

/-- Whatever has its pulse delivered and then only its interrupt and its latch changed has nothing
due. -/
theorem deliverPulse_withLatch (interrupt latched : Bool) :
    { s.deliverPulse with interrupt, latched }.deliverPulse =
      { s.deliverPulse with interrupt, latched } :=
  deliverPulse_eq_self (noneDue_deliverPulse s)

/-- The state after a look at the interrupt. -/
def look (s : Simulator) : Simulator :=
  { s with interruptReads := s.interruptReads + 1 }.deliverPulse

theorem readInterrupt_apply :
    Hardware.access .readInterrupt s = (s.look.interrupt, s.look) := rfl

theorem withControl_apply (change : Control → Control) :
    Bus.withControl change s = s.deliverPulse.writeControl (change s.deliverPulse.control) := rfl

theorem withFreshControl_apply (change : Control → Control) :
    Bus.withFreshControl change s =
      { s.deliverPulse with interrupt := false }.writeControl
        (change s.deliverPulse.control) := by
  have hidle := deliverPulse_withLatch (s := s) false s.deliverPulse.latched
  unfold Bus.withFreshControl
  rw [withControl_apply]
  show { s.deliverPulse with interrupt := false }.deliverPulse.writeControl
    (change { s.deliverPulse with interrupt := false }.deliverPulse.control) = _
  rw [hidle]

theorem withFreshControl_arm (h : s.control.Strobeless) :
    Bus.withFreshControl (fun control => control.union Control.acknowledge) s = s.fresh := by
  have hcleared : Control.Strobeless { s.deliverPulse with interrupt := false }.control := by
    rw [deliverPulse_control]
    exact h
  rw [withFreshControl_apply, writeControl_arm hcleared, deliverPulse_withLatch]
  rfl

theorem withFreshControl_assert (h : s.Steady false) :
    Bus.withFreshControl (fun control => (control.union Control.attention).union
      Control.acknowledge) s = s.fresh.withAttention := by
  have hdelivered := h.sameWire (sameWire_deliverPulse s)
  have hcleared : { s.deliverPulse with interrupt := false }.Steady false :=
    ⟨hdelivered.attention, hdelivered.strobeless⟩
  rw [withFreshControl_apply, writeControl_assert hcleared, deliverPulse_withLatch]
  rfl

/-! ## Framing a packet -/

theorem assertAttention_steady (h : s.Steady false) :
    (Bus.assertAttention : Bus Simulator Unit) config s =
      some ((), s.fresh.withAttention.pass (clampMicros config.attentionDelay * 1000)) := by
  rw [Bus.assertAttention_apply, withFreshControl_assert h, sleep_eq_pass]

theorem releaseAttention_steady (h : s.Steady true) :
    (Bus.releaseAttention : Bus Simulator Unit) config s =
      some ((),
        (s.pass (clampMicros config.attentionDelay * 1000)).deliverPulse.withoutAttention) := by
  rw [Bus.releaseAttention_apply, sleep_eq_pass]
  generalize hpassed : s.pass (clampMicros config.attentionDelay * 1000) = t
  have ht : t.deliverPulse.Steady true := by
    rw [← hpassed]
    exact h.sameWire ((sameWire_pass s _).trans (sameWire_deliverPulse _))
  rw [withControl_apply, writeControl_release ht, deliverPulse_deliverPulse]

theorem selectPort_apply (port : Port) (s : Simulator) :
    (Bus.selectPort port : Bus Simulator Unit) config s =
      some ((), s.deliverPulse.writeControl (Control.route port s.deliverPulse.control)) := by
  have hroute : (Bus.selectPort port : Bus Simulator Unit) =
      Bus.modifyControl (Control.route port) := by
    cases port <;> rfl
  rw [hroute, Bus.modifyControl_apply, withControl_apply]

theorem selectPort_steady (h : s.Steady false) (port : Port) :
    (Bus.selectPort port : Bus Simulator Unit) config s = some ((), s.selected port) := by
  have hdelivered := h.sameWire (sameWire_deliverPulse s)
  rw [selectPort_apply, writeControl_reroute hdelivered]
  unfold selected
  rw [deliverPulse_deliverPulse, deliverPulse_control]

theorem selectPort_run (h : s.control = Control.driven port false) (other : Port) :
    (Bus.selectPort other : Bus Simulator Unit) config s =
      some ((), { s.deliverPulse with control := Control.driven other false }) := by
  rw [selectPort_steady (steady_of_driven h)]
  unfold selected
  rw [h, Control.route_driven]

/-- A reset that is not followed by anything leaves no pulse behind and no attention asserted. -/
theorem writeControl_reset (s : Simulator) : s.writeControl Control.reset = s.deliverPulse.reset := by
  have hstrobe : Control.reset.contains Control.reset = true := by decide
  have hack : Control.reset.contains Control.acknowledge = false := by decide
  have hkept : (Control.reset.diff Control.acknowledge).diff Control.reset = Flags.empty := by
    decide
  have hattention : Flags.contains (Flags.empty : Control) Control.attention = false := by decide
  unfold writeControl
  simp only [hstrobe, hack, hkept, attention, reset, record, hattention, Bool.false_eq_true,
    if_false, if_true, Bool.and_false, Bool.false_and]

theorem writeControl_enabled (hcontrol : s.control = Flags.empty) (hpulse : s.pulse = none) :
    s.writeControl Control.enabled = { s with control := Control.driven .one false } := by
  have hstrobe : Control.enabled.contains Control.reset = false := by decide
  have hack : Control.enabled.contains Control.acknowledge = false := by decide
  have hkept : (Control.enabled.diff Control.acknowledge).diff Control.reset =
      Control.driven .one false := by decide
  have hbefore : Flags.contains (Flags.empty : Control) Control.attention = false := by decide
  unfold writeControl
  rw [deliverPulse_eq_self (noneDue_of_none hpulse)]
  simp only [hstrobe, hack, hkept, attention, hcontrol, hbefore,
    Control.contains_attention_driven, Bool.false_eq_true, if_false, Bool.and_false,
    Bool.false_and]

/-- The state after the transceiver was set up. -/
def restarted (config : Config) (s : Simulator) : Simulator :=
  { s.deliverPulse.reset with
    control := Control.driven .one false
    mode := Mode.factorOne.union Mode.eightBits
    baud := UInt16.ofNat config.divisor }

theorem setUp_run (config : Config) (s : Simulator) :
    (Bus.setUp : Bus Simulator Unit) config s = some ((), s.restarted config) := by
  show some ((), writeControl { s.writeControl Control.reset with
    mode := Mode.factorOne.union Mode.eightBits
    baud := UInt16.ofNat config.divisor } Control.enabled) = _
  rw [writeControl_reset, writeControl_enabled rfl rfl]
  rfl

theorem restarted_devices (config : Config) (s : Simulator) :
    (s.restarted config).devices = s.devices := (sameWire_deliverPulse s).devices

theorem restarted_latency (config : Config) (s : Simulator) :
    (s.restarted config).latency = s.latency := (sameWire_deliverPulse s).latency

/-! ## Waiting -/

/-- Time passes and pulses arrive, and nothing else happens. -/
structure Passed (s t : Simulator) : Prop where
  wire : SameWire s t
  received : t.received = s.received
  now : s.now ≤ t.now
  pulse : ∀ due ∈ t.pulse, due ∈ s.pulse

theorem Passed.refl (s : Simulator) : Passed s s :=
  ⟨.refl s, rfl, Nat.le_refl _, fun _ h => h⟩

theorem Passed.trans {u : Simulator} (h : Passed s t) (h' : Passed t u) : Passed s u :=
  ⟨h.wire.trans h'.wire, h'.received.trans h.received, Nat.le_trans h.now h'.now,
    fun due hdue => h.pulse due (h'.pulse due hdue)⟩

theorem passed_deliverPulse (s : Simulator) : Passed s s.deliverPulse := by
  refine ⟨sameWire_deliverPulse s, deliverPulse_received s, Nat.le_of_eq (deliverPulse_now s).symm,
    ?_⟩
  intro due hdue
  rcases deliverPulse_cases s with ⟨-, hs⟩ | ⟨_, _, _, _, hs⟩ | ⟨_, _, _, _, hs⟩
  · rw [hs] at hdue
    exact hdue
  · rw [hs] at hdue
    cases hdue
  · rw [hs] at hdue
    cases hdue

theorem passed_pass (s : Simulator) (nanos : Nat) : Passed s (s.pass nanos) :=
  ⟨sameWire_pass s nanos, rfl, Nat.le_add_right _ _, fun _ h => h⟩

theorem passed_look (s : Simulator) : Passed s s.look := by
  have hread : Passed s { s with interruptReads := s.interruptReads + 1 } :=
    ⟨⟨rfl, rfl, rfl, rfl, rfl, rfl, rfl⟩, rfl, Nat.le_refl _, fun _ h => h⟩
  exact hread.trans (passed_deliverPulse _)

theorem passed_fresh (s : Simulator) : Passed s s.fresh := by
  have hcleared : Passed s.deliverPulse s.fresh :=
    ⟨⟨rfl, rfl, rfl, rfl, rfl, rfl, rfl⟩, rfl, Nat.le_refl _, fun _ h => h⟩
  exact (passed_deliverPulse s).trans hcleared

theorem lookForAcknowledge_passed (remaining : Nat) :
    ∀ s : Simulator, s.control.Strobeless →
      ∃ seen t, Bus.lookForAcknowledge config remaining config s = some (seen, t) ∧ Passed s t := by
  induction remaining using Nat.strongRecOn with
  | ind remaining ih =>
    intro s h
    by_cases hpos : 0 < remaining
    · rw [Bus.lookForAcknowledge_of_pos hpos, readInterrupt_apply]
      have hlook := passed_look s
      have hcontrol : s.look.control.Strobeless := by
        rw [hlook.wire.control]
        exact h
      by_cases hseen : s.look.interrupt = true
      · rw [if_pos hseen, withFreshControl_arm hcontrol]
        exact ⟨true, s.look.fresh, rfl, hlook.trans (passed_fresh _)⟩
      · rw [if_neg hseen]
        have hstep := config.pollStep_pos
        obtain ⟨seen, t, hrun, ht⟩ := ih (remaining - config.pollStep) (by omega)
          (s.look.pass (config.pollStep * 1000)) hcontrol
        exact ⟨seen, t, hrun, (hlook.trans (passed_pass _ _)).trans ht⟩
    · have hzero : remaining = 0 := by omega
      rw [hzero, Bus.lookForAcknowledge_zero]
      exact ⟨false, s, rfl, .refl s⟩

/-- However long a wait is and whatever it finds, it only lets time pass. -/
theorem waitAcknowledge_passed (config : Config) (h : s.control.Strobeless) (timeout : Nat) :
    ∃ seen t, (Bus.waitAcknowledge timeout : Bus Simulator Bool) config s = some (seen, t) ∧
      Passed s t := by
  rw [Bus.waitAcknowledge_apply]
  exact lookForAcknowledge_passed timeout s h

/-! ## Received bytes -/

theorem contains_sendReady_readStatus (s : Simulator) :
    s.readStatus.1.contains Status.sendReady = true := by
  unfold readStatus
  generalize s.deliverPulse = t
  dsimp only
  cases t.received.isEmpty <;> cases t.interrupt <;> decide

theorem contains_received_readStatus (s : Simulator) :
    s.readStatus.1.contains Status.received = !s.received.isEmpty := by
  unfold readStatus
  rw [← deliverPulse_received]
  generalize s.deliverPulse = t
  dsimp only
  cases t.received.isEmpty <;> cases t.interrupt <;> decide

theorem readData_eq (s : Simulator) :
    s.readData = (s.received.headD 0, { s.deliverPulse with received := s.received.tail }) := by
  show (s.deliverPulse.received.headD 0,
    { s.deliverPulse with received := s.deliverPulse.received.tail }) = _
  rw [deliverPulse_received]

/-- The state once every received byte was dropped. -/
def drained (s : Simulator) : Simulator := { s.deliverPulse with received := [] }

theorem sameWire_drained (s : Simulator) : SameWire s s.drained :=
  (sameWire_deliverPulse s).trans ⟨rfl, rfl, rfl, rfl, rfl, rfl, rfl⟩

/-- Received bytes are dropped one by one until there are none. -/
theorem drainStatus_run (looks : Nat) : ∀ s : Simulator, s.received.length < looks →
    (Bus.drainStatus looks : Bus Simulator Unit) config s = some ((), s.drained) := by
  induction looks with
  | zero => exact fun s h => absurd h (Nat.not_lt_zero _)
  | succ looks ih =>
    intro s h
    rw [Bus.drainStatus_succ]
    show (if s.readStatus.1.contains Status.received = true then
      Bus.drainStatus looks config s.deliverPulse.readData.2 else some ((), s.deliverPulse)) = _
    rw [contains_received_readStatus]
    cases hreceived : s.received with
    | nil =>
      have hempty : s.deliverPulse.received = [] := by rw [deliverPulse_received, hreceived]
      rw [if_neg (by decide)]
      unfold drained
      rw [← hempty]
    | cons byte bytes =>
      rw [if_pos (by rfl)]
      have hread : s.deliverPulse.readData.2 = { s.deliverPulse with received := bytes } := by
        rw [readData_eq, deliverPulse_deliverPulse, deliverPulse_received, hreceived]
        rfl
      have hfew : bytes.length < looks := by
        rw [hreceived, List.length_cons] at h
        omega
      have hidle : { s.deliverPulse with received := bytes }.deliverPulse =
          { s.deliverPulse with received := bytes } :=
        deliverPulse_eq_self (noneDue_deliverPulse s)
      rw [hread, ih _ hfew]
      unfold drained
      rw [hidle]

/-- What is received does not matter to the delivery of a pulse. -/
theorem deliverPulse_withReceived (s : Simulator) (received : List UInt8) :
    { s with received }.deliverPulse = { s.deliverPulse with received } := by
  have hinert : Inert fun s => { s with received } := {}
  exact hinert.deliverPulse s

theorem drain_run (s : Simulator) :
    (Bus.drain : Bus Simulator Unit) config s = some ((), s.drained) := by
  rw [Bus.drain_apply]
  exact drainStatus_run _ s (Nat.lt_succ_self _)

theorem writeData_eq (h : s.attention = true) (sent : UInt8) :
    s.writeData sent = { s.deliverPulse.carry sent with
      received := Bounded.push receiveCapacity s.received (s.heard sent) } := by
  have hattention : s.deliverPulse.attention = true :=
    (sameWire_deliverPulse s).attention.trans h
  have hreceived : (s.deliverPulse.clockByte sent).2.received = s.received := by
    obtain ⟨_, _, _, hs, -⟩ := clockByte_frame s.deliverPulse sent
    rw [hs]
    exact deliverPulse_received s
  unfold writeData
  simp only [hattention, hreceived, if_true]
  unfold carry
  rw [← (sameWire_deliverPulse s).heard]
  rfl

/-- A byte is exchanged for the one that comes in, if nothing was left over before. -/
theorem exchangeByte_run (h : s.attention = true) (hreceived : s.received = [])
    (sent : UInt8) :
    (Bus.exchangeByte sent : Bus Simulator UInt8) config s =
      some (s.heard sent, (s.deliverPulse.carry sent).deliverPulse) := by
  have hready : (Bus.await Status.sendReady : Bus Simulator Unit) config s =
      some ((), s.deliverPulse) := by
    rw [Bus.await_apply]
    show Bus.awaitStatus _ (s.received.length + 1) config s = _
    rw [Bus.awaitStatus_succ]
    exact if_pos (contains_sendReady_readStatus s)
  have hattention : s.deliverPulse.attention = true :=
    (sameWire_deliverPulse s).attention.trans h
  generalize hcarried : s.deliverPulse.writeData sent = t
  have ht : t = { s.deliverPulse.carry sent with received := [s.heard sent] } := by
    rw [← hcarried, writeData_eq hattention, deliverPulse_deliverPulse, deliverPulse_received,
      hreceived, (sameWire_deliverPulse s).heard]
    rfl
  have hone : t.received = [s.heard sent] := by rw [ht]
  have harrived : (Bus.await Status.received : Bus Simulator Unit) config t =
      some ((), t.deliverPulse) := by
    rw [Bus.await_apply]
    show Bus.awaitStatus _ (t.received.length + 1) config t = _
    rw [Bus.awaitStatus_succ]
    refine if_pos ?_
    show t.readStatus.1.contains Status.received = true
    rw [contains_received_readStatus, hone]
    rfl
  unfold Bus.exchangeByte
  rw [Bus.bind_of_eq_some hready, Bus.bind_of_eq_some (Bus.access_apply _)]
  show (Bus.await Status.received >>= fun _ => Bus.access .readData) config
    (s.deliverPulse.writeData sent) = _
  rw [hcarried, Bus.bind_of_eq_some harrived, Bus.access_apply]
  have hnothing : (s.deliverPulse.carry sent).deliverPulse.received = [] := by
    rw [deliverPulse_received, carry_received, deliverPulse_received, hreceived]
  show some t.deliverPulse.readData = _
  rw [readData_eq, deliverPulse_deliverPulse, deliverPulse_received, hone, ht,
    deliverPulse_withReceived]
  show some (s.heard sent, { (s.deliverPulse.carry sent).deliverPulse with received := [] }) = _
  rw [← hnothing]

end Simulator

end ConsoleBus

import ConsoleBus.Proofs.Simulator.Lockstep

/-!
# One port does not notice the other

The data lines, the received bytes, the latch and the pulse are shared by both ports, and which port
a byte is meant for is read off the control register each time. Still, what is done on one port
neither depends on what is plugged into the other one nor changes it: two transceivers that differ
in that device alone go through all of it in lockstep.
-/

namespace ConsoleBus

theorem PerPort.set_comm {α : Type} (values : PerPort α) {port other : Port} (h : other ≠ port)
    (a b : α) : (values.set other b).set port a = (values.set port a).set other b := by
  cases port <;> cases other
  · exact absurd rfl h
  · rfl
  · rfl
  · exact absurd rfl h

/-! ## What can be done on one port -/

/-- A packet on whatever port is selected. -/
inductive PacketCall where
  | exchange (address : Address) (request buffer : List UInt8)
  | send (address : Address) (request : List UInt8)

def PacketCall.command : PacketCall → Command
  | exchange address request buffer => .exchange address request buffer
  | send address request => .send address request

/-- Something done on one port alone. -/
inductive Errand where
  | readPad
  | readButtons
  | probe
  | broadcast (gameId : String)
  /-- The port is selected, and then come any packets. -/
  | packets (calls : List PacketCall)

/-- The commands that make up an errand on a port. -/
def Errand.commands (port : Port) : Errand → List Command
  | readPad => [.readPad port]
  | readButtons => [.readButtons port]
  | probe => [.probe port]
  | broadcast gameId => [.broadcast gameId port.mask]
  | packets calls => .selectPort port :: calls.map PacketCall.command

def Errand.runAll (port : Port) (errands : List Errand) : Bus Simulator (List Outcome) :=
  (errands.flatMap (Errand.commands port)).mapM Command.run

namespace Simulator

variable {s t : Simulator} {port other : Port} {kept device : Option Device} {asserted : Bool}
  {config : Config} {α : Type}

/-! ## No step looks at the other port -/

theorem deliverPulse_setDevice (s : Simulator) (other : Port) (device : Option Device) :
    (s.setDevice other device).deliverPulse = s.deliverPulse.setDevice other device :=
  (inert_setDevice other device).deliverPulse s

theorem clockByte_setDevice (h : other ≠ s.port) (device : Option Device) (sent : UInt8) :
    (s.setDevice other device).clockByte sent =
      ((s.clockByte sent).1, (s.clockByte sent).2.setDevice other device) := by
  have hattention : (s.setDevice other device).attention = s.attention := rfl
  have hstage : (s.setDevice other device).stage = s.stage := rfl
  have hport : (s.setDevice other device).port = s.port := rfl
  have hplugged : (s.setDevice other device).devices.get s.port = s.devices.get s.port :=
    PerPort.get_set_of_ne _ _ h.symm
  have hset : ∀ d, (s.devices.set other device).set s.port d =
      (s.devices.set s.port d).set other device := fun d => PerPort.set_comm _ h _ _
  unfold clockByte
  rw [hattention, hstage, hport, hplugged]
  cases s.attention with
  | false => rfl
  | true =>
    simp only [Bool.not_true, Bool.false_eq_true, if_false]
    cases s.stage with
    | idle | unheard => rfl
    | addressing =>
      cases s.devices.get s.port with
      | none => rfl
      | some heard =>
        dsimp only
        split
        · unfold schedulePulse setDevice
          dsimp only
          rw [hset]
        · rfl
    | answering index =>
      cases s.devices.get s.port with
      | none => rfl
      | some heard =>
        unfold schedulePulse setDevice
        dsimp only
        rw [hset]
        split <;> rfl

theorem get_clockByte_of_ne (h : other ≠ s.port) (sent : UInt8) :
    (s.clockByte sent).2.devices.get other = s.devices.get other := by
  unfold clockByte
  split
  · rfl
  · split
    · split
      · exact PerPort.get_set_of_ne _ _ h
      · rfl
    · rfl
    · dsimp only
      split <;> exact PerPort.get_set_of_ne _ _ h
    all_goals rfl

theorem devicesAfter_setDevice (h : other ≠ s.port) (device : Option Device) :
    (s.setDevice other device).devicesAfter s.port = (s.devicesAfter s.port).set other device := by
  have hstage : (s.setDevice other device).stage = s.stage := rfl
  unfold devicesAfter
  rw [hstage]
  cases s.stage with
  | idle | addressing | unheard => rfl
  | answering index =>
    show ((s.devices.set other device).set s.port
      (((s.devices.set other device).get s.port).map Device.finish)) = _
    rw [PerPort.get_set_of_ne _ _ h.symm, PerPort.set_comm _ h]

theorem get_devicesAfter_of_ne (h : other ≠ port) :
    (s.devicesAfter port).get other = s.devices.get other := by
  unfold devicesAfter
  cases s.stage with
  | idle | addressing | unheard => rfl
  | answering index => exact PerPort.get_set_of_ne _ _ h

/-! ## Writes without an edge -/

theorem attention_strobed (h : s.attention = false) (value : Control) :
    (s.strobed value).attention = false := by
  by_cases hreset : value.contains Control.reset = true
  · rw [strobed_of_reset hreset]
    exact attention_reset _
  · rw [strobed_of_not_reset hreset]
    exact (sameWire_deliverPulse s).attention.trans h

theorem devices_strobed (value : Control) (s : Simulator) :
    (s.strobed value).devices = s.devices := by
  have hdevices := (sameWire_deliverPulse s).devices
  by_cases hreset : value.contains Control.reset = true
  · rw [strobed_of_reset hreset]
    exact hdevices
  · rw [strobed_of_not_reset hreset]
    exact hdevices

theorem strobed_setDevice (value : Control) (s : Simulator) (other : Port)
    (device : Option Device) :
    (s.setDevice other device).strobed value = (s.strobed value).setDevice other device := by
  unfold strobed
  rw [deliverPulse_setDevice]
  split <;> split <;> rfl

/-- Where attention is released before and after, only the strobes of the value matter. -/
theorem writeControl_released (h : s.attention = false) {value : Control}
    (hvalue : value.contains Control.attention = false) :
    s.writeControl value =
      { s.strobed value with control := (value.diff Control.acknowledge).diff Control.reset } := by
  have hbefore := attention_strobed h value
  have hafter := (Control.contains_attention_stored value).trans hvalue
  rw [writeControl_eq]
  unfold settled attention at *
  simp only [hbefore, hafter, Bool.and_false, Bool.false_and, Bool.false_eq_true, if_false]

/-! ## Two transceivers that differ in one device -/

/-- A port is selected, something is plugged into the other one, and the second transceiver is the
first one with something else plugged in there. -/
structure Beside (port other : Port) (kept device : Option Device) (asserted : Bool)
    (s t : Simulator) : Prop where
  steady : s.Steady asserted
  selected : s.port = port
  kept : s.devices.get other = kept
  eq : t = s.setDevice other device

theorem Beside.both_steady (h : Beside port other kept device asserted s t) :
    s.Steady asserted ∧ t.Steady asserted := by
  refine ⟨h.steady, ?_⟩
  rw [h.eq]
  exact ⟨h.steady.attention, h.steady.strobeless⟩

/-- The two stay side by side in a step that does not look at the other port. -/
theorem Beside.step {after : Bool} {f : Simulator → Simulator}
    (h : Beside port other kept device asserted s t) (hsteady : (f s).Steady after)
    (hport : (f s).port = s.port) (hkept : (f s).devices.get other = s.devices.get other)
    (heq : f (s.setDevice other device) = (f s).setDevice other device) :
    Beside port other kept device after (f s) (f t) where
  steady := hsteady
  selected := hport.trans h.selected
  kept := hkept.trans h.kept
  eq := by rw [h.eq, heq]

theorem Beside.deliverPulse (h : Beside port other kept device asserted s t) :
    Beside port other kept device asserted s.deliverPulse t.deliverPulse := by
  have hwire := sameWire_deliverPulse s
  exact h.step (h.steady.sameWire hwire) hwire.port (by rw [hwire.devices])
    (deliverPulse_setDevice s other device)

theorem Beside.heard (hne : other ≠ port) (h : Beside port other kept device true s t)
    (sent : UInt8) : t.heard sent = s.heard sent := by
  have hother : other ≠ s.port := h.selected ▸ hne
  rw [h.eq]
  unfold Simulator.heard
  rw [clockByte_setDevice hother]

theorem Beside.carry (hne : other ≠ port) (h : Beside port other kept device true s t)
    (sent : UInt8) : Beside port other kept device true (s.carry sent) (t.carry sent) := by
  have hother : other ≠ s.port := h.selected ▸ hne
  refine h.step (f := fun s => s.carry sent) (h.steady.carry sent) (carry_port s sent)
    (get_clockByte_of_ne hother sent) ?_
  unfold Simulator.carry Simulator.heard
  rw [clockByte_setDevice hother]
  rfl

theorem Beside.withAttention (h : Beside port other kept device false s t) :
    Beside port other kept device true s.withAttention t.withAttention :=
  h.step (steady_withAttention h.steady) (port_withAttention s) rfl rfl

theorem Beside.withoutAttention (hne : other ≠ port)
    (h : Beside port other kept device true s t) :
    Beside port other kept device false s.withoutAttention t.withoutAttention := by
  have hother : other ≠ s.port := h.selected ▸ hne
  refine h.step (steady_withoutAttention h.steady) (port_withoutAttention s)
    (get_devicesAfter_of_ne hother) ?_
  unfold Simulator.withoutAttention
  have hport : (s.setDevice other device).port = s.port := rfl
  rw [hport, devicesAfter_setDevice hother]
  rfl

theorem lockstep_beside (hne : other ≠ port) :
    Lockstep (Beside port other kept device) where
  steady h := h.both_steady
  interrupt h := by rw [h.eq]; rfl
  received h := by rw [h.eq]; rfl
  heard h := h.heard hne
  delivered h := h.deliverPulse
  passed h nanos := h.step (f := fun s => s.pass nanos)
    (h.steady.sameWire (sameWire_pass _ _)) rfl rfl rfl
  counted h := h.step (f := fun s => { s with interruptReads := s.interruptReads + 1 })
    ⟨h.steady.attention, h.steady.strobeless⟩ rfl rfl rfl
  cleared h := h.step (f := fun s => { s with interrupt := false, latched := false })
    ⟨h.steady.attention, h.steady.strobeless⟩ rfl rfl rfl
  stored h received := h.step (f := fun s => { s with received })
    ⟨h.steady.attention, h.steady.strobeless⟩ rfl rfl rfl
  carried h := h.carry hne
  raised h := h.withAttention
  lowered h := h.withoutAttention hne

/-! ## Errands -/

/-- Between errands attention is released, either port may be selected, and whatever else is in the
control register does not matter. -/
structure Apart (other : Port) (kept device : Option Device) (s t : Simulator) : Prop where
  released : s.attention = false
  kept : s.devices.get other = kept
  eq : t = s.setDevice other device

theorem Beside.apart (h : Beside port other kept device false s t) : Apart other kept device s t :=
  ⟨h.steady.attention, h.kept, h.eq⟩

theorem Apart.routed (h : Apart other kept device s t) (port : Port) :
    Beside port other kept device false
      (s.deliverPulse.writeControl (Control.route port s.deliverPulse.control))
      (t.deliverPulse.writeControl (Control.route port t.deliverPulse.control)) := by
  have hwire := sameWire_deliverPulse s
  have hreleased : s.deliverPulse.attention = false := hwire.attention.trans h.released
  have hother : (s.deliverPulse.setDevice other device).attention = false := hreleased
  have hroute : (Control.route port s.deliverPulse.control).contains Control.attention = false :=
    (Control.contains_attention_route port _).trans hreleased
  have hcontrol : (s.deliverPulse.setDevice other device).control = s.deliverPulse.control := rfl
  rw [h.eq, deliverPulse_setDevice, hcontrol, writeControl_released hreleased hroute,
    writeControl_released hother hroute, strobed_setDevice]
  refine ⟨⟨?_, Control.strobeless_stored _⟩, ?_, ?_, rfl⟩
  · show Flags.contains (Flags.diff (Flags.diff _ _) _) _ = false
    rw [Flags.contains_diff_of_inter (by decide), Flags.contains_diff_of_inter (by decide), hroute]
  · show (if Flags.contains (Flags.diff (Flags.diff _ _) _) _ = true then Port.two else Port.one) = _
    rw [Flags.contains_diff_of_inter (by decide), Flags.contains_diff_of_inter (by decide),
      Control.contains_secondPort_route]
    cases port <;> rfl
  · show (Simulator.strobed _ _).devices.get other = kept
    rw [devices_strobed, hwire.devices, h.kept]

/-- What comes after a port was selected finds the two side by side. -/
theorem together_selectPort {next : Unit → Bus Simulator α}
    (hnext : Together config (Beside port other kept device false) (next ())) :
    Together config (Apart other kept device) (Bus.selectPort port >>= next) := by
  intro s t h
  obtain ⟨a, s', t', hs, ht, hafter⟩ := hnext _ _ (h.routed port)
  exact ⟨a, s', t', (Bus.bind_of_eq_some (selectPort_apply port s) next).trans hs,
    (Bus.bind_of_eq_some (selectPort_apply port t) next).trans ht, hafter.apart⟩

theorem together_read (hne : other ≠ port) :
    Together config (Apart other kept device) (Pad.read port) :=
  together_selectPort (((lockstep_beside hne).exchange config .controller Pad.pollRequest
    (List.replicate Pad.replyCapacity 0)).bind fun reply => together_pure (Pad.stateOfReply reply))

theorem together_readButtons (hne : other ≠ port) :
    Together config (Apart other kept device) (Pad.readButtons port) := by
  refine (together_read hne).bind fun result => ?_
  cases result with
  | ok state => exact together_pure state.buttons
  | error => exact together_pure Flags.empty

theorem together_probe (hne : other ≠ port) :
    Together config (Apart other kept device) (Card.probe port) :=
  together_selectPort (((lockstep_beside hne).exchange config .memoryCard Card.ping
    (List.replicate Card.ping.length 0)).bind fun reply => together_pure (Card.checkPing reply))

theorem together_broadcast (hne : other ≠ port) (gameId : String) :
    Together config (Apart other kept device) (Card.GameId.broadcast gameId port.mask) := by
  have hports : port.mask.ports = [port] := by cases port <;> decide
  unfold Card.GameId.broadcast
  cases Card.GameId.request gameId with
  | error error => exact together_pure (Except.error error)
  | ok request =>
    have hsend : Together config (Apart other kept device)
        (Bus.selectPort port >>= fun _ => Bus.send .memoryCard request) :=
      together_selectPort ((lockstep_beside hne).send config .memoryCard request)
    have hall : Together config (Apart other kept device)
        (Card.GameId.sendTo request port.mask.ports : Bus Simulator Unit) := by
      rw [hports]
      exact hsend.bind fun _ => together_pure ()
    exact hall.bind fun _ => together_pure (Except.ok ())

theorem together_packetCall (hne : other ≠ port) (call : PacketCall) :
    Together config (Beside port other kept device false) call.command.run := by
  cases call with
  | exchange address request buffer =>
    exact ((lockstep_beside hne).exchange config address request buffer).bind
      fun reply => together_pure (Outcome.reply reply)
  | send address request =>
    exact ((lockstep_beside hne).send config address request).bind fun _ =>
      together_pure Outcome.done

theorem Together.single {P : Simulator → Simulator → Prop} {command : Command}
    (h : Together config P command.run) : Together config P ([command].mapM Command.run) := by
  rw [List.mapM_cons]
  exact h.bind fun outcome => (together_pure []).bind fun rest => together_pure (outcome :: rest)

theorem together_errand (hne : other ≠ port) (errand : Errand) :
    Together config (Apart other kept device) ((errand.commands port).mapM Command.run) := by
  cases errand with
  | readPad => exact ((together_read hne).bind fun _ => together_pure _).single
  | readButtons => exact ((together_readButtons hne).bind fun _ => together_pure _).single
  | probe => exact ((together_probe hne).bind fun _ => together_pure _).single
  | broadcast gameId =>
    exact ((together_broadcast hne gameId).bind fun _ => together_pure _).single
  | packets calls =>
    -- The packets use the port that the errand has selected, so they only stay side by side.
    have hcalls : Together config (Beside port other kept device false)
        ((calls.map PacketCall.command).mapM Command.run) := by
      rw [List.mapM_map]
      exact Together.mapM (together_packetCall hne) calls
    unfold Errand.commands
    rw [List.mapM_cons, Command.run, bind_assoc]
    refine together_selectPort ?_
    rw [pure_bind]
    exact hcalls.bind fun rest => together_pure (Outcome.done :: rest)

theorem together_runAll (hne : other ≠ port) (errands : List Errand) :
    Together config (Apart other kept device) (Errand.runAll port errands) := by
  unfold Errand.runAll
  induction errands with
  | nil => exact together_pure []
  | cons errand errands ih =>
    rw [List.flatMap_cons, List.mapM_append]
    exact (together_errand hne errand).bind fun first =>
      ih.bind fun rest => together_pure (first ++ rest)

/-- Whatever is done on one port, what is plugged into the other one makes no difference to it: the
outcomes are the same, with all the bytes of their buffers, and so are the states that are left,
with their clocks and logs, but for the device on the other port, which stays just as it was. -/
theorem other_port_unnoticed (config : Config) (h : s.attention = false) (hne : other ≠ port)
    (device : Option Device) (errands : List Errand) :
    ∃ outcomes s', Errand.runAll port errands config s = some (outcomes, s') ∧
      Errand.runAll port errands config (s.setDevice other device) =
        some (outcomes, s'.setDevice other device) ∧
      s'.devices.get other = s.devices.get other := by
  have hapart : Apart other (s.devices.get other) device s (s.setDevice other device) :=
    ⟨h, rfl, rfl⟩
  have htogether : Together config (Apart other (s.devices.get other) device)
      (Errand.runAll port errands) := together_runAll hne errands
  obtain ⟨outcomes, s', t', hs, ht, hafter⟩ := htogether _ _ hapart
  rw [hafter.eq] at ht
  exact ⟨outcomes, s', hs, ht, hafter.kept⟩

/-- A transceiver that was used on the second port last: the card there holds the bytes of its last
packet, and what came in with them is not read yet. -/
def usedElsewhere : Simulator :=
  { switchedOn 0 ⟨some (.gamepad ⟨⟨0x4000⟩, none⟩),
      some (.storageCard ⟨true, [0x21, 0x00], some "SLUS"⟩)⟩ 50000 with
    control := Control.enabled.union Control.secondPort
    received := [0x00, 0x5A]
    interrupt := true
    pulse := some 20000 }

/-- Without the card nothing is different on the first port. -/
theorem other_port_unnoticed_unplugged :
    ∃ outcomes s',
      Errand.runAll .one [.packets [.send .memoryCard [0x21, 0x00]], .readPad, .broadcast "SCES"]
        .standard usedElsewhere = some (outcomes, s') ∧
      Errand.runAll .one [.packets [.send .memoryCard [0x21, 0x00]], .readPad, .broadcast "SCES"]
        .standard (usedElsewhere.setDevice .two none) =
          some (outcomes, s'.setDevice .two none) ∧
      s'.devices.get .two = some (.storageCard ⟨true, [0x21, 0x00], some "SLUS"⟩) := by
  have hreleased : usedElsewhere.attention = false := by decide
  have hne : Port.two ≠ Port.one := by decide
  exact other_port_unnoticed .standard hreleased hne none
    [.packets [.send .memoryCard [0x21, 0x00]], .readPad, .broadcast "SCES"]

end Simulator

end ConsoleBus

import ConsoleBus.Proofs.DevicePackets
import ConsoleBus.Proofs.Simulator.Framing
import Mathlib.Data.List.TakeDrop

/-!
# Who listens to a packet

From its address on, a packet is heard by the device on the selected port that has this address, or
by nobody. The place of a byte in the packet is counted by the bytes that went out, and never by
the acknowledges that were seen. So what comes in for a byte is settled by the bytes before it
alone, whatever the interrupt, its latch and the pulses on their way make of the timing.
-/

namespace ConsoleBus

theorem Address.byte_inj {a b : Address} : a.byte = b.byte ↔ a = b := by
  cases a <;> cases b <;> decide

theorem PerPort.set_set {α : Type} (values : PerPort α) (port : Port) (a b : α) :
    (values.set port a).set port b = values.set port b := by
  cases port <;> rfl

namespace Simulator

/-- The device that hears a packet with this address, if there is one. -/
def listener (s : Simulator) (address : Address) : Option Device :=
  (s.devices.get s.port).filter fun device => device.address = address

/-- The byte that comes in from whoever listens. The line rests high. -/
def incoming (listener : Option Device) (index : Nat) (sent : UInt8) : UInt8 :=
  listener.elim 0xFF fun device => (device.exchange index sent).1.byte

/-- The bytes that come in from whoever listens, from a place in the packet on. -/
def incomingFrom (listener : Option Device) (index : Nat) (bytes : List UInt8) : List UInt8 :=
  listener.elim (List.replicate bytes.length 0xFF) fun device =>
    (device.exchangeFrom index bytes).1.map Device.Answer.byte

/-- The bytes that come in during a whole packet. -/
def incomingPacket (listener : Option Device) (bytes : List UInt8) : List UInt8 :=
  listener.elim (List.replicate bytes.length 0xFF) fun device =>
    (device.packet bytes).1.map Device.Answer.byte

/-- Whoever listens, after some bytes of the packet. -/
def informed (listener : Option Device) (index : Nat) (bytes : List UInt8) : Option Device :=
  listener.map fun device => (device.exchangeFrom index bytes).2

/-- How far a packet has come, if the next byte has the given place for whoever listens. -/
def stageFor (listener : Option Device) (index : Nat) : Stage :=
  listener.elim .unheard fun _ => .answering index

/-- What is plugged in, with whoever listens on a port in a new state. -/
def devicesWith (devices : PerPort (Option Device)) (port : Port) (listener : Option Device) :
    PerPort (Option Device) :=
  listener.elim devices fun device => devices.set port (some device)

/-- A packet is on its way on a port, its next byte has the given place for whoever listens, and
all else that is plugged in is as it was. -/
structure Follows (port : Port) (index : Nat) (listener : Option Device)
    (devices : PerPort (Option Device)) (s : Simulator) : Prop where
  steady : s.Steady true
  selected : s.port = port
  stage : s.stage = stageFor listener index
  plugged : s.devices = devicesWith devices port listener

variable {s t : Simulator} {port : Port} {index : Nat} {listener : Option Device}
  {device : Device} {devices : PerPort (Option Device)} {config : Config} {address : Address}

/-! ## Single bytes -/

theorem clockByte_listener (hattention : s.attention = true) (hport : s.port = port)
    (hstage : s.stage = .addressing) (hdevice : s.devices.get port = some device)
    (haddress : device.address = address) :
    s.clockByte address.byte = (0xFF, { s with
      stage := .answering 0
      devices := s.devices.set port (some device.start)
      pulse := some (s.now + s.latency) }) := by
  unfold clockByte
  rw [hattention, hport, hstage, hdevice]
  simp only [Bool.not_true, Bool.false_eq_true, if_false, haddress, if_true]
  rfl

theorem clockByte_nobody (hattention : s.attention = true) (hport : s.port = port)
    (hstage : s.stage = .addressing)
    (hnobody : ∀ device ∈ s.devices.get port, device.address ≠ address) :
    s.clockByte address.byte = (0xFF, { s with stage := .unheard }) := by
  unfold clockByte
  rw [hattention, hport, hstage]
  cases hdevice : s.devices.get port with
  | none => rfl
  | some device =>
    have hother : ¬ device.address.byte = address.byte := by
      rw [Address.byte_inj]
      exact hnobody device hdevice
    simp only [Bool.not_true, Bool.false_eq_true, if_false, hother]

theorem clockByte_answering (hattention : s.attention = true) (hport : s.port = port)
    (hstage : s.stage = .answering index) (hdevice : s.devices.get port = some device)
    (sent : UInt8) :
    s.clockByte sent = ((device.exchange index sent).1.byte, { s with
      stage := .answering (index + 1)
      devices := s.devices.set port (some (device.exchange index sent).2)
      pulse := if (device.exchange index sent).1.acknowledged then some (s.now + s.latency)
        else s.pulse }) := by
  unfold clockByte
  rw [hattention, hport, hstage, hdevice]
  simp only [Bool.not_true, Bool.false_eq_true, if_false]
  cases (device.exchange index sent).1.acknowledged <;> rfl

theorem clockByte_unheard (hstage : s.stage = .unheard) (sent : UInt8) :
    s.clockByte sent = (0xFF, s) := by
  unfold clockByte
  rw [hstage]
  split <;> rfl

/-! ## What comes in -/

section Bytes

variable {byte : UInt8} {bytes : List UInt8}

theorem incomingFrom_nil : incomingFrom listener index [] = [] := by
  cases listener <;> rfl

theorem incomingFrom_cons :
    incomingFrom listener index (byte :: bytes) = incoming listener index byte ::
      incomingFrom (informed listener index [byte]) (index + 1) bytes := by
  cases listener <;> rfl

theorem informed_nil : informed listener index [] = listener := by
  cases listener <;> rfl

theorem informed_cons :
    informed listener index (byte :: bytes) =
      informed (informed listener index [byte]) (index + 1) bytes := by
  cases listener <;> rfl

theorem incomingFrom_start :
    incomingFrom (listener.map Device.start) 0 bytes = incomingPacket listener bytes := by
  cases listener <;> rfl

theorem informed_start :
    (informed (listener.map Device.start) 0 bytes).map Device.finish =
      listener.map fun device => (device.packet bytes).2 := by
  cases listener <;> rfl

theorem length_incomingPacket (listener : Option Device) (bytes : List UInt8) :
    (incomingPacket listener bytes).length = bytes.length := by
  cases listener with
  | none => exact List.length_replicate
  | some device =>
    show ((device.packet bytes).1.map _).length = _
    rw [List.length_map, Device.packet_fst, Device.length_exchangeFrom]

end Bytes

/-! ## From byte to byte -/

theorem Follows.sameWire (h : s.Follows port index listener devices) (hwire : SameWire s t) :
    t.Follows port index listener devices :=
  ⟨h.steady.sameWire hwire, hwire.port.trans h.selected, hwire.stage.trans h.stage,
    hwire.devices.trans h.plugged⟩

/-- All that one byte does to a packet on its way. -/
theorem Follows.clockByte (h : s.Follows port index listener devices) (sent : UInt8) :
    (s.clockByte sent).1 = incoming listener index sent ∧
    (s.clockByte sent).2.stage = stageFor (informed listener index [sent]) (index + 1) ∧
    (s.clockByte sent).2.devices = devicesWith devices port (informed listener index [sent]) := by
  cases listener with
  | none =>
    have hunheard : s.stage = .unheard := h.stage
    rw [clockByte_unheard hunheard]
    exact ⟨rfl, h.stage, h.plugged⟩
  | some device =>
    have hanswering : s.stage = .answering index := h.stage
    have hplugged : s.devices = devices.set port (some device) := h.plugged
    have hdevice : s.devices.get port = some device := by rw [hplugged, PerPort.get_set]
    rw [clockByte_answering h.steady.attention h.selected hanswering hdevice, hplugged,
      PerPort.set_set]
    exact ⟨rfl, rfl, rfl⟩

theorem Follows.heard (h : s.Follows port index listener devices) (sent : UInt8) :
    s.heard sent = incoming listener index sent :=
  (h.clockByte sent).1

theorem Follows.carry (h : s.Follows port index listener devices) (sent : UInt8) :
    (s.carry sent).Follows port (index + 1) (informed listener index [sent]) devices := by
  obtain ⟨-, hstage, hdevices⟩ := h.clockByte sent
  refine ⟨h.steady.carry sent, ?_, hstage, hdevices⟩
  exact (carry_port s sent).trans h.selected

/-! ## From the address to the end -/

theorem listener_eq_some_iff :
    s.listener address = some device ↔
      device ∈ s.devices.get s.port ∧ device.address = address := by
  unfold Simulator.listener
  rw [Option.filter_eq_some_iff, decide_eq_true_eq]
  rfl

theorem listener_eq_none_iff :
    s.listener address = none ↔ ∀ device ∈ s.devices.get s.port, device.address ≠ address := by
  unfold Simulator.listener
  rw [Option.filter_eq_none_iff]
  simp only [decide_eq_true_eq]
  rfl

theorem listener_selected_eq_some_iff :
    (s.selected port).listener address = some device ↔
      device ∈ s.devices.get port ∧ device.address = address := by
  rw [listener_eq_some_iff, port_selected, devices_selected]

theorem listener_selected_eq_none_iff :
    (s.selected port).listener address = none ↔
      ∀ device ∈ s.devices.get port, device.address ≠ address := by
  rw [listener_eq_none_iff, port_selected, devices_selected]

/-- Whoever has the address is told of the start of the packet. -/
theorem clockByte_address (hattention : s.attention = true) (hstage : s.stage = .addressing)
    (address : Address) :
    (s.clockByte address.byte).2.stage = stageFor ((s.listener address).map Device.start) 0 ∧
    (s.clockByte address.byte).2.devices =
      devicesWith s.devices s.port ((s.listener address).map Device.start) := by
  cases hlistener : s.listener address with
  | none =>
    rw [clockByte_nobody hattention rfl hstage (listener_eq_none_iff.mp hlistener)]
    exact ⟨rfl, rfl⟩
  | some device =>
    obtain ⟨hdevice, haddress⟩ := listener_eq_some_iff.mp hlistener
    rw [clockByte_listener hattention rfl hstage hdevice haddress]
    exact ⟨rfl, rfl⟩

/-- Who listens does not change while attention is asserted. -/
theorem listener_poised (config : Config) (s : Simulator) (address : Address) :
    (s.poised config).listener address = s.listener address := by
  have hwire := sameWire_poised config s
  have hport : (s.poised config).port = s.port := hwire.port.trans (port_withAttention s)
  have hdevices : (s.poised config).devices = s.devices := hwire.devices
  unfold listener
  rw [hport, hdevices]

/-- From the address on, the packet is followed by whoever listens. -/
theorem follows_begun (config : Config) (address : Address) (h : s.Steady false) :
    (s.begun config address).Follows s.port 0 ((s.listener address).map Device.start)
      s.devices := by
  have hwire := sameWire_poised config s
  have hpoised := steady_poised config h
  have hport : (s.poised config).port = s.port := hwire.port.trans (port_withAttention s)
  have hdevices : (s.poised config).devices = s.devices := hwire.devices
  obtain ⟨hstage, hafter⟩ := clockByte_address hpoised.attention hwire.stage address
  have hcarried := hpoised.carry address.byte
  rw [listener_poised] at hstage hafter
  rw [hport, hdevices] at hafter
  rw [begun_eq config address]
  refine ⟨⟨hcarried.attention, hcarried.strobeless⟩, ?_, hstage, hafter⟩
  exact (carry_port _ address.byte).trans hport

/-- At the end of the packet whoever listened is told so. -/
theorem Follows.ended (h : s.Follows port index listener devices) (config : Config) :
    (s.ended config).Steady false ∧ (s.ended config).port = port ∧
      (s.ended config).devices = devicesWith devices port (listener.map Device.finish) := by
  have hend := h.sameWire ((sameWire_pass s (clampMicros config.attentionDelay * 1000)).trans
    (sameWire_deliverPulse _))
  refine ⟨steady_ended config h.steady, (port_withoutAttention _).trans hend.selected, ?_⟩
  show devicesAfter _ _ = _
  unfold devicesAfter
  rw [hend.stage, hend.selected, hend.plugged]
  cases listener with
  | none => rfl
  | some device =>
    have hplugged : devicesWith devices port (some device) = devices.set port (some device) := rfl
    show PerPort.set _ port (Option.map _ (PerPort.get _ port)) = _
    rw [hplugged, PerPort.get_set, PerPort.set_set]
    rfl

/-! ## Whole packets -/

/-- A reply holds what came in for as many bytes of the padded request as it counts, and is
otherwise what the buffer was. -/
structure Faithful (listener : Option Device) (index : Nat) (request buffer : List UInt8)
    (reply : Reply) : Prop where
  count_le : reply.count ≤ buffer.length
  received : reply.received = incomingFrom listener index (request.takeD reply.count 0)
  beyond : reply.buffer.drop reply.count = buffer.drop reply.count

theorem fill_follows (config : Config) (buffer : List UInt8) :
    ∀ (index : Nat) (listener : Option Device) (request : List UInt8) (s : Simulator),
      s.Follows port index listener devices → s.received = [] →
        ∃ reply t, (Bus.fill request buffer : Bus Simulator Reply) config s = some (reply, t) ∧
          Faithful listener index request buffer reply ∧
          t.Follows port (index + reply.count)
            (informed listener index (request.takeD reply.count 0)) devices := by
  -- The place in the packet grows with the buffer, whether or not the acknowledges are real.
  induction buffer with
  | nil =>
    intro index listener request s h _
    refine ⟨⟨0, []⟩, s, rfl, ⟨Nat.le_refl _, incomingFrom_nil.symm, rfl⟩, ?_⟩
    show s.Follows port index (informed listener index []) devices
    rw [informed_nil]
    exact h
  | cons old rest ih =>
    intro index listener request s h hreceived
    have hbyte : (Bus.exchangeByte (request.headD 0) : Bus Simulator UInt8) config s = _ :=
      exchangeByte_run h.steady.attention hreceived (request.headD 0)
    rw [h.heard] at hbyte
    generalize hcarried : (s.deliverPulse.carry (request.headD 0)).deliverPulse = u at hbyte
    have hu : u.Follows port (index + 1) (informed listener index [request.headD 0]) devices := by
      rw [← hcarried]
      exact ((h.sameWire (sameWire_deliverPulse s)).carry _).sameWire (sameWire_deliverPulse _)
    have hempty : u.received = [] := by
      rw [← hcarried, deliverPulse_received, carry_received, deliverPulse_received, hreceived]
    obtain ⟨seen, v, hwait, hpassed⟩ :=
      waitAcknowledge_passed config hu.steady.strobeless config.timeout
    have hv := hu.sameWire hpassed.wire
    unfold Bus.fill
    rw [Bus.bind_of_eq_some hbyte, Bus.bind_of_eq_some Bus.read_apply, Bus.bind_of_eq_some hwait]
    cases seen with
    | false =>
      have hone : request.takeD 1 0 = [request.headD 0] := rfl
      refine ⟨⟨1, _ :: rest⟩, v, rfl, ⟨Nat.succ_le_succ (Nat.zero_le _), ?_, rfl⟩, ?_⟩
      · rw [hone, incomingFrom_cons, incomingFrom_nil]
        rfl
      · rw [hone]
        exact hv
    | true =>
      obtain ⟨reply, t, hfill, hreply, ht⟩ :=
        ih (index + 1) _ request.tail v hv (hpassed.received.trans hempty)
      have hmore : request.takeD (reply.count + 1) 0 =
          request.headD 0 :: request.tail.takeD reply.count 0 := rfl
      refine ⟨⟨reply.count + 1, _ :: reply.buffer⟩, t, Bus.bind_of_eq_some hfill _,
        ⟨Nat.succ_le_succ hreply.count_le, ?_, hreply.beyond⟩, ?_⟩
      · rw [hmore, incomingFrom_cons, ← hreply.received]
        rfl
      · rw [hmore, informed_cons, ← Nat.add_assoc, Nat.add_right_comm]
        exact ht

theorem answerAddress_follows (config : Config) (h : s.Follows port 0 listener devices)
    (request buffer : List UInt8) (seen : Bool) :
    ∃ reply t, (Bus.answerAddress request buffer seen : Bus Simulator Reply) config s =
        some (reply, t) ∧
      Faithful listener 0 request buffer reply ∧
      t.Follows port reply.count (informed listener 0 (request.takeD reply.count 0)) devices := by
  cases seen with
  | false =>
    refine ⟨⟨0, buffer⟩, s, rfl, ⟨Nat.zero_le _, incomingFrom_nil.symm, rfl⟩, ?_⟩
    show s.Follows port 0 (informed listener 0 []) devices
    rw [informed_nil]
    exact h
  | true =>
    obtain ⟨reply, t, hfill, hreply, ht⟩ := fill_follows config buffer 0 listener request s.drained
      (h.sameWire (sameWire_drained s)) rfl
    rw [Nat.zero_add] at ht
    refine ⟨reply, t, ?_, hreply, ht⟩
    show (Bus.drain >>= fun _ => Bus.fill request buffer) config s = _
    rw [Bus.bind_of_eq_some (drain_run s), hfill]

/-- From any state with attention released, an exchange comes to an end, with a reply that was cut
out of the packet of whoever listens. -/
theorem exchange_follows (config : Config) (h : s.Steady false) (address : Address)
    (request buffer : List UInt8) :
    ∃ reply t, (Bus.exchange address request buffer : Bus Simulator Reply) config s =
        some (reply, t) ∧
      Faithful ((s.listener address).map Device.start) 0 request buffer reply ∧
      t.Steady false ∧ t.port = s.port ∧
      t.devices = devicesWith s.devices s.port
        ((s.listener address).map fun device =>
          (device.packet (request.takeD reply.count 0)).2) := by
  generalize hheld : s.pass (clampMicros config.preDelay * 1000) = held
  have hheldSteady : held.Steady false := by
    rw [← hheld]
    exact h.sameWire (sameWire_pass s _)
  have hbegun : (held.begun config address).Follows s.port 0
      ((s.listener address).map Device.start) s.devices := by
    rw [← hheld] at hheldSteady ⊢
    exact follows_begun config address hheldSteady
  obtain ⟨seen, t, hwait, hpassed⟩ :=
    waitAcknowledge_passed config hbegun.steady.strobeless config.timeout
  obtain ⟨reply, u, hanswer, hreply, hu⟩ :=
    answerAddress_follows config (hbegun.sameWire hpassed.wire) request buffer seen
  obtain ⟨hsteady, hport, hdevices⟩ := hu.ended config
  rw [informed_start] at hdevices
  refine ⟨reply, _, exchange_steady h hheld address hwait hanswer hu.steady, hreply,
    hsteady.sameWire (sameWire_pass _ _), ?_, hdevices⟩
  exact (sameWire_pass _ _).port.trans hport

/-! ## Packets that are sent blindly -/

theorem Follows.paced (config : Config) (bytes : List UInt8) :
    ∀ (index : Nat) (listener : Option Device) (s : Simulator),
      s.Follows port index listener devices →
        (paced config bytes s).Follows port (index + bytes.length) (informed listener index bytes)
          devices ∧
        (paced config bytes s).log.history = s.log.history ++
          List.zipWith (Event.byte port) bytes (incomingFrom listener index bytes) := by
  induction bytes with
  | nil =>
    intro index listener s h
    rw [informed_nil, incomingFrom_nil]
    exact ⟨h, (List.append_nil _).symm⟩
  | cons byte bytes ih =>
    intro index listener s h
    have hdelivered := h.sameWire (sameWire_deliverPulse s)
    have hwire : SameWire (s.deliverPulse.carry byte) ((s.deliverPulse.carry byte).deliverPulse.pass
        (clampMicros config.byteDelay * 1000)) :=
      (sameWire_deliverPulse _).trans (sameWire_pass _ _)
    obtain ⟨hfollows, hhistory⟩ := ih (index + 1) _ _ ((hdelivered.carry byte).sameWire hwire)
    rw [hwire.log, carry_log, EventLog.history_record, hdelivered.selected, hdelivered.heard,
      (sameWire_deliverPulse s).log, List.append_assoc] at hhistory
    rw [informed_cons, incomingFrom_cons, List.length_cons, ← Nat.add_assoc, Nat.add_right_comm]
    exact ⟨hfollows, hhistory⟩

/-- The events of a whole packet on a port. -/
def frame (port : Port) (sent received : List UInt8) : List Event :=
  .attention port true :: (List.zipWith (.byte port) sent received ++ [.attention port false])

/-- From any state with attention released, a packet that is sent blindly goes over the wire as a
whole, and whoever listens hears all of it. -/
theorem send_follows (config : Config) (h : s.Steady false) (address : Address)
    (request : List UInt8) :
    ∃ t, (Bus.send address request : Bus Simulator Unit) config s = some ((), t) ∧
      t.Steady false ∧ t.port = s.port ∧ t.interruptReads = s.interruptReads ∧
      t.log.history = s.log.history ++ frame s.port (address.byte :: request)
        (0xFF :: incomingPacket (s.listener address) request) ∧
      t.devices = devicesWith s.devices s.port
        ((s.listener address).map fun device => (device.packet request).2) := by
  have hwire := sameWire_introduced config address s
  have hstart := (follows_begun config address h).sameWire hwire
  obtain ⟨hfollows, hhistory⟩ := Follows.paced config request 0 _ _ hstart
  have hbytes : (Bus.sendBytes request : Bus Simulator Unit) config
      (s.introduced config address) = _ :=
    sendBytes_run request _ hstart.steady.attention rfl
  have hreads : (Simulator.paced config request (s.introduced config address)).interruptReads =
      s.interruptReads := by
    rw [interruptReads_paced]
    show (Simulator.deliverPulse _).interruptReads = _
    rw [deliverPulse_interruptReads]
    exact interruptReads_begun config address s
  generalize Simulator.paced config request (s.introduced config address) = t at *
  obtain ⟨hsteady, hport, hdevices⟩ := hfollows.ended config
  rw [informed_start] at hdevices
  refine ⟨t.ended config, send_steady h address hbytes hfollows.steady, hsteady, hport, ?_, ?_,
    hdevices⟩
  · exact (deliverPulse_interruptReads _).trans hreads
  · rw [history_ended, hhistory, hwire.log, history_begun config address, incomingFrom_start,
      hfollows.selected]
    unfold frame
    simp only [List.zipWith_cons_cons, List.append_assoc, List.cons_append, List.nil_append]

/-- Other ports notice nothing of a packet. -/
theorem get_devicesWith_of_ne {other : Port} (h : other ≠ port) :
    (devicesWith devices port listener).get other = devices.get other := by
  cases listener with
  | none => rfl
  | some device => exact PerPort.get_set_of_ne devices (some device) h

end Simulator

end ConsoleBus

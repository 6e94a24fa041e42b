import ConsoleBus.Proofs.Simulator.Answers
import Mathlib.Data.ENat.Lattice

/-!
# What an exchange gives, told by the device alone

Whether a device is heard at all is settled by how long its acknowledges take. A device that is
heard takes the bytes of the request up to the first that it does not acknowledge, as far as there
is room in the buffer. Of the state that an exchange finds, nothing else plays a part: not what was
received before, nor an old interrupt, nor the latch, nor an old pulse that comes due in time.
-/

namespace ConsoleBus

namespace Device

/-- Whether a device acknowledges the byte that comes `place` bytes later, once it has heard the
bytes before it. When the request is used up, it hears zeroes. -/
def acknowledges (device : Device) (index : Nat) (request : List UInt8) (place : Nat) : Bool :=
  ((device.exchangeFrom index (request.takeD place 0)).2.exchange (index + place)
    (request.getD place 0)).1.acknowledged

/-- How many bytes a device takes: those up to and including the first that it does not
acknowledge. There is no end to them if it acknowledges all of them. -/
noncomputable def span (device : Device) (index : Nat) (request : List UInt8) : ℕ∞ :=
  ⨅ (place : Nat) (_ : ¬ device.acknowledges index request place = true), (place + 1 : ℕ∞)

variable {device : Device} {index : Nat} {request : List UInt8}

theorem acknowledges_zero :
    device.acknowledges index request 0 =
      (device.exchange index (request.headD 0)).1.acknowledged := by
  cases request <;> rfl

theorem acknowledges_succ (place : Nat) :
    device.acknowledges index request (place + 1) =
      (device.exchange index (request.headD 0)).2.acknowledges (index + 1) request.tail place := by
  have htake : request.takeD (place + 1) 0 = request.headD 0 :: request.tail.takeD place 0 := rfl
  have hget : request.getD (place + 1) 0 = request.tail.getD place 0 := by
    cases request <;> rfl
  unfold acknowledges
  rw [htake, hget, exchangeFrom_cons, Nat.add_assoc, Nat.add_comm 1 place]

theorem span_last (h : ¬ (device.exchange index (request.headD 0)).1.acknowledged = true) :
    device.span index request = 1 := by
  refine le_antisymm ?_ (le_iInf₂ fun place _ => le_add_self)
  rw [← acknowledges_zero] at h
  exact iInf₂_le_of_le 0 h (by rw [Nat.cast_zero, zero_add])

theorem span_more (h : (device.exchange index (request.headD 0)).1.acknowledged = true) :
    device.span index request =
      (device.exchange index (request.headD 0)).2.span (index + 1) request.tail + 1 := by
  unfold span
  rw [ENat.iInf₂_add]
  refine le_antisymm ?_ ?_
  · refine le_iInf₂ fun place hplace => ?_
    rw [← acknowledges_succ] at hplace
    refine iInf₂_le_of_le (place + 1) hplace ?_
    rw [Nat.cast_succ]
  · refine le_iInf₂ fun place hplace => ?_
    cases place with
    | zero => exact absurd (acknowledges_zero.trans h) hplace
    | succ place =>
      rw [acknowledges_succ] at hplace
      refine iInf₂_le_of_le place hplace ?_
      rw [Nat.cast_succ]

/-- An exchange is over when the buffer is full or the device has had enough. -/
theorem count_converse (buffer : List UInt8) : ∀ (device : Device) (index : Nat)
    (request : List UInt8),
    ((device.converse index request buffer).1.count : ℕ∞) =
      min (buffer.length : ℕ∞) (device.span index request) := by
  induction buffer with
  | nil => exact fun _ _ _ => (min_eq_left zero_le).symm
  | cons old rest ih =>
    intro device index request
    rw [List.length_cons, Nat.cast_succ]
    by_cases hack : (device.exchange index (request.headD 0)).1.acknowledged = true
    · rw [converse_more hack, span_more hack, min_add_add_right, ← ih]
      exact Nat.cast_succ _
    · rw [converse_last hack, span_last hack]
      exact (min_eq_right le_add_self).symm

theorem count_converse_pos (device : Device) (index : Nat) (request : List UInt8) (old : UInt8)
    (rest : List UInt8) : 0 < (device.converse index request (old :: rest)).1.count := by
  by_cases hack : (device.exchange index (request.headD 0)).1.acknowledged = true
  · rw [converse_more hack]
    exact Nat.succ_pos _
  · rw [converse_last hack]
    exact Nat.one_pos

end Device

namespace Simulator

variable {s t : Simulator} {config : Config} {address : Address} {device : Device}

/-- The device took part in the exchange, and what it said and became is what it says and becomes
when it is asked directly. -/
structure Answered (device : Device) (request buffer : List UInt8) (s : Simulator) (reply : Reply)
    (t : Simulator) : Prop where
  count : (reply.count : ℕ∞) = min (buffer.length : ℕ∞) (device.start.span 0 request)
  received : reply.received =
    (device.packet (request.takeD reply.count 0)).1.map Device.Answer.byte
  beyond : reply.buffer.drop reply.count = buffer.drop reply.count
  devices : t.devices =
    s.devices.set s.port (some (device.packet (request.takeD reply.count 0)).2)
  settled : t.pulse = none

/-- Nobody was heard. A device with this address was still told of the start and the end. -/
structure Unanswered (listener : Option Device) (buffer : List UInt8) (s : Simulator)
    (reply : Reply) (t : Simulator) : Prop where
  reply : reply = ⟨0, buffer⟩
  devices : t.devices =
    devicesWith s.devices s.port (listener.map fun device => device.start.finish)

/-! ## The exchange and the device -/

/-- An exchange is what the device alone says, if its acknowledges come in time, and otherwise it
leaves the buffer as it is. -/
theorem exchange_told_by_device (config : Config) (h : s.Forwarding false)
    (hwithin : s.Within (clampMicros config.preDelay * 1000)) (address : Address)
    (request buffer : List UInt8) :
    ∃ reply t, (Bus.exchange address request buffer : Bus Simulator Reply) config s =
        some (reply, t) ∧
      (∀ device, s.listener address = some device → s.InTime config →
        Answered device request buffer s reply t) ∧
      (s.listener address = none ∨ ¬ s.InTime config →
        Unanswered (s.listener address) buffer s reply t) := by
  obtain ⟨reply, t, hrun, hreply, -, -, hdevices⟩ :=
    exchange_follows config h.toSteady address request buffer
  refine ⟨reply, t, hrun, fun device hlistener hintime => ?_, fun hunheard => ?_⟩
  · obtain ⟨u, hanswered, hquiet, -⟩ := exchange_answered h hwithin hlistener hintime request buffer
    obtain ⟨hconverse, rfl⟩ := Bus.run_unique hrun hanswered
    rw [hlistener] at hreply hdevices
    refine ⟨?_, hreply.received, hreply.beyond, hdevices, hquiet.pulse⟩
    rw [hconverse]
    exact Device.count_converse buffer device.start 0 request
  · obtain ⟨u, hunanswered, -⟩ := exchange_unanswered h.toSteady hwithin hunheard request buffer
    obtain ⟨rfl, rfl⟩ := Bus.run_unique hrun hunanswered
    exact ⟨rfl, hdevices⟩

/-- A transceiver with much left over: a byte that was not read, a raised interrupt, a latch that
is not armed, and a pulse that comes due just before attention is asserted. Its device takes as long
to acknowledge as it may. -/
def leftUntidy : Simulator :=
  { switchedOn 0 ⟨some (.script ⟨.controller, [0x5A, 0x01, 0x02], 2, []⟩), none⟩ 110000 with
    control := Control.enabled
    received := [0xAA]
    interrupt := true
    latched := true
    pulse := some 10000 }

theorem exchange_told_by_device_untidy :
    ∃ reply t, (Bus.exchange .controller [0x42] (List.replicate 8 0xEE) : Bus Simulator Reply)
        .standard leftUntidy = some (reply, t) ∧
      Answered (.script ⟨.controller, [0x5A, 0x01, 0x02], 2, []⟩) [0x42] (List.replicate 8 0xEE)
        leftUntidy reply t := by
  have hforward : leftUntidy.Forwarding false := ⟨⟨by decide, ⟨by decide, by decide⟩⟩, by decide⟩
  have hwithin : leftUntidy.Within (clampMicros Config.standard.preDelay * 1000) := by
    intro due hdue
    rw [← Option.some.inj hdue]
    decide
  have hintime : leftUntidy.InTime .standard := ⟨by decide, by decide⟩
  obtain ⟨reply, t, hrun, hanswered, -⟩ := exchange_told_by_device .standard hforward hwithin
    .controller [0x42] (List.replicate 8 0xEE)
  exact ⟨reply, t, hrun, hanswered _ rfl hintime⟩

/-! ## How long an acknowledge may take -/

/-- The bus is set up, a port is selected, and a packet is begun there with its address. -/
def callOut (port : Port) (address : Address) : Bus Simulator Unit := do
  Bus.setUp
  Bus.selectPort port
  Bus.hold (← read).preDelay
  Bus.assertAttention
  Bus.access (.writeData address.byte)

/-- A transceiver that was just set up, with a port selected. -/
def ready (config : Config) (port : Port) (s : Simulator) : Simulator :=
  (s.restarted config).selected port

theorem forwarding_ready (config : Config) (port : Port) (s : Simulator) :
    (s.ready config port).Forwarding false := by
  have hcontrol : (s.ready config port).control = Control.driven port false :=
    Control.route_driven .one port
  exact forwarding_of_driven hcontrol

theorem pulse_ready (config : Config) (port : Port) (s : Simulator) :
    (s.ready config port).pulse = none := by
  show (s.restarted config).deliverPulse.pulse = none
  rw [deliverPulse_eq_self (noneDue_of_none rfl)]
  rfl

theorem latency_ready (config : Config) (port : Port) (s : Simulator) :
    (s.ready config port).latency = s.latency := by
  show (s.restarted config).deliverPulse.latency = _
  rw [(sameWire_deliverPulse _).latency, restarted_latency]

theorem listener_ready {port : Port} (config : Config)
    (hdevice : s.devices.get port = some device) :
    (s.ready config port).listener device.address = some device := by
  refine listener_selected_eq_some_iff.mpr ⟨?_, rfl⟩
  rw [restarted_devices]
  exact hdevice

theorem selectPort_restarted (config : Config) (port : Port) (s : Simulator) :
    (Bus.selectPort port : Bus Simulator Unit) config (s.restarted config) =
      some ((), s.ready config port) := by
  have hcontrol : (s.restarted config).control = Control.driven .one false := rfl
  exact selectPort_steady (steady_of_driven hcontrol) port

theorem callOut_run (config : Config) (port : Port) (address : Address) (s : Simulator) :
    callOut port address config s = some ((),
      ((s.ready config port).pass (clampMicros config.preDelay * 1000)).begun config address) := by
  have hready := (forwarding_ready config port s).toSteady
  have hheld := hready.sameWire (sameWire_pass _ (clampMicros config.preDelay * 1000))
  unfold callOut
  rw [Bus.bind_of_eq_some (setUp_run config s),
    Bus.bind_of_eq_some (selectPort_restarted config port s), Bus.bind_of_eq_some Bus.read_apply,
    Bus.bind_of_eq_some (Bus.hold_apply _), sleep_eq_pass,
    Bus.bind_of_eq_some (assertAttention_steady hheld)]
  exact writeData_run _

theorem inTime_ready_iff (htimeout : 0 < config.timeout) (port : Port) :
    (s.ready config port).InTime config ↔ s.latency ≤ config.lastLook * 1000 := by
  have hlatency := latency_ready config port s
  exact ⟨fun h => hlatency ▸ h.seen, fun h => ⟨htimeout, hlatency.symm ▸ h⟩⟩

theorem callOut_seen_iff (htimeout : 0 < config.timeout) {port : Port}
    (hdevice : s.devices.get port = some device) :
    ∃ seen t, (do
        callOut port device.address
        Bus.waitAcknowledge config.timeout : Bus Simulator Bool) config s = some (seen, t) ∧
      (seen = true ↔ s.latency ≤ config.lastLook * 1000) := by
  have hrun := callOut_run config port device.address s
  generalize hheld : (s.ready config port).pass (clampMicros config.preDelay * 1000) = held at hrun
  have hforward : held.Forwarding false := by
    rw [← hheld]
    exact (forwarding_ready config port s).sameWire (sameWire_pass _ _)
  have hdue : ∀ due ∈ held.pulse, due ≤ held.now := by
    intro due hdue
    rw [← hheld] at hdue
    cases (pulse_ready config port s).symm.trans hdue
  have hlistener : held.listener device.address = some device := by
    rw [← hheld]
    exact listener_ready config hdevice
  have hintime : held.InTime config ↔ s.latency ≤ config.lastLook * 1000 := by
    rw [← inTime_ready_iff htimeout port, ← hheld]
    exact ⟨fun h => ⟨h.waits, h.seen⟩, fun h => ⟨h.waits, h.seen⟩⟩
  rw [← hintime]
  by_cases h : held.InTime config
  · obtain ⟨t, hwait, -⟩ := begun_seen hforward hdue hlistener h
    exact ⟨true, t, (Bus.bind_of_eq_some hrun _).trans hwait, iff_of_true rfl h⟩
  · obtain ⟨t, hwait, -⟩ := begun_unseen hforward.toSteady hdue (.inr h)
    exact ⟨false, t, (Bus.bind_of_eq_some hrun _).trans hwait, iff_of_false Bool.false_ne_true h⟩

theorem exchange_ready_pos_iff (htimeout : 0 < config.timeout) {port : Port}
    (hdevice : s.devices.get port = some device) (request : List UInt8) (old : UInt8)
    (rest : List UInt8) :
    ∃ reply t, (Bus.exchange device.address request (old :: rest) : Bus Simulator Reply) config
        (s.ready config port) = some (reply, t) ∧
      (0 < reply.count ↔ s.latency ≤ config.lastLook * 1000) := by
  have hforward := forwarding_ready config port s
  have hwithin : (s.ready config port).Within (clampMicros config.preDelay * 1000) := by
    intro due hdue
    cases (pulse_ready config port s).symm.trans hdue
  rw [← inTime_ready_iff htimeout port]
  by_cases h : (s.ready config port).InTime config
  · obtain ⟨t, hexchange, -⟩ :=
      exchange_answered hforward hwithin (listener_ready config hdevice) h request (old :: rest)
    exact ⟨_, t, hexchange, iff_of_true (Device.count_converse_pos _ _ _ old rest) h⟩
  · obtain ⟨t, hexchange, -⟩ :=
      exchange_unanswered hforward.toSteady hwithin (.inr h) request (old :: rest)
    exact ⟨_, t, hexchange, iff_of_false (Nat.lt_irrefl 0) h⟩

/-- Whatever came before the setup, the wait after the address sees an acknowledge if it comes by
the last look. The last look is up to one step earlier than the timeout, and an acknowledge in
between is missed: then the exchange gives nothing, as if there were no device. -/
theorem acknowledge_seen_iff (htimeout : 0 < config.timeout) {port : Port}
    (hdevice : s.devices.get port = some device) :
    config.lastLook < config.timeout ∧ config.timeout ≤ config.lastLook + config.pollStep ∧
    (∃ seen t, (do
          callOut port device.address
          Bus.waitAcknowledge config.timeout : Bus Simulator Bool) config s = some (seen, t) ∧
      (seen = true ↔ s.latency ≤ config.lastLook * 1000)) ∧
    ∀ request old rest, ∃ reply t, (do
          Bus.setUp
          Bus.selectPort port
          Bus.exchange device.address request (old :: rest) : Bus Simulator Reply) config s =
        some (reply, t) ∧
      (0 < reply.count ↔ s.latency ≤ config.lastLook * 1000) := by
  refine ⟨Config.lastLook_lt htimeout, config.timeout_le_lastLook_add,
    callOut_seen_iff htimeout hdevice, fun request old rest => ?_⟩
  obtain ⟨reply, t, hexchange, hcount⟩ := exchange_ready_pos_iff htimeout hdevice request old rest
  refine ⟨reply, t, ?_, hcount⟩
  rw [Bus.bind_of_eq_some (setUp_run config s),
    Bus.bind_of_eq_some (selectPort_restarted config port s), hexchange]

/-- With the stock timeout of 120 microseconds, an acknowledge after 115 is missed. -/
theorem acknowledge_seen_iff_missed :
    (∃ seen t, (do
          callOut .one .controller
          Bus.waitAcknowledge Config.standard.timeout : Bus Simulator Bool) .standard
        (switchedOn 0 ⟨some (.gamepad ⟨⟨0⟩, none⟩), none⟩ 115000) = some (seen, t) ∧
      seen = false) ∧
    ∃ reply t, (do
          Bus.setUp
          Bus.selectPort .one
          Bus.exchange .controller [0x42] [0x00] : Bus Simulator Reply) .standard
        (switchedOn 0 ⟨some (.gamepad ⟨⟨0⟩, none⟩), none⟩ 115000) = some (reply, t) ∧
      reply.count = 0 := by
  have hlate : ¬ (115000 : Nat) ≤ Config.standard.lastLook * 1000 := by decide
  have htimeout : 0 < Config.standard.timeout := by decide
  have hdevice : (switchedOn 0 ⟨some (.gamepad ⟨⟨0⟩, none⟩), none⟩ 115000).devices.get .one =
      some (.gamepad ⟨⟨0⟩, none⟩) := rfl
  obtain ⟨-, -, ⟨seen, t, hwait, hseen⟩, hexchange⟩ := acknowledge_seen_iff htimeout hdevice
  obtain ⟨reply, u, hreply, hcount⟩ := hexchange [0x42] 0x00 []
  exact ⟨⟨seen, t, hwait, Bool.eq_false_iff.mpr fun h => hlate (hseen.mp h)⟩,
    reply, u, hreply, Nat.eq_zero_of_not_pos fun h => hlate (hcount.mp h)⟩

end Simulator

end ConsoleBus

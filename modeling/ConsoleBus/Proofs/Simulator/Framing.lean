import ConsoleBus.Proofs.Simulator.Steps

/-!
# Packets from any state with attention released

An exchange and a blind packet are both framed by the two edges of attention. Between the edges
each byte is carried over the wire, and nothing that waits can change more than the time, the
interrupt and its pulse. None of this depends on what was going on before, so a packet can be
followed from any state in which attention is released.
-/

namespace ConsoleBus

namespace Simulator

variable {s t u : Simulator} {config : Config} {request buffer : List UInt8} {asserted : Bool}

/-- The state once attention is asserted and the address is sent. -/
def begun (config : Config) (address : Address) (s : Simulator) : Simulator :=
  (s.fresh.withAttention.pass (clampMicros config.attentionDelay * 1000)).writeData address.byte

/-- The state once attention is released. -/
def ended (config : Config) (s : Simulator) : Simulator :=
  (s.pass (clampMicros config.attentionDelay * 1000)).deliverPulse.withoutAttention

theorem Steady.carry (h : s.Steady asserted) (sent : UInt8) : (s.carry sent).Steady asserted := by
  obtain ⟨_, _, _, hs, -⟩ := carry_frame s sent
  rw [hs]
  exact ⟨h.attention, h.strobeless⟩

/-- The state with attention asserted, when the address is about to go out. -/
def poised (config : Config) (s : Simulator) : Simulator :=
  (s.fresh.withAttention.pass (clampMicros config.attentionDelay * 1000)).deliverPulse

theorem sameWire_poised (config : Config) (s : Simulator) :
    SameWire s.withAttention (s.poised config) := by
  have hfresh := (passed_fresh s).wire
  have hraised : SameWire s.withAttention s.fresh.withAttention := by
    refine ⟨?_, hfresh.mode, hfresh.baud, hfresh.latency, rfl, hfresh.devices, ?_⟩
    · show s.fresh.control.union _ = s.control.union _
      rw [hfresh.control]
    · show s.fresh.log.record _ = s.log.record _
      rw [hfresh.log, hfresh.port]
  exact (hraised.trans (sameWire_pass _ _)).trans (sameWire_deliverPulse _)

theorem steady_poised (config : Config) (h : s.Steady false) : (s.poised config).Steady true :=
  (steady_withAttention h).sameWire (sameWire_poised config s)

/-- With the address, a byte is carried while the packet is at its address. -/
theorem begun_eq (config : Config) (address : Address) (s : Simulator) :
    s.begun config address = { (s.poised config).carry address.byte with
      received := Bounded.push receiveCapacity s.received
        ((s.poised config).heard address.byte) } := by
  generalize hraised : s.fresh.withAttention.pass (clampMicros config.attentionDelay * 1000) = u
  have hreceived : u.received = s.received := by
    rw [← hraised]
    exact deliverPulse_received s
  have hattention : u.attention = true := by
    rw [← hraised]
    exact contains_attention_union s.fresh
  have hpoised : s.poised config = u.deliverPulse := by
    unfold poised
    rw [hraised]
  have hheard : (s.poised config).heard address.byte = u.heard address.byte := by
    rw [hpoised, (sameWire_deliverPulse u).heard]
  rw [hheard, hpoised, ← hreceived]
  unfold begun
  rw [hraised, writeData_eq hattention]

/-- Nothing comes in with an address. -/
theorem heard_address (h : s.stage = .addressing) (sent : UInt8) : s.heard sent = 0xFF := by
  unfold heard clockByte
  rw [h]
  split
  · rfl
  · cases s.devices.get s.port with
    | none => rfl
    | some device =>
      dsimp only
      split <;> rfl

/-- Attention is asserted, and an address goes out for which nothing comes in. -/
theorem history_begun (config : Config) (address : Address) (s : Simulator) :
    (s.begun config address).log.history =
      s.log.history ++ [.attention s.port true, .byte s.port address.byte 0xFF] := by
  have hwire := sameWire_poised config s
  have hport : (s.poised config).port = s.port := hwire.port.trans (port_withAttention s)
  have hlog : (s.poised config).log = s.log.record (.attention s.port true) := hwire.log
  rw [begun_eq config address]
  show ((s.poised config).carry address.byte).log.history = _
  rw [carry_log, heard_address hwire.stage, hport, hlog, EventLog.history_record,
    EventLog.history_record, List.append_assoc]
  rfl

theorem history_ended (config : Config) (s : Simulator) :
    (s.ended config).log.history = s.log.history ++ [.attention s.port false] := by
  have hwire : SameWire s (s.pass (clampMicros config.attentionDelay * 1000)).deliverPulse :=
    (sameWire_pass s _).trans (sameWire_deliverPulse _)
  show (EventLog.record _ (.attention (Simulator.port _) false)).history = _
  rw [EventLog.history_record, hwire.log, hwire.port]

theorem steady_ended (config : Config) (h : s.Steady true) : (s.ended config).Steady false :=
  steady_withoutAttention (h.sameWire ((sameWire_pass s _).trans (sameWire_deliverPulse _)))

/-! ## Exchanges -/

theorem writeData_run (byte : UInt8) :
    (Bus.access (.writeData byte) : Bus Simulator Unit) config s =
      some ((), s.writeData byte) := rfl

/-- An exchange goes on with what the wait after the address finds. -/
theorem exchange_steady (h : s.Steady false) {held : Simulator}
    (hheld : s.pass (clampMicros config.preDelay * 1000) = held) (address : Address)
    {seen : Bool} {reply : Reply}
    (hwait : (Bus.waitAcknowledge config.timeout : Bus Simulator Bool) config
      (held.begun config address) = some (seen, t))
    (hanswer : (Bus.answerAddress request buffer seen : Bus Simulator Reply) config t =
      some (reply, u))
    (hu : u.Steady true) :
    (Bus.exchange address request buffer : Bus Simulator Reply) config s =
      some (reply, (u.ended config).pass (clampMicros config.postDelay * 1000)) := by
  have hsteady : held.Steady false := by
    rw [← hheld]
    exact h.sameWire (sameWire_pass s _)
  unfold begun at hwait
  rw [Bus.exchange_eq, Bus.bind_of_eq_some Bus.read_apply, Bus.bind_of_eq_some (Bus.hold_apply _),
    sleep_eq_pass, hheld, Bus.bind_of_eq_some (assertAttention_steady hsteady),
    Bus.bind_of_eq_some (writeData_run _), Bus.bind_of_eq_some Bus.read_apply,
    Bus.bind_of_eq_some hwait, Bus.bind_of_eq_some hanswer]
  unfold Bus.conclude
  rw [Bus.bind_of_eq_some (releaseAttention_steady hu), Bus.bind_of_eq_some Bus.read_apply,
    Bus.bind_of_eq_some (Bus.hold_apply _)]
  rfl

/-! ## Packets that are sent blindly -/

/-- The state of a packet sent blindly after its address. -/
def introduced (config : Config) (address : Address) (s : Simulator) : Simulator :=
  ((s.begun config address).pass (clampMicros config.byteDelay * 1000)).drained

theorem sameWire_introduced (config : Config) (address : Address) (s : Simulator) :
    SameWire (s.begun config address) (s.introduced config address) :=
  (sameWire_pass _ _).trans (sameWire_drained _)

theorem send_steady (h : s.Steady false) (address : Address)
    (hbytes : (Bus.sendBytes request : Bus Simulator Unit) config
      (s.introduced config address) = some ((), u))
    (hu : u.Steady true) :
    (Bus.send address request : Bus Simulator Unit) config s = some ((), u.ended config) := by
  unfold Bus.send
  rw [Bus.bind_of_eq_some (assertAttention_steady h), Bus.bind_of_eq_some (Bus.access_apply _),
    Bus.bind_of_eq_some Bus.read_apply, Bus.bind_of_eq_some (Bus.hold_apply _), sleep_eq_pass,
    Bus.bind_of_eq_some (drain_run _)]
  show (Bus.sendBytes request >>= fun _ => Bus.releaseAttention) config
    (s.introduced config address) = _
  rw [Bus.bind_of_eq_some hbytes, releaseAttention_steady hu]
  rfl

/-- The state after bytes were sent one by one, with the byte delay after each. -/
def paced (config : Config) : List UInt8 → Simulator → Simulator
  | [], s => s
  | byte :: bytes, s =>
    paced config bytes
      ((s.deliverPulse.carry byte).deliverPulse.pass (clampMicros config.byteDelay * 1000))

theorem sendBytes_run (bytes : List UInt8) : ∀ s : Simulator,
    s.attention = true → s.received = [] →
      (Bus.sendBytes bytes : Bus Simulator Unit) config s = some ((), paced config bytes s) := by
  induction bytes with
  | nil => exact fun s _ _ => rfl
  | cons byte bytes ih =>
    intro s h hreceived
    generalize hsent : (s.deliverPulse.carry byte).deliverPulse.pass
      (clampMicros config.byteDelay * 1000) = t
    have hfirst : (do
        let _ ← Bus.exchangeByte byte
        Bus.hold (← read).byteDelay : Bus Simulator Unit) config s = some ((), t) := by
      rw [Bus.bind_of_eq_some (exchangeByte_run h hreceived byte),
        Bus.bind_of_eq_some Bus.read_apply, Bus.hold_apply, sleep_eq_pass, hsent]
    have hattention : t.attention = true := by
      rw [← hsent]
      show (s.deliverPulse.carry byte).deliverPulse.control.contains _ = true
      rw [deliverPulse_control, carry_control, deliverPulse_control]
      exact h
    have hempty : t.received = [] := by
      rw [← hsent]
      show (s.deliverPulse.carry byte).deliverPulse.received = _
      rw [deliverPulse_received, carry_received, deliverPulse_received, hreceived]
    show (Bus.sendBytes (byte :: bytes) : Bus Simulator Unit) config s =
      some ((), paced config bytes ((s.deliverPulse.carry byte).deliverPulse.pass _))
    rw [hsent, ← ih t hattention hempty]
    exact Bus.bind_of_eq_some hfirst _

theorem interruptReads_begun (config : Config) (address : Address) (s : Simulator) :
    (s.begun config address).interruptReads = s.interruptReads := by
  unfold begun
  generalize hraised : s.fresh.withAttention.pass (clampMicros config.attentionDelay * 1000) = t
  have ht : t.interruptReads = s.interruptReads := by
    rw [← hraised]
    exact deliverPulse_interruptReads s
  obtain ⟨_, _, _, hclocked, -⟩ := clockByte_frame t.deliverPulse address.byte
  have hbyte : (t.deliverPulse.clockByte address.byte).2.interruptReads = s.interruptReads := by
    rw [hclocked]
    exact (deliverPulse_interruptReads t).trans ht
  unfold writeData
  dsimp only
  split <;> exact hbyte

/-- What neither a byte nor the passing of time changes is not changed by bytes sent one by one. -/
theorem paced_keeps {P : Simulator → Prop} (hwire : ∀ s t, SameWire s t → P s → P t)
    (hcarry : ∀ s sent, P s → P (s.carry sent)) (config : Config) (bytes : List UInt8) :
    ∀ s, P s → P (paced config bytes s) := by
  induction bytes with
  | nil => exact fun s h => h
  | cons byte bytes ih =>
    intro s h
    have hbyte : P (s.deliverPulse.carry byte) :=
      hcarry _ byte (hwire _ _ (sameWire_deliverPulse s) h)
    exact ih _ (hwire _ _ ((sameWire_deliverPulse _).trans (sameWire_pass _ _)) hbyte)

theorem interruptReads_paced (config : Config) (bytes : List UInt8) :
    ∀ s : Simulator, (paced config bytes s).interruptReads = s.interruptReads := by
  induction bytes with
  | nil => exact fun s => rfl
  | cons byte bytes ih =>
    intro s
    refine (ih _).trans ?_
    show (s.deliverPulse.carry byte).deliverPulse.interruptReads = _
    rw [deliverPulse_interruptReads, carry_interruptReads, deliverPulse_interruptReads]

theorem Steady.paced (h : s.Steady asserted) (config : Config) (bytes : List UInt8) :
    (paced config bytes s).Steady asserted :=
  paced_keeps (fun _ _ hwire h => h.sameWire hwire) (fun _ sent h => h.carry sent) config bytes s h

end Simulator

end ConsoleBus

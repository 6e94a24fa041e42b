import ConsoleBus.Proofs.Simulator.Framing

/-!
# Whole packets on a simulated transceiver

Every packet opens by asserting attention and sending an address, and closes by releasing attention
again. In between bytes go over the wire on the port of the packet and nothing else happens there,
whatever is answered and however long it takes. So each packet adds one complete `Packet` to the
history.
-/

namespace ConsoleBus

/-- What one packet leaves in the history. The byte that comes in with the address is the one of an
idle line. -/
inductive Packet (port : Port) (address : Address) : List Event → Prop where
  | mk {body : List Event} (h : ∀ event ∈ body, ∃ sent received, event = .byte port sent received) :
    Packet port address
      (.attention port true :: .byte port address.byte 0xFF :: (body ++ [.attention port false]))

namespace Simulator

variable {s t u : Simulator} {port : Port} {config : Config} {asserted : Bool}

/-! ## What happens on the wire in between -/

/-- Only bytes on the port go over the wire, and attention stays as it is. -/
structure Chats (port : Port) (s t : Simulator) : Prop where
  control : t.control = s.control
  history : s.port = port → ∃ body, t.log.history = s.log.history ++ body ∧
    ∀ event ∈ body, ∃ sent received, event = .byte port sent received

theorem Chats.port_eq (h : Chats port s t) : t.port = s.port := by
  unfold Simulator.port
  rw [h.control]

theorem SameWire.chats (h : SameWire s t) : Chats port s t where
  control := h.control
  history _ := ⟨[], by rw [h.log, List.append_nil], fun _ h => nomatch h⟩

theorem Chats.trans (h : Chats port s t) (h' : Chats port t u) : Chats port s u where
  control := h'.control.trans h.control
  history hs := by
    obtain ⟨body, hbody, hbytes⟩ := h.history hs
    obtain ⟨body', hbody', hbytes'⟩ := h'.history (h.port_eq.trans hs)
    refine ⟨body ++ body', by rw [hbody', hbody, List.append_assoc], fun event hevent => ?_⟩
    rcases List.mem_append.mp hevent with hevent | hevent
    · exact hbytes event hevent
    · exact hbytes' event hevent

theorem Chats.steady (h : Chats port s t) (hs : s.Steady asserted) : t.Steady asserted := by
  refine ⟨?_, h.control.symm ▸ hs.strobeless⟩
  show t.control.contains _ = _
  rw [h.control]
  exact hs.attention

theorem chats_carry (s : Simulator) (sent : UInt8) : Chats port s (s.carry sent) where
  control := carry_control s sent
  history hs := by
    refine ⟨[.byte port sent (s.heard sent)], ?_, fun event hevent => ?_⟩
    · rw [carry_log, EventLog.history_record, hs]
    · exact ⟨sent, s.heard sent, List.mem_singleton.mp hevent⟩

/-- A byte exchanged leaves nothing received behind, so that the next one can follow. -/
theorem exchangeByte_chats (config : Config) (h : s.Steady true) (hreceived : s.received = [])
    (sent : UInt8) :
    ∃ byte t, (Bus.exchangeByte sent : Bus Simulator UInt8) config s = some (byte, t) ∧
      t.received = [] ∧ Chats port s t := by
  refine ⟨_, _, exchangeByte_run h.attention hreceived sent, ?_, ?_⟩
  · rw [deliverPulse_received, carry_received, deliverPulse_received, hreceived]
  · exact ((sameWire_deliverPulse s).chats.trans (chats_carry _ sent)).trans
      (sameWire_deliverPulse _).chats

theorem fill_chats (config : Config) (buffer : List UInt8) : ∀ (request : List UInt8) (s : Simulator),
    s.Steady true → s.received = [] →
      ∃ reply t, (Bus.fill request buffer : Bus Simulator Reply) config s = some (reply, t) ∧
        Chats port s t := by
  induction buffer with
  | nil => exact fun request s _ _ => ⟨⟨0, []⟩, s, rfl, (SameWire.refl s).chats⟩
  | cons old rest ih =>
    intro request s h hreceived
    obtain ⟨byte, t, hbyte, ht, hchats⟩ :=
      exchangeByte_chats config h hreceived (request.headD 0)
    obtain ⟨seen, u, hwait, hpassed⟩ :=
      waitAcknowledge_passed config (hchats.steady h).strobeless config.timeout
    have hu : Chats port s u := hchats.trans hpassed.wire.chats
    unfold Bus.fill
    rw [Bus.bind_of_eq_some hbyte, Bus.bind_of_eq_some Bus.read_apply,
      Bus.bind_of_eq_some hwait]
    cases seen with
    | true =>
      obtain ⟨reply, v, hfill, hv⟩ := ih request.tail u (hu.steady h) (hpassed.received.trans ht)
      exact ⟨⟨reply.count + 1, byte :: reply.buffer⟩, v, Bus.bind_of_eq_some hfill _, hu.trans hv⟩
    | false => exact ⟨⟨1, byte :: rest⟩, u, rfl, hu⟩

theorem answerAddress_chats (config : Config) (h : s.Steady true) (request buffer : List UInt8)
    (seen : Bool) :
    ∃ reply t, (Bus.answerAddress request buffer seen : Bus Simulator Reply) config s =
      some (reply, t) ∧ Chats port s t := by
  cases seen with
  | false => exact ⟨⟨0, buffer⟩, s, rfl, (SameWire.refl s).chats⟩
  | true =>
    have hwire := sameWire_drained s
    obtain ⟨reply, t, hfill, hchats⟩ :=
      fill_chats config buffer request s.drained (h.sameWire hwire) rfl
    refine ⟨reply, t, ?_, hwire.chats.trans hchats⟩
    show (Bus.drain >>= fun _ => Bus.fill request buffer) config s = _
    rw [Bus.bind_of_eq_some (drain_run s), hfill]

theorem chats_paced (config : Config) (bytes : List UInt8) (s : Simulator) :
    Chats port s (paced config bytes s) :=
  paced_keeps (fun _ _ hwire h => h.trans hwire.chats) (fun t sent h => h.trans (chats_carry t sent))
    config bytes s (SameWire.refl s).chats

/-! ## Packets in the history -/

/-- No packet is on its way, and attention is routed to a port. -/
structure Rests (port : Port) (s : Simulator) : Prop where
  control : s.control = Control.driven port false
  stage : s.stage = .idle

theorem Rests.steady (h : Rests port s) : s.Steady false := steady_of_driven h.control

/-- One packet goes over the wire. -/
structure Sends (port : Port) (address : Address) (s t : Simulator) : Prop where
  rests : Rests port t
  history : ∃ packet, t.log.history = s.log.history ++ packet ∧ Packet port address packet

theorem control_begun (config : Config) (address : Address)
    (h : s.control = Control.driven port false) :
    (s.begun config address).control = Control.driven port true := by
  rw [begun_eq config address]
  show ((s.poised config).carry address.byte).control = _
  rw [carry_control, (sameWire_poised config s).control]
  show s.control.union Control.attention = _
  rw [h, Control.union_attention_driven]

/-- A packet is whole whatever happens between its address and its end. -/
theorem Chats.sends {address : Address} (hs : s.control = Control.driven port false)
    (h : Chats port (s.begun config address) t) : Sends port address s (t.ended config) := by
  have hcontrol := control_begun config address hs
  have hend : t.control = Control.driven port true := h.control.trans hcontrol
  obtain ⟨body, hbody, hbytes⟩ := h.history (port_of_driven hcontrol)
  refine ⟨⟨?_, rfl⟩, _, ?_, .mk hbytes⟩
  · show Flags.diff (Simulator.deliverPulse _).control Control.attention = _
    rw [deliverPulse_control]
    show t.control.diff Control.attention = _
    rw [hend, Control.diff_attention_driven]
  · rw [history_ended, hbody, history_begun, port_of_driven hs, port_of_driven hend]
    simp only [List.append_assoc, List.cons_append, List.nil_append]

theorem exchange_sends (config : Config) (h : Rests port s) (address : Address)
    (request buffer : List UInt8) :
    ∃ reply t, (Bus.exchange address request buffer : Bus Simulator Reply) config s =
      some (reply, t) ∧ Sends port address s t := by
  generalize hheld : s.pass (clampMicros config.preDelay * 1000) = held
  have hrests : held.control = Control.driven port false := by
    rw [← hheld]
    exact h.control
  have hbegun := steady_of_driven (control_begun config address hrests)
  obtain ⟨seen, t, hwait, hpassed⟩ :=
    waitAcknowledge_passed config hbegun.strobeless config.timeout
  obtain ⟨reply, u, hanswer, hchats⟩ :=
    answerAddress_chats config (hbegun.sameWire hpassed.wire) request buffer seen
  have hwhole : Chats port (held.begun config address) u := hpassed.wire.chats.trans hchats
  obtain ⟨hrest, packet, hhistory, hpacket⟩ := hwhole.sends hrests
  rw [← hheld] at hhistory
  exact ⟨reply, _, exchange_steady h.steady hheld address hwait hanswer (hwhole.steady hbegun),
    ⟨hrest.control, hrest.stage⟩, packet, hhistory, hpacket⟩

theorem send_sends (config : Config) (h : Rests port s) (address : Address)
    (request : List UInt8) :
    ∃ t, (Bus.send address request : Bus Simulator Unit) config s = some ((), t) ∧
      Sends port address s t := by
  have hwire := sameWire_introduced config address s
  have hbegun := steady_of_driven (control_begun config address h.control)
  have hchats : Chats port _ _ := chats_paced config request (s.introduced config address)
  have hwhole : Chats port (s.begun config address) _ := hwire.chats.trans hchats
  have hbytes : (Bus.sendBytes request : Bus Simulator Unit) config (s.introduced config address) =
      _ := sendBytes_run request _ (hbegun.sameWire hwire).attention rfl
  exact ⟨_, send_steady h.steady address hbytes (hwhole.steady hbegun), hwhole.sends h.control⟩

end Simulator

end ConsoleBus

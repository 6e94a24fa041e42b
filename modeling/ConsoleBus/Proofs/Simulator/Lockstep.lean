import ConsoleBus.Proofs.Program
import ConsoleBus.Proofs.Simulator.Framing

/-!
# Two transceivers in lockstep

Two runs of the same commands are compared step by step. Which states count as alike is up to a
relation, and what it has to respect are the few steps that everything on the bus is made of. Then
whole exchanges give the same replies on both sides, and so does every command, since a command is
a program of exchanges and blind packets.
-/

namespace ConsoleBus

namespace Simulator

/-- A relation between transceivers that the steps of the bus respect. There is one for the time
between packets and one for the time when attention is asserted. -/
structure Lockstep (R : Bool → Simulator → Simulator → Prop) : Prop where
  steady {asserted s t} : R asserted s t → s.Steady asserted ∧ t.Steady asserted
  interrupt {asserted s t} : R asserted s t → t.interrupt = s.interrupt
  received {asserted s t} : R asserted s t → t.received = s.received
  heard {s t} : R true s t → ∀ sent, t.heard sent = s.heard sent
  delivered {asserted s t} : R asserted s t → R asserted s.deliverPulse t.deliverPulse
  passed {asserted s t} : R asserted s t → ∀ nanos, R asserted (s.pass nanos) (t.pass nanos)
  counted {asserted s t} : R asserted s t →
    R asserted { s with interruptReads := s.interruptReads + 1 }
      { t with interruptReads := t.interruptReads + 1 }
  cleared {asserted s t} : R asserted s t →
    R asserted { s with interrupt := false, latched := false }
      { t with interrupt := false, latched := false }
  stored {asserted s t} : R asserted s t → ∀ received,
    R asserted { s with received } { t with received }
  carried {s t} : R true s t → ∀ sent, R true (s.carry sent) (t.carry sent)
  raised {s t} : R false s t → R true s.withAttention t.withAttention
  lowered {s t} : R true s t → R false s.withoutAttention t.withoutAttention

variable {config : Config} {s t : Simulator} {asserted : Bool} {α β : Type}

namespace Lockstep

variable {R : Bool → Simulator → Simulator → Prop}

/-! ## Single steps -/

theorem look (hR : Lockstep R) (h : R asserted s t) : R asserted s.look t.look :=
  hR.delivered (hR.counted h)

theorem fresh (hR : Lockstep R) (h : R asserted s t) : R asserted s.fresh t.fresh :=
  hR.cleared (hR.delivered h)

theorem drained (hR : Lockstep R) (h : R asserted s t) : R asserted s.drained t.drained :=
  hR.stored (hR.delivered h) []

theorem writeData (hR : Lockstep R) (h : R true s t) (sent : UInt8) :
    R true (s.writeData sent) (t.writeData sent) := by
  have hsteady := hR.steady h
  rw [writeData_eq hsteady.1.attention, writeData_eq hsteady.2.attention, hR.received h,
    hR.heard h]
  exact hR.stored (hR.carried (hR.delivered h) sent) _

theorem begun (hR : Lockstep R) (h : R false s t) (config : Config) (address : Address) :
    R true (s.begun config address) (t.begun config address) :=
  hR.writeData (hR.passed (hR.raised (hR.fresh h)) _) _

theorem ended (hR : Lockstep R) (h : R true s t) (config : Config) :
    R false (s.ended config) (t.ended config) :=
  hR.lowered (hR.delivered (hR.passed h _))

/-! ## Waiting -/

theorem lookForAcknowledge (hR : Lockstep R) (remaining : Nat) : ∀ s t, R asserted s t →
    ∃ seen s' t', Bus.lookForAcknowledge config remaining config s = some (seen, s') ∧
      Bus.lookForAcknowledge config remaining config t = some (seen, t') ∧
      R asserted s' t' ∧ s'.received = s.received := by
  induction remaining using Nat.strongRecOn with
  | ind remaining ih =>
    intro s t h
    by_cases hpos : 0 < remaining
    · have hlook := hR.look h
      have hsteady := hR.steady hlook
      have hreceived : s.look.received = s.received := (passed_look s).received
      rw [Bus.lookForAcknowledge_of_pos hpos, Bus.lookForAcknowledge_of_pos hpos,
        readInterrupt_apply, readInterrupt_apply, hR.interrupt hlook]
      by_cases hseen : s.look.interrupt = true
      · rw [if_pos hseen, if_pos hseen, withFreshControl_arm hsteady.1.strobeless,
          withFreshControl_arm hsteady.2.strobeless]
        exact ⟨true, s.look.fresh, t.look.fresh, rfl, rfl, hR.fresh hlook,
          (passed_fresh s.look).received.trans hreceived⟩
      · rw [if_neg hseen, if_neg hseen]
        have hstep := config.pollStep_pos
        obtain ⟨seen, s', t', hs, ht, hR', hkept⟩ := ih (remaining - config.pollStep) (by omega)
          (s.look.pass (config.pollStep * 1000)) (t.look.pass (config.pollStep * 1000))
          (hR.passed hlook _)
        exact ⟨seen, s', t', hs, ht, hR', hkept.trans hreceived⟩
    · have hzero : remaining = 0 := by omega
      rw [hzero, Bus.lookForAcknowledge_zero, Bus.lookForAcknowledge_zero]
      exact ⟨false, s, t, rfl, rfl, h, rfl⟩

/-- Either both waits see an acknowledge or neither does. -/
theorem waitAcknowledge (hR : Lockstep R) (h : R asserted s t) (config : Config) :
    ∃ seen s' t',
      (Bus.waitAcknowledge config.timeout : Bus Simulator Bool) config s = some (seen, s') ∧
      (Bus.waitAcknowledge config.timeout : Bus Simulator Bool) config t = some (seen, t') ∧
      R asserted s' t' ∧ s'.received = s.received := by
  rw [Bus.waitAcknowledge_apply, Bus.waitAcknowledge_apply]
  exact hR.lookForAcknowledge config.timeout s t h

/-! ## Whole packets -/

theorem fill (hR : Lockstep R) (config : Config) (buffer : List UInt8) :
    ∀ (request : List UInt8) (s t : Simulator), R true s t → s.received = [] →
      ∃ reply s' t', (Bus.fill request buffer : Bus Simulator Reply) config s =
          some (reply, s') ∧
        (Bus.fill request buffer : Bus Simulator Reply) config t = some (reply, t') ∧
        R true s' t' := by
  induction buffer with
  | nil => exact fun request s t h _ => ⟨⟨0, []⟩, s, t, rfl, rfl, h⟩
  | cons old rest ih =>
    intro request s t h hs
    have ht : t.received = [] := (hR.received h).trans hs
    have hsteady := hR.steady h
    have hsbyte : (Bus.exchangeByte (request.headD 0) : Bus Simulator UInt8) config s = _ :=
      exchangeByte_run hsteady.1.attention hs (request.headD 0)
    have htbyte : (Bus.exchangeByte (request.headD 0) : Bus Simulator UInt8) config t = _ :=
      exchangeByte_run hsteady.2.attention ht (request.headD 0)
    rw [hR.heard h] at htbyte
    have hbyte := hR.delivered (hR.carried (hR.delivered h) (request.headD 0))
    have hempty : (s.deliverPulse.carry (request.headD 0)).deliverPulse.received = [] := by
      rw [deliverPulse_received, carry_received, deliverPulse_received, hs]
    obtain ⟨seen, u, v, hswait, htwait, hwait, hkept⟩ := hR.waitAcknowledge hbyte config
    unfold Bus.fill
    rw [Bus.bind_of_eq_some hsbyte, Bus.bind_of_eq_some Bus.read_apply,
      Bus.bind_of_eq_some hswait, Bus.bind_of_eq_some htbyte, Bus.bind_of_eq_some Bus.read_apply,
      Bus.bind_of_eq_some htwait]
    cases seen with
    | false => exact ⟨⟨1, _ :: rest⟩, u, v, rfl, rfl, hwait⟩
    | true =>
      obtain ⟨reply, u', v', hsfill, htfill, hfill⟩ :=
        ih request.tail u v hwait (hkept.trans hempty)
      exact ⟨⟨reply.count + 1, _ :: reply.buffer⟩, u', v', Bus.bind_of_eq_some hsfill _,
        Bus.bind_of_eq_some htfill _, hfill⟩

theorem answerAddress (hR : Lockstep R) (h : R true s t) (config : Config)
    (request buffer : List UInt8) (seen : Bool) :
    ∃ reply s' t', (Bus.answerAddress request buffer seen : Bus Simulator Reply) config s =
        some (reply, s') ∧
      (Bus.answerAddress request buffer seen : Bus Simulator Reply) config t =
        some (reply, t') ∧
      R true s' t' := by
  cases seen with
  | false => exact ⟨⟨0, buffer⟩, s, t, rfl, rfl, h⟩
  | true =>
    obtain ⟨reply, u, v, hsfill, htfill, hfill⟩ :=
      hR.fill config buffer request s.drained t.drained (hR.drained h) rfl
    exact ⟨reply, u, v, (Bus.bind_of_eq_some (drain_run s) _).trans hsfill,
      (Bus.bind_of_eq_some (drain_run t) _).trans htfill, hfill⟩

theorem paced (hR : Lockstep R) (config : Config) (bytes : List UInt8) :
    ∀ s t, R true s t → R true (paced config bytes s) (paced config bytes t) := by
  induction bytes with
  | nil => exact fun s t h => h
  | cons byte bytes ih =>
    intro s t h
    exact ih _ _ (hR.passed (hR.delivered (hR.carried (hR.delivered h) byte)) _)

end Lockstep

/-! ## Commands -/

/-- Carried out on both sides, a routine gives the same result and leaves related states. -/
def Together (config : Config) (P : Simulator → Simulator → Prop) (routine : Bus Simulator α) :
    Prop :=
  ∀ s t, P s t → ∃ a s' t', routine config s = some (a, s') ∧ routine config t = some (a, t') ∧
    P s' t'

section Together

variable {P : Simulator → Simulator → Prop}

theorem together_pure (a : α) : Together config P (pure a) :=
  fun s t h => ⟨a, s, t, rfl, rfl, h⟩

theorem Together.bind {r : Bus Simulator α} {f : α → Bus Simulator β}
    (hr : Together config P r) (hf : ∀ a, Together config P (f a)) :
    Together config P (r >>= f) := by
  intro s t h
  obtain ⟨a, u, v, hs, ht, huv⟩ := hr s t h
  obtain ⟨b, s', t', hs', ht', h'⟩ := hf a u v huv
  exact ⟨b, s', t', (Bus.bind_of_eq_some hs f).trans hs', (Bus.bind_of_eq_some ht f).trans ht', h'⟩

theorem Together.mapM {f : α → Bus Simulator β} (hf : ∀ a, Together config P (f a))
    (as : List α) : Together config P (as.mapM f) := by
  induction as with
  | nil => exact together_pure []
  | cons a as ih =>
    rw [List.mapM_cons]
    exact (hf a).bind fun b => ih.bind fun bs => together_pure (b :: bs)

/-- Programs run together if their calls do. -/
theorem together_interpret
    (hselect : ∀ port, Together config P (Bus.selectPort port))
    (hexchange : ∀ address request buffer,
      Together config P (Bus.exchange address request buffer))
    (hsend : ∀ address request, Together config P (Bus.send address request))
    (p : Program α) : Together config P (p.interpret : Bus Simulator α) := by
  induction p with
  | done result => exact together_pure result
  | selectPort port next ih => exact (hselect port).bind fun _ => ih
  | exchange address request buffer next ih => exact (hexchange address request buffer).bind ih
  | send address request next ih => exact (hsend address request).bind fun _ => ih

end Together

namespace Lockstep

variable {R : Bool → Simulator → Simulator → Prop}

theorem exchange (hR : Lockstep R) (config : Config) (address : Address)
    (request buffer : List UInt8) :
    Together config (R false) (Bus.exchange address request buffer) := by
  intro s t h
  have hsteady := hR.steady h
  have hheld := hR.passed h (clampMicros config.preDelay * 1000)
  generalize hs : s.pass (clampMicros config.preDelay * 1000) = held at hheld
  generalize ht : t.pass (clampMicros config.preDelay * 1000) = held' at hheld
  obtain ⟨seen, u, v, hswait, htwait, huv, -⟩ :=
    hR.waitAcknowledge (hR.begun hheld config address) config
  obtain ⟨reply, u', v', hsanswer, htanswer, hanswer⟩ :=
    hR.answerAddress huv config request buffer seen
  have hend := hR.steady hanswer
  exact ⟨reply, _, _, exchange_steady hsteady.1 hs address hswait hsanswer hend.1,
    exchange_steady hsteady.2 ht address htwait htanswer hend.2,
    hR.passed (hR.ended hanswer config) _⟩

theorem send (hR : Lockstep R) (config : Config) (address : Address) (request : List UInt8) :
    Together config (R false) (Bus.send address request) := by
  intro s t h
  have hsteady := hR.steady h
  have hstart : R true (s.introduced config address) (t.introduced config address) :=
    hR.drained (hR.passed (hR.begun h config address) _)
  have hstarted := hR.steady hstart
  have hpaced := hR.paced config request _ _ hstart
  have hend := hR.steady hpaced
  exact ⟨(), _, _,
    send_steady hsteady.1 address (sendBytes_run request _ hstarted.1.attention rfl) hend.1,
    send_steady hsteady.2 address (sendBytes_run request _ hstarted.2.attention rfl) hend.2,
    hR.ended hpaced config⟩

/-- If the relation goes along with another port, every command gives the same outcome. -/
theorem command (hR : Lockstep R)
    (hselected : ∀ s t port, R false s t → R false (s.selected port) (t.selected port))
    (config : Config) (command : Command) : Together config (R false) command.run := by
  have hselect : ∀ port, Together config (R false) (Bus.selectPort port) := by
    intro port s t h
    have hsteady := hR.steady h
    exact ⟨(), _, _, selectPort_steady hsteady.1 port, selectPort_steady hsteady.2 port,
      hselected s t port h⟩
  rw [← Program.interpret_run]
  exact together_interpret hselect (hR.exchange config) (hR.send config) command.run

end Lockstep

end Simulator

end ConsoleBus

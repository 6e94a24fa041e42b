import ConsoleBus.Proofs.ControlLines
import ConsoleBus.Proofs.Duration
import ConsoleBus.Proofs.Simulator.Framing

/-!
# Packets that are sent blindly

A blind packet never looks for an acknowledge: its bytes are paced by time alone. The main
statement, `send_contract`, says which bytes it sends and how far apart, what it writes to the
control register and how long it takes, over any hardware whose control register can be read back.
The byte that comes in with the address is dropped and one byte is read for every byte sent after
it, so that a simulated transceiver is left with nothing received.
-/

namespace ConsoleBus

namespace Bus

variable {σ : Type} {config : Config} {bytes : List UInt8} {t u : List Occurrence}

/-! ## The form of the trace -/

/-- The lengths of time that were let pass. -/
def pauses (t : List Occurrence) : List Nat :=
  t.filterMap fun
    | .sleep micros => some micros
    | .access _ _ => none

theorem pauses_append (t u : List Occurrence) : pauses (t ++ u) = pauses t ++ pauses u :=
  List.filterMap_append

/-- Bytes are exchanged one after the other, and the byte delay follows each of them. -/
inductive Pacing (config : Config) : List UInt8 → List Occurrence → Prop where
  | done : Pacing config [] []
  | more {sent received : UInt8} {bytes : List UInt8} {t u : List Occurrence}
      (exchanged : Exchanging sent received t) (rest : Pacing config bytes u) :
      Pacing config (sent :: bytes) (t ++ .sleep (clampMicros config.byteDelay) :: u)

/-- What comes between the two edges of attention. -/
inductive Announcing (config : Config) (address : Address) (request : List UInt8) :
    List Occurrence → Prop where
  | mk {t u : List Occurrence} (drained : Draining t) (paced : Pacing config request u) :
      Announcing config address request
        (.access (.writeData address.byte) () :: .sleep (clampMicros config.byteDelay) :: (t ++ u))

theorem leaves_sendBytes [Hardware σ] (bytes : List UInt8) :
    Leaves config (sendBytes bytes : Bus (Traced σ) Unit) fun _ t => Pacing config bytes t := by
  induction bytes with
  | nil => exact .pure .done
  | cons byte bytes ih =>
    show Leaves config ((do
      let _ ← exchangeByte byte
      hold (← read).byteDelay) >>= fun _ => sendBytes bytes) _
    refine .bind (.bind ((leaves_exchangeByte byte).mono fun received t exchanged => .read ?_))
    refine (leaves_hold _).mono ?_
    rintro _ _ rfl
    refine ih.mono fun _ u rest => ?_
    rw [List.append_assoc]
    exact .more exchanged rest

/-- The trace of a blind packet: attention is asserted, the address and the request go out, and
attention is released. -/
theorem leaves_send [Hardware σ] (address : Address) (request : List UInt8) :
    Leaves config (send address request : Bus (Traced σ) Unit) fun _ t =>
      ∃ first last body, Announcing config address request body ∧
        t = asserting config first ++ (body ++ releasing config last) := by
  unfold send
  refine .bind (leaves_assertAttention.mono ?_)
  rintro _ _ ⟨first, rfl⟩
  refine .bind (.access fun _ => .read (.bind ((leaves_hold _).mono ?_)))
  rintro _ _ rfl
  refine .bind (leaves_drain.mono fun _ t drained => ?_)
  refine .bind ((leaves_sendBytes request).mono fun _ u paced => ?_)
  refine leaves_releaseAttention.mono ?_
  rintro _ _ ⟨last, rfl⟩
  refine ⟨first, last, _, .mk drained paced, ?_⟩
  simp only [List.append_assoc, List.cons_append, List.nil_append]

/-! ## What is sent, and how far apart -/

theorem Draining.pauses (h : Draining t) : pauses t = [] := by
  refine List.filterMap_eq_nil_iff.mpr fun o ho => ?_
  obtain ⟨status, rfl⟩ | ⟨byte, rfl⟩ := h o ho
  · rfl
  · rfl

/-- The bytes go out in this order, with the byte delay once between each of them and what comes
next. -/
structure Paced (config : Config) (bytes : List UInt8) (t : List Occurrence) : Prop where
  sent : (turns t).map Prod.fst = bytes
  paused : ∀ turn ∈ turns t, pauses turn.2 = [clampMicros config.byteDelay]

/-- A byte with its delay is a turn of its own. -/
theorem Paced.cons {byte : UInt8} (hsent : Unsent t) (hpaused : pauses (t ++ untilSent u) =
    [clampMicros config.byteDelay]) (h : Paced config bytes u) :
    Paced config (byte :: bytes) (.access (.writeData byte) () :: (t ++ u)) := by
  have hturns : turns (.access (.writeData byte) () :: (t ++ u)) =
      (byte, t ++ untilSent u) :: turns u := by
    rw [turns, untilSent_append hsent, turns_append hsent]
  refine ⟨?_, fun turn hturn => ?_⟩
  · rw [hturns, List.map_cons, h.sent]
  · rw [hturns] at hturn
    rcases List.mem_cons.mp hturn with rfl | hrest
    · exact hpaused
    · exact h.paused turn hrest

theorem Pacing.paced (h : Pacing config bytes t) :
    pauses (untilSent t) = [] ∧ Paced config bytes t := by
  induction h with
  | done => exact ⟨rfl, rfl, fun turn hturn => absurd hturn List.not_mem_nil⟩
  | @more sent received bytes _ u exchanged rest ih =>
    obtain ⟨hquiet, hpaced⟩ := ih
    obtain ⟨before, between, hbefore, hbetween, rfl⟩ := exchanged
    have hrest : Unsent [.access .readData received, .sleep (clampMicros config.byteDelay)] := by
      intro o ho
      simp only [List.mem_cons, List.not_mem_nil, or_false] at ho
      rcases ho with rfl | rfl <;> rfl
    have hturn : Paced config (sent :: bytes) (.access (.writeData sent) () :: ((between ++
        [.access .readData received, .sleep (clampMicros config.byteDelay)]) ++ u)) := by
      refine hpaced.cons (hbetween.unsent.append hrest) ?_
      rw [pauses_append, pauses_append, hquiet, hbetween.draining.pauses]
      rfl
    simp only [List.append_assoc, List.cons_append, List.nil_append] at hturn ⊢
    refine ⟨?_, ?_, ?_⟩
    · rw [untilSent_append hbefore.unsent, pauses_append, hbefore.draining.pauses]
      rfl
    · rw [turns_append hbefore.unsent, hturn.sent]
    · rw [turns_append hbefore.unsent]
      exact hturn.paused

theorem Announcing.paced {address : Address} {request : List UInt8}
    (h : Announcing config address request t) : Paced config (address.byte :: request) t := by
  obtain ⟨drained, paced⟩ := h
  obtain ⟨hquiet, hpaced⟩ := paced.paced
  have hpause : Unsent [.sleep (clampMicros config.byteDelay)] := by
    intro o ho
    rw [List.mem_singleton.mp ho]
    rfl
  refine hpaced.cons (hpause.append drained.unsent) ?_
  rw [pauses_append, pauses_append, hquiet, drained.pauses]
  rfl

theorem map_fst_turns_append (hsent : Unsent u) :
    (turns (t ++ u)).map Prod.fst = (turns t).map Prod.fst := by
  induction t with
  | nil => rw [List.nil_append, turns_of_unsent hsent]; rfl
  | cons o t ih =>
    by_cases ho : o.isSent = true
    · match o, ho with
      | .access (.writeData byte) _, _ =>
        rw [List.cons_append, turns, turns, List.map_cons, List.map_cons, ih]
    · have hquiet : Unsent [o] := by
        intro o' ho'
        rw [List.mem_singleton.mp ho', Bool.eq_false_iff]
        exact ho
      have hwhole := turns_append hquiet (t ++ u)
      have hpart := turns_append hquiet t
      rw [List.singleton_append] at hwhole hpart
      rw [List.cons_append, hwhole, hpart, ih]

/-! ## What is left alone -/

/-- Nothing but a pause, a byte that goes out, or a look at what came in. -/
inductive Carries : Occurrence → Prop where
  | pause (micros : Nat) : Carries (.sleep micros)
  | sent (byte : UInt8) : Carries (.access (.writeData byte) ())
  | looked (status : Status) : Carries (.access .readStatus status)
  | read (byte : UInt8) : Carries (.access .readData byte)

theorem Draining.carries (h : Draining t) : ∀ o ∈ t, Carries o := by
  intro o ho
  obtain ⟨status, rfl⟩ | ⟨byte, rfl⟩ := h o ho
  · exact .looked status
  · exact .read byte

theorem Pacing.carries (h : Pacing config bytes t) : ∀ o ∈ t, Carries o := by
  induction h with
  | done => exact fun o ho => absurd ho List.not_mem_nil
  | more exchanged rest ih =>
    obtain ⟨before, between, hbefore, hbetween, rfl⟩ := exchanged
    intro o ho
    simp only [List.mem_append, List.mem_cons, List.not_mem_nil, or_false] at ho
    rcases ho with (hb | rfl | hb | rfl) | rfl | hr
    · exact hbefore.draining.carries o hb
    · exact .sent _
    · exact hbetween.draining.carries o hb
    · exact .read _
    · exact .pause _
    · exact ih o hr

theorem Announcing.carries {address : Address} {request : List UInt8}
    (h : Announcing config address request t) : ∀ o ∈ t, Carries o := by
  obtain ⟨drained, paced⟩ := h
  intro o ho
  simp only [List.mem_append, List.mem_cons] at ho
  rcases ho with rfl | rfl | hd | hp
  · exact .sent _
  · exact .pause _
  · exact drained.carries o hd
  · exact paced.carries o hp

theorem controlsWritten_of_carries (h : ∀ o ∈ t, Carries o) : controlsWritten t = [] := by
  refine List.filterMap_eq_nil_iff.mpr fun o ho => ?_
  cases h o ho <;> rfl

/-- What does not touch the control register does not matter to what is read back. -/
theorem readsBack_of_carries {written : Option Control} (h : ∀ o ∈ t, Carries o)
    (hread : ReadsBack written (t ++ u)) : ReadsBack written u := by
  induction t with
  | nil => exact hread
  | cons o t ih =>
    refine ih (fun o' ho' => h o' (List.mem_cons_of_mem o ho')) ?_
    cases h o List.mem_cons_self <;> exact hread

/-! ## How long it takes -/

theorem Pacing.slept (h : Pacing config bytes t) :
    slept t = bytes.length * clampMicros config.byteDelay := by
  induction h with
  | done => exact (Nat.zero_mul _).symm
  | more exchanged rest ih =>
    rw [slept_append, slept_cons, exchanged.slept, ih, List.length_cons, Nat.succ_mul]
    simp only [Occurrence.lasting]
    omega

theorem Announcing.slept {address : Address} {request : List UInt8}
    (h : Announcing config address request t) :
    slept t = (1 + request.length) * clampMicros config.byteDelay := by
  obtain ⟨drained, paced⟩ := h
  rw [slept_cons, slept_cons, slept_append, drained.slept, paced.slept, Nat.add_mul, Nat.one_mul]
  simp only [Occurrence.lasting]
  omega

/-! ## Over prompt hardware -/

theorem Prompt.sendBytes_isSome [Hardware σ] (h : Prompt σ) (bytes : List UInt8) : ∀ s : σ,
    ((sendBytes bytes : Bus σ Unit) config s).isSome = true := by
  induction bytes with
  | nil => exact fun s => rfl
  | cons byte bytes ih =>
    intro s
    show (((do
      let _ ← exchangeByte byte
      hold (← read).byteDelay) >>= fun _ => sendBytes bytes) config s).isSome = true
    refine isSome_bind (isSome_bind (h.exchangeByte_isSome byte s) fun _ s₁ => ?_) fun _ s₂ => ih s₂
    rw [bind_of_eq_some read_apply, hold_apply]
    rfl

/-- A blind packet over prompt hardware comes to its end. -/
theorem Prompt.send_isSome [Hardware σ] (h : Prompt σ) (address : Address)
    (request : List UInt8) (s : σ) :
    ((send address request : Bus σ Unit) config s).isSome = true := by
  unfold send
  rw [bind_of_eq_some assertAttention_apply, bind_of_eq_some (access_apply _),
    bind_of_eq_some read_apply, bind_of_eq_some (hold_apply _)]
  refine isSome_bind (h.drained config _) fun _ s₁ => ?_
  refine isSome_bind (h.sendBytes_isSome request s₁) fun _ s₂ => ?_
  rw [releaseAttention_apply]
  rfl

end Bus

/-! ## Over a simulated transceiver -/

namespace Simulator

variable {s : Simulator} {config : Config}

theorem received_writeControl (h : s.received = []) (value : Control) :
    (s.writeControl value).received = [] := by
  rw [writeControl_eq, settled_received]
  by_cases hreset : value.contains Control.reset = true
  · rw [strobed_of_reset hreset]
    rfl
  · rw [strobed_of_not_reset hreset]
    exact (deliverPulse_received s).trans h

theorem received_paced (config : Config) (bytes : List UInt8) : ∀ s : Simulator,
    (paced config bytes s).received = s.received := by
  induction bytes with
  | nil => exact fun s => rfl
  | cons byte bytes ih =>
    intro s
    refine (ih _).trans ?_
    show (s.deliverPulse.carry byte).deliverPulse.received = _
    simp

/-- Whatever a transceiver has received, it is all gone after a blind packet. -/
theorem send_received (config : Config) (address : Address) (request : List UInt8)
    (s : Simulator) :
    ∃ after, (Bus.send address request : Bus Simulator Unit) config s = some ((), after) ∧
      after.received = [] := by
  generalize hraised : Hardware.sleep (clampMicros config.attentionDelay) (Bus.withFreshControl
    (fun control => (control.union Control.attention).union Control.acknowledge) s) = raised
  have hattention : raised.attention = true := by
    rw [← hraised, withFreshControl_apply]
    show ((writeControl _ _).control).contains Control.attention = true
    rw [writeControl_control, Control.contains_attention_stored,
      Flags.contains_union_of_inter (by decide)]
    exact Flags.contains_union_right
  generalize hcalled : ((raised.writeData address.byte).pass
    (clampMicros config.byteDelay * 1000)).drained = called
  have hlistening : called.attention = true := by
    have hwire := (sameWire_pass (raised.writeData address.byte)
      (clampMicros config.byteDelay * 1000)).trans (sameWire_drained _)
    rw [← hcalled, hwire.attention, writeData_eq hattention]
    show (raised.deliverPulse.carry address.byte).control.contains Control.attention = true
    rw [carry_control, deliverPulse_control]
    exact hattention
  have hempty : called.received = [] := by
    rw [← hcalled]
    rfl
  unfold Bus.send
  rw [Bus.bind_of_eq_some Bus.assertAttention_apply, hraised,
    Bus.bind_of_eq_some (writeData_run _), Bus.bind_of_eq_some Bus.read_apply,
    Bus.bind_of_eq_some (Bus.hold_apply _), sleep_eq_pass, Bus.bind_of_eq_some (drain_run _),
    hcalled, Bus.bind_of_eq_some (sendBytes_run request called hlistening hempty),
    Bus.releaseAttention_apply, withControl_apply]
  refine ⟨_, rfl, received_writeControl ?_ _⟩
  rw [deliverPulse_received]
  exact (received_paced config request called).trans hempty

end Simulator

/-! ## The contract -/

namespace Bus

/-- A blind packet comes to its end over prompt hardware. Over hardware whose control register can
be read back it never looks at the interrupt, it takes twice the time in which attention settles and
one byte delay for every byte, attention is asserted by the first write of the control register and
released by the second, which is the last one and changes no other line, and in between the address
and the request go out, byte by byte, with the byte delay once after each of them. A simulated
transceiver is left with nothing received, whatever state it was in. -/
theorem send_contract (config : Config) (address : Address) (request : List UInt8) :
    (∀ (σ : Type) [Hardware σ] (s : σ),
      (Prompt σ →
        ((send address request : Bus (Traced σ) Unit) config ⟨s, #[]⟩).isSome = true) ∧
      ∀ after : Traced σ,
        (send address request : Bus (Traced σ) Unit) config ⟨s, #[]⟩ = some ((), after) →
        ReadsBack none after.trace.toList →
        (∀ seen, .access .readInterrupt seen ∉ after.trace.toList) ∧
        (turns after.trace.toList).map Prod.fst = address.byte :: request ∧
        slept after.trace.toList = 2 * clampMicros config.attentionDelay +
          (1 + request.length) * clampMicros config.byteDelay ∧
        ∃ first asserted last body,
          after.trace.toList = asserting config first ++ (body ++ releasing config last) ∧
          asserted = (first.union Control.attention).union Control.acknowledge ∧
          (last = asserted ∨ last = asserted.diff Control.acknowledge) ∧
          controlsWritten after.trace.toList = [asserted, last.diff Control.attention] ∧
          Paced config (address.byte :: request) body) ∧
    ∀ s : Simulator, ∃ after,
      (send address request : Bus Simulator Unit) config s = some ((), after) ∧
      after.received = [] := by
  refine ⟨fun σ _ s => ⟨fun h => h.traced.send_isSome _ _ _, fun after hrun hback => ?_⟩,
    Simulator.send_received config address request⟩
  obtain ⟨t, ht, first, last, body, hbody, rfl⟩ := leaves_send address request _ _ _ hrun
  rw [Array.toList_empty, List.nil_append] at ht
  rw [ht] at hback ⊢
  have hcarries := hbody.carries
  refine ⟨fun seen hseen => ?_, ?_, ?_, first, _, last, body, rfl, rfl, ?_, ?_, hbody.paced⟩
  · simp only [asserting, releasing, rewriting, List.mem_append, List.mem_cons,
      List.not_mem_nil, or_false] at hseen
    rcases hseen with ((h | h | h) | h) | h | h | h | h
    · cases h
    · cases h
    · cases h
    · cases h
    · cases hcarries _ h
    · cases h
    · cases h
    · cases h
  · have hquiet : Unsent (releasing config last) := by
      intro o ho
      simp only [releasing, rewriting, List.mem_cons, List.not_mem_nil, or_false] at ho
      rcases ho with rfl | rfl | rfl <;> rfl
    rw [turns_append (.asserting first), map_fst_turns_append hquiet, hbody.paced.sent]
  · rw [slept_append, slept_append, slept_asserting, slept_releasing, hbody.slept]
    omega
  · have hheld : ∀ o ∈ .sleep (clampMicros config.attentionDelay) :: body, Carries o := by
      intro o ho
      rcases List.mem_cons.mp ho with rfl | ho
      · exact .pause _
      · exact hcarries o ho
    have hrest := readsBack_of_carries (u := releasing config last) hheld hback.2
    exact hrest.1 _ rfl
  · rw [controlsWritten_append, controlsWritten_append, controlsWritten_of_carries hcarries]
    rfl

/-- Registers with an old byte to read, which have no room to send at first. -/
def sluggish : RegisterFile where
  now := 0
  control := Control.enabled
  statuses := [⟨0x7⟩, ⟨0x5⟩, ⟨0x0⟩, ⟨0x5⟩, ⟨0x5⟩, ⟨0x7⟩]
  receiving := false
  bytes := [0xFF, 0x08]
  interrupts := [true, true]

theorem send_contract_sluggish :
    Prompt RegisterFile ∧ ∃ after,
      (send .memoryCard [0x21, 0x00] : Bus (Traced RegisterFile) Unit) Config.standard
        ⟨sluggish, #[]⟩ = some ((), after) ∧
      ReadsBack none after.trace.toList ∧
      (turns after.trace.toList).map Prod.fst = [0x81, 0x21, 0x00] ∧
      slept after.trace.toList = 2 * 150 + 3 * 30 ∧
      ∃ first asserted last body,
        after.trace.toList =
          asserting Config.standard first ++ (body ++ releasing Config.standard last) ∧
        controlsWritten after.trace.toList = [asserted, last.diff Control.attention] ∧
        Paced Config.standard [0x81, 0x21, 0x00] body := by
  have hcontract := send_contract Config.standard .memoryCard [0x21, 0x00]
  obtain ⟨hends, hexact⟩ := hcontract.1 RegisterFile sluggish
  obtain ⟨⟨⟨⟩, after⟩, hrun⟩ := Option.isSome_iff_exists.mp (hends prompt_registerFile)
  have hback : ∀ p ∈ (send .memoryCard [0x21, 0x00] : Bus (Traced RegisterFile) Unit)
      Config.standard ⟨sluggish, #[]⟩, ReadsBack none p.2.trace.toList := by
    decide +kernel
  have hreads := hback _ hrun
  obtain ⟨-, hsent, hslept, first, asserted, last, body, htrace, -, -, hwritten, hpaced⟩ :=
    hexact after hrun hreads
  exact ⟨prompt_registerFile, after, hrun, hreads, hsent, hslept, first, asserted, last, body,
    htrace, hwritten, hpaced⟩

end Bus

end ConsoleBus

import ConsoleBus.Proofs.Rearming
import ConsoleBus.Proofs.Prompt

/-!
# What an exchange does at the registers

The main statement, `exchange_contract`, holds over any hardware whose control register can be read
back. It says which bytes an exchange sends, where the bytes of its reply come from and how many
there are, that every acknowledge is followed by arming the transceiver again, exactly once, and
that attention frames the packet. What the status, the data and the interrupt registers answer is
left open.
-/

namespace ConsoleBus.Bus

variable {σ : Type} {config : Config}

/-! ## Attention frames the packet -/

/-- The first write of the control register asserts attention, it stays asserted through all other
writes, and the last one releases it. No other line changes, and no byte is sent outside. -/
def Framed (t : List Occurrence) : Prop :=
  ∃ before control middle last after,
    t = before ++ (rewriting (fun control =>
      (control.union Control.attention).union Control.acknowledge) control ++
      (middle ++ .access (.writeControl last) () :: after)) ∧
    Unsent before ∧ controlsWritten before = [] ∧ Unsent after ∧ controlsWritten after = [] ∧
    (∀ value ∈ controlsWritten middle, Attentive (otherLines control) value) ∧
    last.contains Control.attention = false ∧ otherLines last = otherLines control

theorem attentive_union (control : Control) : Attentive (otherLines control)
    ((control.union Control.attention).union Control.acknowledge) := by
  refine Attentive.union_acknowledge ⟨Flags.contains_union_right, ?_⟩
  exact otherLines_union_attention control

/-- What happens while attention is asserted. -/
def attending (config : Config) (byte : UInt8) (t : List Occurrence) : List Occurrence :=
  .sleep (clampMicros config.attentionDelay) :: .access (.writeData byte) () ::
    (t ++ [.sleep (clampMicros config.attentionDelay)])

theorem wholePacket_eq (byte : UInt8) (first last : Control) (t : List Occurrence) :
    wholePacket config byte first last t =
      [.sleep (clampMicros config.preDelay), .access .clearInterrupt ()] ++
        (rewriting (fun control =>
          (control.union Control.attention).union Control.acknowledge) first ++
        (attending config byte t ++
          (rewriting (fun control => control.diff Control.attention) last ++
            [.sleep (clampMicros config.postDelay)]))) := by
  simp only [wholePacket, attending, concluding, asserting, releasing, rewriting, List.cons_append,
    List.nil_append, List.append_assoc]

theorem framed_of_readsBack {t : List Occurrence} {byte : UInt8} {first last : Control}
    (h : Arming t) (hread : ReadsBack none (wholePacket config byte first last t)) :
    Framed (wholePacket config byte first last t) := by
  -- The writes between the first and the last one only arm the transceiver.
  have hmiddle : Arming (attending config byte t) :=
    .sleep _ (.other _ nofun nofun (h.append (.sleep _ .nil)))
  rw [wholePacket_eq] at hread ⊢
  obtain ⟨hall, value, hvalue, hlast⟩ := hmiddle.attentive (attentive_union first) hread.2
  have hlines : Attentive (otherLines first) last := hvalue.of_readsBack hlast
  refine ⟨[.sleep (clampMicros config.preDelay), .access .clearInterrupt ()], first,
    attending config byte t ++ [.access .readControl last], last.diff Control.attention,
    [.sleep (clampMicros config.postDelay)], ?_, ?_, rfl, ?_, rfl, ?_,
    Flags.contains_diff_self (by decide), ?_⟩
  · simp only [rewriting, List.cons_append, List.nil_append, List.append_assoc]
  · intro o ho
    simp only [List.mem_cons, List.not_mem_nil, or_false] at ho
    rcases ho with rfl | rfl <;> rfl
  · intro o ho
    rw [List.mem_singleton.mp ho]
    rfl
  · rw [controlsWritten_append, show controlsWritten [.access .readControl last] = [] from rfl,
      List.append_nil]
    exact hall
  · rw [otherLines_diff_attention]
    exact hlines.2

/-! ## The contract -/

theorem Replying.turned {request buffer : List UInt8} {reply : Reply} {t u : List Occurrence}
    (h : Replying config request buffer reply t) (hsent : Unsent u) (hread : bytesRead u = [])
    (hack : acknowledged u = false) :
    Turned (acknowledged (untilSent (t ++ u))) request buffer reply (turns (t ++ u)) := by
  cases h with
  | unanswered waited =>
    have hall : Unsent (t ++ u) := waited.unsent.append hsent
    rw [untilSent_of_unsent hall, turns_of_unsent hall, acknowledged_append, waited.acknowledged,
      hack]
    exact .unheard request buffer
  | answered waited drained filled =>
    obtain ⟨-, hseen, hturned⟩ := filled.turned hsent hread hack
    rw [List.append_assoc, List.append_assoc, untilSent_append waited.unsent,
      untilSent_append drained.unsent, turns_append waited.unsent, turns_append drained.unsent,
      acknowledged_append, acknowledged_append, waited.acknowledged, drained.acknowledged, hseen]
    exact hturned

/-- An exchange gives a result over prompt hardware. Whenever it gives one over hardware whose
control register can be read back, the bytes sent are the address and the request, the latter cut or
filled up with zeroes to the length of the reply; the reply holds the bytes read after each of
them; it ends with the first byte that is not acknowledged, or with the buffer, and is empty if the
address is not acknowledged; every acknowledge is seen once and followed at once by clearing the
interrupt and arming the transceiver, which otherwise happens only before the packet; and attention
frames the packet. -/
theorem exchange_contract [Hardware σ] (config : Config) (address : Address)
    (request buffer : List UInt8) (s : σ) :
    (Prompt σ → ((exchange address request buffer : Bus (Traced σ) Reply) config
      ⟨s, #[]⟩).isSome = true) ∧
    ∀ (reply : Reply) (after : Traced σ),
      (exchange address request buffer : Bus (Traced σ) Reply) config ⟨s, #[]⟩ =
        some (reply, after) →
      ReadsBack none after.trace.toList →
      reply.count ≤ buffer.length ∧
      (∃ opening data, turns after.trace.toList = (address.byte, opening) :: data ∧
        Turned (acknowledged opening) request buffer reply data) ∧
      Rearms after.trace.toList ∧
      sightings after.trace.toList = acknowledgedTurns after.trace.toList ∧
      clearings after.trace.toList = sightings after.trace.toList + 1 ∧
      (controlsWritten after.trace.toList).length = sightings after.trace.toList + 2 ∧
      Framed after.trace.toList := by
  refine ⟨fun h => h.traced.exchange_isSome _ _ _ _, fun reply after hrun hback => ?_⟩
  obtain ⟨t, ht, first, last, replying, hreplying, rfl⟩ :=
    leaves_exchange address request buffer _ _ _ hrun
  rw [Array.toList_empty, List.nil_append] at ht
  change after.trace.toList = wholePacket config address.byte first last replying at ht
  rw [ht] at hback ⊢
  have hturned : Turned _ request buffer reply _ :=
    hreplying.turned (unsent_concluding config last) rfl rfl
  refine ⟨?_, ⟨_, _, turns_opening first _, hturned⟩, hreplying.rearms_wholePacket,
    hreplying.sightings_wholePacket, ?_, ?_, framed_of_readsBack hreplying.arming hback⟩
  · rw [hturned.count]
    split
    · exact Nat.min_le_left _ _
    · exact Nat.zero_le _
  · rw [clearings_wholePacket, sightings_wholePacket, hreplying.paired.cleared]
  · rw [length_controlsWritten_wholePacket, sightings_wholePacket, hreplying.paired.written]

/-- Registers whose interrupt is seen after the address and after the first data byte, but not after
the second. -/
def twoByteAnswers : RegisterFile where
  now := 0
  control := Control.enabled
  statuses := []
  receiving := true
  bytes := [0x07, 0x08, 0x09]
  interrupts := [false, true, true, false]

theorem exchange_contract_twoByteAnswers :
    Prompt RegisterFile ∧ ∃ reply after,
      (exchange .controller [0x42] [1, 2, 3] : Bus (Traced RegisterFile) Reply) Config.standard
        ⟨twoByteAnswers, #[]⟩ = some (reply, after) ∧
      ReadsBack none after.trace.toList ∧ reply = ⟨2, [0x08, 0x09, 3]⟩ ∧
      reply.count ≤ 3 ∧
      (∃ opening data, turns after.trace.toList = (0x01, opening) :: data ∧
        Turned (acknowledged opening) [0x42] [1, 2, 3] reply data) ∧
      Rearms after.trace.toList ∧ acknowledgedTurns after.trace.toList = 2 ∧
      clearings after.trace.toList = 3 ∧ (controlsWritten after.trace.toList).length = 4 ∧
      Framed after.trace.toList := by
  have hcontract := exchange_contract Config.standard .controller [0x42] [1, 2, 3] twoByteAnswers
  obtain ⟨⟨reply, after⟩, hrun⟩ :=
    Option.isSome_iff_exists.mp (hcontract.1 prompt_registerFile)
  have hback : ∀ p ∈ (exchange .controller [0x42] [1, 2, 3] : Bus (Traced RegisterFile) Reply)
      Config.standard ⟨twoByteAnswers, #[]⟩,
      ReadsBack none p.2.trace.toList ∧ p.1 = ⟨2, [0x08, 0x09, 3]⟩ ∧
        acknowledgedTurns p.2.trace.toList = 2 := by
    decide +kernel
  obtain ⟨hreads, hreply, htwo⟩ := hback _ hrun
  obtain ⟨hcount, hturned, hrearms, hseen, hcleared, hwritten, hframed⟩ :=
    hcontract.2 reply after hrun hreads
  rw [htwo] at hseen
  rw [hseen] at hcleared hwritten
  exact ⟨prompt_registerFile, reply, after, hrun, hreads, hreply, hcount, hturned, hrearms, htwo,
    hcleared, hwritten, hframed⟩

end ConsoleBus.Bus

import ConsoleBus.Proofs.Routine
import ConsoleBus.RegisterFile

/-!
# Hardware that keeps nobody waiting

A routine gives no result only if the hardware keeps it waiting beyond its patience. Three waits can
do so: for room to send, for the byte that comes in for a sent one, and for received bytes to run
out. Hardware on which these waits end is prompt, and over it every exchange gives a result.
-/

namespace ConsoleBus.Bus

variable {σ α β : Type} {config : Config}

/-- The waits for the transceiver end. -/
structure Prompt (σ : Type) [Hardware σ] : Prop where
  /-- There is room to send sooner or later. -/
  ready (config : Config) (s : σ) : (await Status.sendReady config s).isSome = true
  /-- A byte comes in for every byte that is sent. -/
  answered (config : Config) (s : σ) (byte : UInt8) :
    (await Status.received config (Hardware.access (.writeData byte) s).2).isSome = true
  /-- Received bytes run out when they are read. -/
  drained (config : Config) (s : σ) : (drain config s).isSome = true

theorem isSome_bind {r : Bus σ α} {f : α → Bus σ β} {s : σ} (h : (r config s).isSome = true)
    (hf : ∀ a s', (f a config s').isSome = true) : ((r >>= f) config s).isSome = true := by
  obtain ⟨⟨a, s'⟩, hr⟩ := Option.isSome_iff_exists.mp h
  rw [bind_of_eq_some hr]
  exact hf a s'

/-! ## Exchanges over prompt hardware -/

variable [Hardware σ]

/-- Waiting for an acknowledge needs no promptness: it is bounded by time. -/
theorem waitAcknowledge_isSome (timeout : Nat) (s : σ) :
    ((waitAcknowledge timeout : Bus σ Bool) config s).isSome = true := by
  rw [waitAcknowledge_apply]
  induction timeout using Nat.strongRecOn generalizing s with
  | ind timeout ih =>
    rcases Nat.eq_zero_or_pos timeout with rfl | hpos
    · rw [lookForAcknowledge_zero]
      rfl
    · rw [lookForAcknowledge_of_pos hpos]
      split
      · rfl
      · have hstep := config.pollStep_pos
        exact ih _ (by omega) _

theorem Prompt.exchangeByte_isSome (h : Prompt σ) (byte : UInt8) (s : σ) :
    ((exchangeByte byte : Bus σ UInt8) config s).isSome = true := by
  unfold exchangeByte
  refine isSome_bind (h.ready config s) fun _ s₁ => ?_
  rw [bind_of_eq_some (access_apply _)]
  exact isSome_bind (h.answered config s₁ byte) fun _ s₂ => rfl

theorem Prompt.fill_isSome (h : Prompt σ) (request buffer : List UInt8) (s : σ) :
    ((fill request buffer : Bus σ Reply) config s).isSome = true := by
  induction buffer generalizing request s with
  | nil => rfl
  | cons old rest ih =>
    rw [fill]
    refine isSome_bind (h.exchangeByte_isSome _ s) fun byte s₁ => ?_
    rw [bind_of_eq_some read_apply]
    refine isSome_bind (waitAcknowledge_isSome _ s₁) fun seen s₂ => ?_
    cases seen with
    | true => exact isSome_bind (ih request.tail s₂) fun reply s₃ => rfl
    | false => rfl

/-- An exchange over prompt hardware gives a result. -/
theorem Prompt.exchange_isSome (h : Prompt σ) (address : Address) (request buffer : List UInt8)
    (s : σ) : ((exchange address request buffer : Bus σ Reply) config s).isSome = true := by
  rw [exchange_eq, bind_of_eq_some read_apply, bind_of_eq_some (hold_apply _),
    bind_of_eq_some assertAttention_apply, bind_of_eq_some (access_apply _),
    bind_of_eq_some read_apply]
  refine isSome_bind (waitAcknowledge_isSome _ _) fun seen s₁ => ?_
  refine isSome_bind ?_ fun reply s₂ => rfl
  cases seen with
  | true => exact isSome_bind (h.drained config s₁) fun _ s₂ => h.fill_isSome _ _ s₂
  | false => rfl

/-! ## Tracing does not slow anything down -/

theorem awaitStatus_isSome_traced (flag : Status) (looks : Nat) (s : Traced σ) :
    ((awaitStatus flag looks : Bus (Traced σ) Unit) config s).isSome =
      ((awaitStatus flag looks : Bus σ Unit) config s.hardware).isSome := by
  induction looks generalizing s with
  | zero => rfl
  | succ looks ih =>
    rw [awaitStatus_succ, awaitStatus_succ]
    show Option.isSome (if (Hardware.access Access.readStatus s.hardware).1.contains flag then _
      else _) = _
    split
    · rfl
    · exact ih _

theorem drainStatus_isSome_traced (looks : Nat) (s : Traced σ) :
    ((drainStatus looks : Bus (Traced σ) Unit) config s).isSome =
      ((drainStatus looks : Bus σ Unit) config s.hardware).isSome := by
  induction looks generalizing s with
  | zero => rfl
  | succ looks ih =>
    rw [drainStatus_succ, drainStatus_succ]
    show Option.isSome (if (Hardware.access Access.readStatus s.hardware).1.contains
      Status.received then _ else _) = _
    split
    · exact ih _
    · rfl

theorem Prompt.traced (h : Prompt σ) : Prompt (Traced σ) where
  ready config s := (awaitStatus_isSome_traced _ _ s).trans (h.ready config s.hardware)
  answered config s byte :=
    (awaitStatus_isSome_traced _ _ _).trans (h.answered config s.hardware byte)
  drained config s := (drainStatus_isSome_traced _ s).trans (h.drained config s.hardware)

/-! ## A register file with fixed answers is prompt -/

/-- The flag shows at the latest two looks after the prepared answers have run out. -/
theorem awaitStatus_isSome_registerFile {flag : Status}
    (hidle : (RegisterFile.idleStatus true).contains flag = true) (s : RegisterFile) :
    ((awaitStatus flag (s.statuses.length + 2) : Bus RegisterFile Unit) config s).isSome =
      true := by
  obtain ⟨now, control, statuses, receiving, bytes, interrupts⟩ := s
  induction statuses with
  | nil =>
    rw [awaitStatus_succ]
    split
    · rfl
    · next hmissing =>
      cases receiving with
      | true => exact absurd hidle hmissing
      | false =>
        rw [awaitStatus_succ]
        exact congrArg Option.isSome (if_pos hidle)
  | cons status statuses ih =>
    rw [awaitStatus_succ]
    split
    · rfl
    · exact ih

theorem drainStatus_idle {s : RegisterFile} (hnone : s.statuses = []) (hidle : s.receiving = false)
    (looks : Nat) :
    ((drainStatus (looks + 1) : Bus RegisterFile Unit) config s).isSome = true := by
  obtain ⟨now, control, statuses, receiving, bytes, interrupts⟩ := s
  subst hnone hidle
  rw [drainStatus_succ]
  have hmissing : ¬ (RegisterFile.idleStatus false).contains Status.received = true := by decide
  exact congrArg Option.isSome (if_neg hmissing)

theorem drainStatus_isSome_registerFile (s : RegisterFile) :
    ((drainStatus (s.statuses.length + 2) : Bus RegisterFile Unit) config s).isSome = true := by
  obtain ⟨now, control, statuses, receiving, bytes, interrupts⟩ := s
  induction statuses generalizing bytes with
  | nil =>
    cases receiving with
    | true =>
      rw [drainStatus_succ]
      split
      · exact drainStatus_idle rfl rfl _
      · rfl
    | false => exact drainStatus_idle rfl rfl 1
  | cons status statuses ih =>
    rw [drainStatus_succ]
    split
    · exact ih _
    · rfl

theorem prompt_registerFile : Prompt RegisterFile where
  ready _ s := awaitStatus_isSome_registerFile (by decide) s
  answered _ s byte := awaitStatus_isSome_registerFile (by decide) s
  drained _ s := drainStatus_isSome_registerFile s

end ConsoleBus.Bus

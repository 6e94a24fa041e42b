import ConsoleBus.Bus.Exchange

/-!
# Running routines of the bus

A routine is a function of the configuration and the state of the hardware. The lemmas here say
what its building blocks do to a state, so that a longer routine is followed from state to state,
forwards by `bind_of_eq_some` and backwards by `bind_eq_some_iff`.
-/

namespace ConsoleBus.Bus

variable {σ α β : Type} {config : Config} {s s' : σ}

/-! ## Sequences -/

theorem pure_apply (a : α) : (pure a : Bus σ α) config s = some (a, s) := rfl

theorem bind_apply (r : Bus σ α) (f : α → Bus σ β) :
    (r >>= f) config s = (r config s).bind fun p => f p.1 config p.2 := rfl

theorem read_apply : (read : Bus σ Config) config s = some (config, s) := rfl

/-- Once its first part has given a result, a routine goes on from the state it left. -/
theorem bind_of_eq_some {r : Bus σ α} {a : α} (h : r config s = some (a, s')) (f : α → Bus σ β) :
    (r >>= f) config s = f a config s' := by
  rw [bind_apply, h]; rfl

/-- A routine that was followed in two ways came to the same end. -/
theorem run_unique {r : Bus σ α} {a b : α} {t u : σ} (h : r config s = some (a, t))
    (h' : r config s = some (b, u)) : a = b ∧ t = u :=
  Prod.mk.inj (Option.some.inj (h.symm.trans h'))

/-- A routine in two parts gives a result by way of a state between them. -/
theorem bind_eq_some_iff {r : Bus σ α} {f : α → Bus σ β} {b : β} :
    (r >>= f) config s = some (b, s') ↔
      ∃ a s₁, r config s = some (a, s₁) ∧ f a config s₁ = some (b, s') := by
  rw [bind_apply, Option.bind_eq_some_iff]
  constructor
  · rintro ⟨⟨a, s₁⟩, h, hf⟩
    exact ⟨a, s₁, h, hf⟩
  · rintro ⟨a, s₁, h, hf⟩
    exact ⟨(a, s₁), h, hf⟩

/-! ## Building blocks -/

variable [Hardware σ]

/-- The state after the control register was read and written back changed. -/
def withControl (change : Control → Control) (s : σ) : σ :=
  let (control, s) := Hardware.access .readControl s
  (Hardware.access (.writeControl (change control)) s).2

/-- The state after an old interrupt was cleared and the control register rewritten. -/
def withFreshControl (change : Control → Control) (s : σ) : σ :=
  withControl change (Hardware.access .clearInterrupt s).2

theorem access_apply (a : Access) :
    (access a : Bus σ a.Answer) config s = some (Hardware.access a s) := rfl

theorem hold_apply (micros : Nat) :
    (hold micros : Bus σ Unit) config s = some ((), Hardware.sleep (clampMicros micros) s) := rfl

theorem modifyControl_apply (change : Control → Control) :
    (modifyControl change : Bus σ Unit) config s = some ((), withControl change s) := rfl

theorem assertAttention_apply :
    (assertAttention : Bus σ Unit) config s =
      some ((), Hardware.sleep (clampMicros config.attentionDelay) (withFreshControl
        (fun control => (control.union Control.attention).union Control.acknowledge) s)) := rfl

theorem releaseAttention_apply :
    (releaseAttention : Bus σ Unit) config s =
      some ((), withControl (fun control => control.diff Control.attention)
        (Hardware.sleep (clampMicros config.attentionDelay) s)) := rfl

/-! ## Exchanges in parts -/

/-- The end of every exchange, whatever came of it. -/
def conclude (reply : Reply) : Bus σ Reply := do
  releaseAttention
  hold (← read).postDelay
  return reply

/-- What follows in an exchange once it is known whether the address was acknowledged. -/
def answerAddress (request buffer : List UInt8) : Bool → Bus σ Reply
  | true => do
    drain
    fill request buffer
  | false => pure ⟨0, buffer⟩

theorem exchange_eq (address : Address) (request buffer : List UInt8) :
    (exchange address request buffer : Bus σ Reply) = (do
      hold (← read).preDelay
      assertAttention
      access (.writeData address.byte)
      let seen ← waitAcknowledge (← read).timeout
      let reply ← answerAddress request buffer seen
      conclude reply) := by
  funext config s
  unfold exchange
  simp only [bind_apply, read_apply, hold_apply, assertAttention_apply, access_apply,
    Option.bind_some]
  refine congrArg (Option.bind _) (funext fun ⟨seen, s'⟩ => ?_)
  cases seen with
  | true =>
    simp only [if_true, answerAddress, bind_apply, Option.bind_assoc]
    rfl
  | false => rfl

/-! ## Waiting -/

theorem waitAcknowledge_apply (timeout : Nat) :
    (waitAcknowledge timeout : Bus σ Bool) config s = lookForAcknowledge config timeout config s :=
  rfl

/-- Without any time left, waiting ends at once. -/
theorem lookForAcknowledge_zero :
    (lookForAcknowledge config 0 : Bus σ Bool) config s = some (false, s) := by
  rw [lookForAcknowledge]; rfl

/-- One look at the interrupt, and what follows from its answer. -/
theorem lookForAcknowledge_of_pos {remaining : Nat} (h : 0 < remaining) :
    (lookForAcknowledge config remaining : Bus σ Bool) config s =
      if (Hardware.access .readInterrupt s).1 then
        some (true, withFreshControl (fun control => control.union Control.acknowledge)
          (Hardware.access .readInterrupt s).2)
      else
        lookForAcknowledge config (remaining - config.pollStep) config
          (Hardware.sleep config.pollStep (Hardware.access .readInterrupt s).2) := by
  rw [lookForAcknowledge, if_neg (Nat.ne_of_gt h)]
  show (access .readInterrupt >>= _) config s = _
  rw [bind_of_eq_some (access_apply _)]
  split
  case isTrue h => exact (if_pos h).symm
  case isFalse h => exact (if_neg h).symm

theorem await_apply (flag : Status) :
    (await flag : Bus σ Unit) config s = awaitStatus flag (Hardware.patience s) config s := rfl

theorem awaitStatus_succ (flag : Status) (looks : Nat) :
    (awaitStatus flag (looks + 1) : Bus σ Unit) config s =
      if (Hardware.access .readStatus s).1.contains flag then
        some ((), (Hardware.access .readStatus s).2)
      else
        awaitStatus flag looks config (Hardware.access .readStatus s).2 := by
  rw [awaitStatus, bind_of_eq_some (access_apply _)]
  split
  case isTrue h => exact (if_pos h).symm
  case isFalse h => exact (if_neg h).symm

theorem drain_apply :
    (drain : Bus σ Unit) config s = drainStatus (Hardware.patience s) config s := rfl

theorem drainStatus_succ (looks : Nat) :
    (drainStatus (looks + 1) : Bus σ Unit) config s =
      if (Hardware.access .readStatus s).1.contains Status.received then
        drainStatus looks config
          (Hardware.access .readData (Hardware.access .readStatus s).2).2
      else
        some ((), (Hardware.access .readStatus s).2) := by
  rw [drainStatus, bind_of_eq_some (access_apply _)]
  split
  case isTrue h => exact (if_pos h).symm
  case isFalse h => exact (if_neg h).symm

end ConsoleBus.Bus

import ConsoleBus.Proofs.Prompt
import ConsoleBus.Proofs.Turns

/-!
# How long an exchange takes

Time passes in an exchange only while attention settles and while an acknowledge is looked for. A
wait takes as many whole poll steps as cover the timeout, or fewer if it sees an acknowledge, and
there is one wait for the address and one for every byte of the reply. What the registers answer
decides how many waits there are and how many of them end early, but nothing else.
-/

namespace ConsoleBus

namespace Config

/-- The length of the whole poll steps that it takes to cover a length of time. -/
def wholeSteps (config : Config) (micros : Nat) : Nat :=
  (micros + config.pollStep - 1) / config.pollStep * config.pollStep

/-- What an exchange takes besides waiting for acknowledges. -/
def framing (config : Config) : Nat :=
  clampMicros config.preDelay + 2 * clampMicros config.attentionDelay + clampMicros config.postDelay

variable {config : Config} {micros : Nat}

theorem wholeSteps_zero : config.wholeSteps 0 = 0 := by
  have hstep := config.pollStep_pos
  have hnone : (0 + config.pollStep - 1) / config.pollStep = 0 := Nat.div_eq_of_lt (by omega)
  unfold wholeSteps
  rw [hnone, Nat.zero_mul]

theorem wholeSteps_of_pos (h : 0 < micros) :
    config.wholeSteps micros = config.pollStep + config.wholeSteps (micros - config.pollStep) := by
  by_cases hshort : micros ≤ config.pollStep
  · have hone : (micros + config.pollStep - 1) / config.pollStep = 1 :=
      Nat.div_eq_of_lt_le (by omega) (by omega)
    rw [Nat.sub_eq_zero_of_le hshort, wholeSteps_zero]
    unfold wholeSteps
    rw [hone, Nat.one_mul, Nat.add_zero]
  · have hsplit : micros + config.pollStep - 1 =
        micros - config.pollStep + config.pollStep - 1 + config.pollStep := by omega
    unfold wholeSteps
    rw [hsplit, Nat.add_div_right _ config.pollStep_pos, Nat.succ_mul, Nat.add_comm]

end Config

/-- How many microseconds it takes. -/
def Occurrence.lasting : Occurrence → Nat
  | .access _ _ => 0
  | .sleep micros => micros

namespace Bus

/-- How many microseconds were let pass. -/
def slept : List Occurrence → Nat
  | [] => 0
  | o :: t => o.lasting + slept t

@[simp] theorem slept_nil : slept [] = 0 := rfl

@[simp] theorem slept_cons (o : Occurrence) (t : List Occurrence) :
    slept (o :: t) = o.lasting + slept t := rfl

@[simp] theorem slept_append (t u : List Occurrence) : slept (t ++ u) = slept t + slept u := by
  induction t with
  | nil => simp
  | cons o t ih => simp [ih, Nat.add_assoc]

variable {config : Config} {request buffer : List UInt8} {reply : Reply} {t u : List Occurrence}

theorem slept_rewriting (change : Control → Control) (control : Control) :
    slept (rewriting change control) = 0 := rfl

theorem slept_asserting (control : Control) :
    slept (asserting config control) = clampMicros config.attentionDelay := by
  simp [asserting, slept_rewriting, Occurrence.lasting]

theorem slept_releasing (control : Control) :
    slept (releasing config control) = clampMicros config.attentionDelay := by
  simp [releasing, slept_rewriting, Occurrence.lasting]

/-! ## Waiting -/

theorem Waiting.slept_of_unseen {remaining : Nat} (h : Waiting config remaining false t) :
    slept t = config.wholeSteps remaining := by
  generalize hseen : false = seen at h
  induction h with
  | expired => exact Config.wholeSteps_zero.symm
  | unseen pos rest ih =>
    rw [slept_cons, slept_cons, ih hseen, Config.wholeSteps_of_pos pos]
    exact Nat.zero_add _
  | seen pos control => cases hseen

theorem Waiting.slept_le {remaining : Nat} {seen : Bool} (h : Waiting config remaining seen t) :
    slept t ≤ config.wholeSteps remaining := by
  induction h with
  | expired => exact Nat.zero_le _
  | unseen pos rest ih =>
    rw [slept_cons, slept_cons, Config.wholeSteps_of_pos pos]
    simp only [Occurrence.lasting]
    omega
  | seen pos control =>
    simp [slept_rewriting, Occurrence.lasting]

theorem Draining.slept (h : Draining t) : slept t = 0 := by
  induction t with
  | nil => rfl
  | cons o t ih =>
    have hrest := ih fun o' ho' => h o' (List.mem_cons_of_mem o ho')
    obtain ⟨status, rfl⟩ | ⟨byte, rfl⟩ := h o List.mem_cons_self
    · rw [slept_cons, hrest]
      rfl
    · rw [slept_cons, hrest]
      rfl

theorem Exchanging.slept {sent received : UInt8} (h : Exchanging sent received t) :
    slept t = 0 := by
  obtain ⟨before, between, hbefore, hbetween, rfl⟩ := h
  rw [slept_append, slept_cons, slept_append, hbefore.draining.slept, hbetween.draining.slept]
  rfl

/-! ## The reply -/

theorem Filling.count_le (h : Filling config request buffer reply t) :
    reply.count ≤ buffer.length := by
  induction h with
  | full => exact Nat.zero_le _
  | last exchanged waited => exact Nat.le_add_left 1 _
  | more exchanged waited filled ih => exact Nat.succ_le_succ ih

/-- Every byte of the reply is followed by one wait. -/
theorem Filling.slept_le (h : Filling config request buffer reply t) :
    slept t ≤ reply.count * config.wholeSteps config.timeout := by
  induction h with
  | full => exact Nat.zero_le _
  | last exchanged waited =>
    have hwait := waited.slept_le
    rw [slept_append, exchanged.slept, Nat.zero_add, Nat.one_mul]
    exact hwait
  | more exchanged waited filled ih =>
    have hwait := waited.slept_le
    rw [slept_append, slept_append, exchanged.slept, Nat.succ_mul]
    omega

theorem Replying.count_le (h : Replying config request buffer reply t) :
    reply.count ≤ buffer.length := by
  cases h with
  | unanswered waited => exact Nat.zero_le _
  | answered waited drained filled => exact filled.count_le

theorem Replying.slept_le (h : Replying config request buffer reply t) :
    slept t ≤ (reply.count + 1) * config.wholeSteps config.timeout := by
  cases h with
  | unanswered waited =>
    have hwait := waited.slept_le
    rw [Nat.zero_add, Nat.one_mul]
    exact hwait
  | answered waited drained filled =>
    have hwait := waited.slept_le
    have hfill := filled.slept_le
    rw [slept_append, slept_append, drained.slept, Nat.succ_mul]
    omega

/-- If no look before the next byte saw an acknowledge, there was no next byte. -/
theorem Replying.waiting_of_unheard (h : Replying config request buffer reply t)
    (hunheard : acknowledged (untilSent (t ++ u)) = false) :
    Waiting config config.timeout false t := by
  cases h with
  | unanswered waited => exact waited
  | answered waited drained filled =>
    rw [List.append_assoc, untilSent_append waited.unsent, acknowledged_append,
      waited.acknowledged] at hunheard
    cases hunheard

/-! ## The whole exchange -/

/-- Over any hardware whatever, an exchange takes the time in which attention settles, and at most
one full wait for the address and one for every byte of its reply. If the address is not
acknowledged, it takes exactly one wait. -/
theorem exchange_duration {σ : Type} [Hardware σ] (config : Config) (address : Address)
    (request buffer : List UInt8) (s : σ) :
    (Prompt σ → ((exchange address request buffer : Bus (Traced σ) Reply) config
      ⟨s, #[]⟩).isSome = true) ∧
    ∀ (reply : Reply) (after : Traced σ),
      (exchange address request buffer : Bus (Traced σ) Reply) config ⟨s, #[]⟩ =
        some (reply, after) →
      reply.count ≤ buffer.length ∧
      config.framing ≤ slept after.trace.toList ∧
      slept after.trace.toList ≤
        config.framing + (reply.count + 1) * config.wholeSteps config.timeout ∧
      ∃ opening data, turns after.trace.toList = (address.byte, opening) :: data ∧
        (acknowledged opening = false →
          slept after.trace.toList = config.framing + config.wholeSteps config.timeout) := by
  refine ⟨fun h => h.traced.exchange_isSome _ _ _ _, fun reply after hrun => ?_⟩
  obtain ⟨t, ht, first, last, replying, hreplying, rfl⟩ :=
    leaves_exchange address request buffer _ _ _ hrun
  rw [Array.toList_empty, List.nil_append] at ht
  rw [ht]
  have htotal : slept (.sleep (clampMicros config.preDelay) :: (asserting config first ++
      .access (.writeData address.byte) () :: (replying ++ (releasing config last ++
        [.sleep (clampMicros config.postDelay)])))) = config.framing + slept replying := by
    simp only [slept_cons, slept_append, slept_nil, slept_asserting, slept_releasing,
      Occurrence.lasting, Config.framing]
    omega
  rw [htotal]
  have hwaits := hreplying.slept_le
  refine ⟨hreplying.count_le, Nat.le_add_right _ _, by omega, _, _, turns_opening first _, ?_⟩
  intro hunheard
  rw [(hreplying.waiting_of_unheard hunheard).slept_of_unseen]

/-- A timeout of two and a half poll steps, and a pause that is longer than a delay can be. -/
def patient : Config := { preDelay := 5000000000, acknowledgeTimeout := 25, pollInterval := 10 }

/-- Registers at which no interrupt is ever seen. -/
def silent : RegisterFile where
  now := 0
  control := Control.enabled
  statuses := []
  receiving := false
  bytes := []
  interrupts := []

theorem exchange_duration_silent :
    Prompt RegisterFile ∧ ∃ reply after,
      (exchange .controller [0x42] [1, 2, 3] : Bus (Traced RegisterFile) Reply) patient
        ⟨silent, #[]⟩ = some (reply, after) ∧
      reply.count ≤ 3 ∧ slept after.trace.toList = 4294967295 + 2 * 150 + 10 + 30 := by
  have hduration := exchange_duration patient .controller [0x42] [1, 2, 3] silent
  obtain ⟨⟨reply, after⟩, hrun⟩ :=
    Option.isSome_iff_exists.mp (hduration.1 prompt_registerFile)
  have hunheard : ∀ p ∈ (exchange .controller [0x42] [1, 2, 3] : Bus (Traced RegisterFile) Reply)
      patient ⟨silent, #[]⟩,
      ∀ turn ∈ (turns p.2.trace.toList).head?, acknowledged turn.2 = false := by
    decide +kernel
  obtain ⟨hcount, -, -, opening, data, hturns, hexact⟩ := hduration.2 reply after hrun
  have hopening : acknowledged opening = false :=
    hunheard _ hrun (Address.controller.byte, opening) (by rw [hturns]; rfl)
  exact ⟨prompt_registerFile, reply, after, hrun, hcount, (hexact hopening).trans (by decide)⟩

end Bus

end ConsoleBus

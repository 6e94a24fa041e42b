import ConsoleBus.Proofs.Routine

/-!
# What the routines of the bus leave in a trace

Over traced hardware a routine leaves behind everything it asked and every answer it got. For each
routine there is a form of trace, given as a predicate on the routine's result and the occurrences
it adds, and `leaves_exchange` says that an exchange over any hardware whatever leaves a trace of
its form. What the answers are is left open throughout.
-/

namespace ConsoleBus.Bus

variable {σ α β : Type} {config : Config}

/-! ## Adding to a trace -/

/-- Whenever the routine gives a result, what it has added to the trace is as `post` says. -/
def Leaves (config : Config) (r : Bus (Traced σ) α) (post : α → List Occurrence → Prop) : Prop :=
  ∀ s a s', r config s = some (a, s') →
    ∃ t, s'.trace.toList = s.trace.toList ++ t ∧ post a t

namespace Leaves

variable {r : Bus (Traced σ) α} {post post' : α → List Occurrence → Prop}

theorem mono (h : Leaves config r post) (hpost : ∀ a t, post a t → post' a t) :
    Leaves config r post' := by
  intro s a s' hr
  obtain ⟨t, ht, hp⟩ := h s a s' hr
  exact ⟨t, ht, hpost a t hp⟩

theorem pure {a : α} (h : post a []) : Leaves config (Pure.pure a : Bus (Traced σ) α) post := by
  intro s b s' hr
  cases hr
  exact ⟨[], (List.append_nil _).symm, h⟩

theorem bind {f : α → Bus (Traced σ) β} {post : β → List Occurrence → Prop}
    (h : Leaves config r fun a t₁ => Leaves config (f a) fun b t₂ => post b (t₁ ++ t₂)) :
    Leaves config (r >>= f) post := by
  intro s b s' hr
  obtain ⟨a, s₁, h₁, h₂⟩ := bind_eq_some_iff.mp hr
  obtain ⟨t₁, ht₁, hf⟩ := h s a s₁ h₁
  obtain ⟨t₂, ht₂, hp⟩ := hf s₁ b s' h₂
  exact ⟨t₁ ++ t₂, by rw [ht₂, ht₁, List.append_assoc], hp⟩

theorem read {f : Config → Bus (Traced σ) α} (h : Leaves config (f config) post) :
    Leaves config (MonadReader.read >>= f : Bus (Traced σ) α) post :=
  fun s a s' hr => h s a s' hr

variable [Hardware σ]

theorem access {a : Access} {post : a.Answer → List Occurrence → Prop}
    (h : ∀ answer, post answer [.access a answer]) :
    Leaves config (Bus.access a : Bus (Traced σ) a.Answer) post := by
  intro s b s' hr
  cases hr
  exact ⟨[.access a (Hardware.access a s.hardware).1], Array.toList_push, h _⟩

theorem sleep {micros : Nat} {post : Unit → List Occurrence → Prop}
    (h : post () [.sleep micros]) :
    Leaves config (Bus.sleep micros : Bus (Traced σ) Unit) post := by
  intro s b s' hr
  cases hr
  exact ⟨[.sleep micros], Array.toList_push, h⟩

end Leaves

/-! ## The forms of traces -/

/-- The control register is read and written back changed. -/
def rewriting (change : Control → Control) (control : Control) : List Occurrence :=
  [.access .readControl control, .access (.writeControl (change control)) ()]

/-- Waiting for an acknowledge: looks that see nothing, each with a pause after it, until the time
is used up or a look sees the interrupt. Then it is cleared and the transceiver armed again. -/
inductive Waiting (config : Config) : (remaining : Nat) → Bool → List Occurrence → Prop where
  | expired : Waiting config 0 false []
  | unseen {remaining : Nat} {seen : Bool} {t : List Occurrence} (pos : 0 < remaining)
      (rest : Waiting config (remaining - config.pollStep) seen t) :
      Waiting config remaining seen
        (.access .readInterrupt false :: .sleep config.pollStep :: t)
  | seen {remaining : Nat} (pos : 0 < remaining) (control : Control) :
      Waiting config remaining true
        (.access .readInterrupt true :: .access .clearInterrupt () ::
          rewriting (fun control => control.union Control.acknowledge) control)

/-- Nothing but reads of the status. -/
def Looking (t : List Occurrence) : Prop := ∀ o ∈ t, ∃ status, o = .access .readStatus status

/-- Nothing but reads of the status and of received bytes. -/
def Draining (t : List Occurrence) : Prop :=
  ∀ o ∈ t, (∃ status, o = .access .readStatus status) ∨ ∃ byte, o = .access .readData byte

/-- One byte goes out and one byte is read for it, with looks at the status before and between. -/
def Exchanging (sent received : UInt8) (t : List Occurrence) : Prop :=
  ∃ before between, Looking before ∧ Looking between ∧
    t = before ++ .access (.writeData sent) () :: (between ++ [.access .readData received])

/-- Bytes are exchanged and acknowledged until one is not or the buffer is full. -/
inductive Filling (config : Config) :
    (request buffer : List UInt8) → Reply → List Occurrence → Prop where
  | full {request : List UInt8} : Filling config request [] ⟨0, []⟩ []
  | last {request rest : List UInt8} {old byte : UInt8} {t₁ t₂ : List Occurrence}
      (exchanged : Exchanging (request.headD 0) byte t₁)
      (waited : Waiting config config.timeout false t₂) :
      Filling config request (old :: rest) ⟨1, byte :: rest⟩ (t₁ ++ t₂)
  | more {request rest : List UInt8} {old byte : UInt8} {reply : Reply}
      {t₁ t₂ t₃ : List Occurrence}
      (exchanged : Exchanging (request.headD 0) byte t₁)
      (waited : Waiting config config.timeout true t₂)
      (filled : Filling config request.tail rest reply t₃) :
      Filling config request (old :: rest) ⟨reply.count + 1, byte :: reply.buffer⟩
        (t₁ ++ (t₂ ++ t₃))

/-- What comes between the address byte and the release of attention. -/
inductive Replying (config : Config) (request buffer : List UInt8) :
    Reply → List Occurrence → Prop where
  | unanswered {t : List Occurrence} (waited : Waiting config config.timeout false t) :
      Replying config request buffer ⟨0, buffer⟩ t
  | answered {reply : Reply} {t₁ t₂ t₃ : List Occurrence}
      (waited : Waiting config config.timeout true t₁) (drained : Draining t₂)
      (filled : Filling config request buffer reply t₃) :
      Replying config request buffer reply (t₁ ++ (t₂ ++ t₃))

/-- Attention is asserted, after an old interrupt was cleared. -/
def asserting (config : Config) (control : Control) : List Occurrence :=
  .access .clearInterrupt () :: rewriting
    (fun control => (control.union Control.attention).union Control.acknowledge) control ++
    [.sleep (clampMicros config.attentionDelay)]

/-- Attention is released. -/
def releasing (config : Config) (control : Control) : List Occurrence :=
  .sleep (clampMicros config.attentionDelay) ::
    rewriting (fun control => control.diff Control.attention) control

/-! ## The routines -/

variable [Hardware σ]

theorem leaves_hold (micros : Nat) :
    Leaves config (hold micros : Bus (Traced σ) Unit) fun _ t => t = [.sleep (clampMicros micros)] :=
  .sleep rfl

theorem leaves_modifyControl (change : Control → Control) :
    Leaves config (modifyControl change : Bus (Traced σ) Unit) fun _ t =>
      ∃ control, t = rewriting change control := by
  unfold modifyControl
  refine .bind (.access fun control => ?_)
  exact .access fun _ => ⟨control, rfl⟩

theorem leaves_lookForAcknowledge (remaining : Nat) :
    Leaves config (lookForAcknowledge config remaining : Bus (Traced σ) Bool)
      (Waiting config remaining) := by
  induction remaining using Nat.strongRecOn with
  | ind remaining ih =>
    rw [lookForAcknowledge]
    by_cases hzero : remaining = 0
    · rw [if_pos hzero, hzero]
      exact .pure .expired
    · have hpos : 0 < remaining := Nat.pos_of_ne_zero hzero
      have hless : remaining - config.pollStep < remaining := by
        have := config.pollStep_pos
        omega
      rw [if_neg hzero]
      refine .bind (.access fun seen => ?_)
      cases seen with
      | true =>
        refine .bind (.access fun _ => .bind ((leaves_modifyControl _).mono ?_))
        rintro _ _ ⟨control, rfl⟩
        exact .pure (.seen hpos control)
      | false =>
        refine .bind (.sleep ?_)
        exact (ih _ hless).mono fun _ _ h => .unseen hpos h

theorem leaves_waitAcknowledge (timeout : Nat) :
    Leaves config (waitAcknowledge timeout : Bus (Traced σ) Bool) (Waiting config timeout) :=
  .read (leaves_lookForAcknowledge timeout)

theorem leaves_awaitStatus (flag : Status) (looks : Nat) :
    Leaves config (awaitStatus flag looks : Bus (Traced σ) Unit) fun _ t => Looking t := by
  induction looks with
  | zero =>
    intro s a s' hr
    cases hr
  | succ looks ih =>
    rw [awaitStatus]
    refine .bind (.access fun status => ?_)
    have hlook : Looking [.access .readStatus status] := by
      intro o ho
      exact ⟨status, List.mem_singleton.mp ho⟩
    split
    · exact .pure hlook
    · refine ih.mono fun _ t ht => ?_
      intro o ho
      rcases List.mem_append.mp ho with h | h
      · exact hlook o h
      · exact ht o h

theorem leaves_await (flag : Status) :
    Leaves config (await flag : Bus (Traced σ) Unit) fun _ t => Looking t :=
  fun s a s' hr => leaves_awaitStatus flag (Hardware.patience s) s a s' hr

theorem leaves_exchangeByte (sent : UInt8) :
    Leaves config (exchangeByte sent : Bus (Traced σ) UInt8) (Exchanging sent) := by
  unfold exchangeByte
  refine .bind ((leaves_await _).mono fun _ before hbefore => ?_)
  refine .bind (.access fun _ => ?_)
  refine .bind ((leaves_await _).mono fun _ between hbetween => ?_)
  refine .access fun received => ?_
  exact ⟨before, between, hbefore, hbetween, rfl⟩

theorem leaves_drainStatus (looks : Nat) :
    Leaves config (drainStatus looks : Bus (Traced σ) Unit) fun _ t => Draining t := by
  induction looks with
  | zero =>
    intro s a s' hr
    cases hr
  | succ looks ih =>
    rw [drainStatus]
    refine .bind (.access fun status => ?_)
    split
    · refine .bind (.access fun byte => ih.mono fun _ t ht => ?_)
      intro o ho
      rcases List.mem_append.mp ho with h | h
      · exact .inl ⟨status, List.mem_singleton.mp h⟩
      · rcases List.mem_append.mp h with h | h
        · exact .inr ⟨byte, List.mem_singleton.mp h⟩
        · exact ht o h
    · refine .pure fun o ho => .inl ⟨status, ?_⟩
      simpa using ho

theorem leaves_drain :
    Leaves config (drain : Bus (Traced σ) Unit) fun _ t => Draining t :=
  fun s a s' hr => leaves_drainStatus (Hardware.patience s) s a s' hr

theorem leaves_fill (request buffer : List UInt8) :
    Leaves config (fill request buffer : Bus (Traced σ) Reply)
      (Filling config request buffer) := by
  induction buffer generalizing request with
  | nil => exact .pure .full
  | cons old rest ih =>
    rw [fill]
    refine .bind ((leaves_exchangeByte _).mono fun byte t₁ exchanged => .read ?_)
    refine .bind ((leaves_waitAcknowledge _).mono fun seen t₂ waited => ?_)
    cases seen with
    | true =>
      refine .bind ((ih request.tail).mono fun reply t₃ filled => .pure ?_)
      rw [List.append_nil]
      exact .more exchanged waited filled
    | false =>
      refine .pure ?_
      rw [List.append_nil]
      exact .last exchanged waited

theorem leaves_assertAttention :
    Leaves config (assertAttention : Bus (Traced σ) Unit) fun _ t =>
      ∃ control, t = asserting config control := by
  unfold assertAttention
  refine .bind (.access fun _ => .bind ((leaves_modifyControl _).mono ?_))
  rintro _ _ ⟨control, rfl⟩
  exact .read ((leaves_hold _).mono fun _ t ht => ⟨control, by rw [ht]; rfl⟩)

theorem leaves_releaseAttention :
    Leaves config (releaseAttention : Bus (Traced σ) Unit) fun _ t =>
      ∃ control, t = releasing config control := by
  unfold releaseAttention
  refine .read (.bind ((leaves_hold _).mono ?_))
  rintro _ _ rfl
  refine (leaves_modifyControl _).mono ?_
  rintro _ _ ⟨control, rfl⟩
  exact ⟨control, rfl⟩

theorem leaves_answerAddress (request buffer : List UInt8) {seen : Bool} {t₁ : List Occurrence}
    (waited : Waiting config config.timeout seen t₁) :
    Leaves config (answerAddress request buffer seen : Bus (Traced σ) Reply) fun reply t₂ =>
      Replying config request buffer reply (t₁ ++ t₂) := by
  cases seen with
  | true =>
    refine .bind (leaves_drain.mono fun _ t₂ drained => ?_)
    exact (leaves_fill _ _).mono fun reply t₃ filled => .answered waited drained filled
  | false =>
    refine .pure ?_
    rw [List.append_nil]
    exact .unanswered waited

theorem leaves_conclude (reply : Reply) :
    Leaves config (conclude reply : Bus (Traced σ) Reply) fun result t => result = reply ∧
      ∃ control, t = releasing config control ++ [.sleep (clampMicros config.postDelay)] := by
  unfold conclude
  refine .bind (leaves_releaseAttention.mono ?_)
  rintro _ _ ⟨control, rfl⟩
  refine .read (.bind ((leaves_hold _).mono ?_))
  rintro _ _ rfl
  exact .pure ⟨rfl, control, rfl⟩

/-- The trace of an exchange: attention is asserted, the address byte goes out, whatever follows
from its acknowledge takes place, and attention is released. -/
theorem leaves_exchange (address : Address) (request buffer : List UInt8) :
    Leaves config (exchange address request buffer : Bus (Traced σ) Reply) fun reply t =>
      ∃ first last replying, Replying config request buffer reply replying ∧
        t = .sleep (clampMicros config.preDelay) :: (asserting config first ++
          .access (.writeData address.byte) () :: (replying ++ (releasing config last ++
            [.sleep (clampMicros config.postDelay)]))) := by
  rw [exchange_eq]
  refine .read (.bind ((leaves_hold _).mono ?_))
  rintro _ _ rfl
  refine .bind (leaves_assertAttention.mono ?_)
  rintro _ _ ⟨first, rfl⟩
  refine .bind (.access fun _ => .read (.bind ((leaves_waitAcknowledge _).mono ?_)))
  intro seen t₁ waited
  refine .bind ((leaves_answerAddress request buffer waited).mono fun reply t₂ replying => ?_)
  refine (leaves_conclude reply).mono ?_
  rintro _ _ ⟨rfl, last, rfl⟩
  refine ⟨first, last, t₁ ++ t₂, replying, ?_⟩
  simp only [List.append_assoc, List.cons_append, List.nil_append]

end ConsoleBus.Bus

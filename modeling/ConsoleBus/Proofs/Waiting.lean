import ConsoleBus.Proofs.Duration
import Mathlib.Data.Nat.Find

/-!
# The looks of a wait

A wait for an acknowledge looks at the interrupt at its start and after every poll step that begins
before the timeout. The first look that sees the interrupt ends it. `waitAcknowledge_exact` says
what a wait asks of the hardware, one access after the other, whatever the interrupt register
answers.
-/

namespace ConsoleBus

namespace Config

/-- The number of poll steps that begin before a length of time is over. -/
def looks (config : Config) (micros : Nat) : Nat :=
  (micros + config.pollStep - 1) / config.pollStep

variable {config : Config} {micros n : Nat}

theorem lt_looks_iff : n < config.looks micros ↔ n * config.pollStep < micros := by
  have hstep := config.pollStep_pos
  unfold looks
  generalize config.pollStep = step at hstep ⊢
  rw [← Nat.succ_le_iff, Nat.le_div_iff_mul_le hstep, Nat.succ_mul]
  omega

theorem le_looks_mul (config : Config) (micros : Nat) :
    micros ≤ config.looks micros * config.pollStep := by
  by_contra h
  have hmore : config.looks micros < config.looks micros := lt_looks_iff.mpr (by omega)
  exact Nat.lt_irrefl _ hmore

theorem looks_mul_lt (config : Config) (micros : Nat) :
    config.looks micros * config.pollStep < micros + config.pollStep := by
  have hstep := config.pollStep_pos
  rcases Nat.eq_zero_or_pos (config.looks micros) with hzero | hpos
  · rw [hzero]
    omega
  · obtain ⟨last, hlast⟩ := Nat.exists_eq_succ_of_ne_zero (Nat.ne_of_gt hpos)
    have hbefore : last * config.pollStep < micros := lt_looks_iff.mp (by omega)
    rw [hlast, Nat.succ_mul]
    omega

end Config

namespace Bus

/-- What the hardware was asked in looks that saw nothing, each with a poll step after it. -/
def unseenLooks (config : Config) (n : Nat) : List Occurrence :=
  (List.replicate n [.access .readInterrupt false, .sleep config.pollStep]).flatten

theorem unseenLooks_succ (config : Config) (n : Nat) :
    unseenLooks config (n + 1) =
      .access .readInterrupt false :: .sleep config.pollStep :: unseenLooks config n := by
  simp [unseenLooks, List.replicate_succ]

theorem slept_unseenLooks (config : Config) (n : Nat) :
    slept (unseenLooks config n) = n * config.pollStep := by
  induction n with
  | zero => simp [unseenLooks]
  | succ n ih =>
    rw [unseenLooks_succ, slept_cons, slept_cons, ih, Nat.succ_mul]
    simp only [Occurrence.lasting]
    omega

variable {σ : Type} [Hardware σ] {config : Config} {n remaining : Nat}

/-- The hardware after a number of looks, each with a poll step after it. -/
def polled (config : Config) : Nat → σ → σ
  | 0, s => s
  | n + 1, s => polled config n
      (Hardware.sleep config.pollStep (Hardware.access .readInterrupt s).2)

/-- Whether the look after `n` others sees the interrupt. -/
def sees (config : Config) (n : Nat) (s : σ) : Bool :=
  (Hardware.access .readInterrupt (polled config n s)).1

/-- Looks that see nothing only use time up. -/
theorem lookForAcknowledge_polled (n : Nat) : ∀ (remaining : Nat) (s : σ),
    n ≤ config.looks remaining → (∀ i < n, sees config i s = false) →
      (lookForAcknowledge config remaining : Bus σ Bool) config s =
        lookForAcknowledge config (remaining - n * config.pollStep) config
          (polled config n s) := by
  induction n with
  | zero =>
    intro remaining s _ _
    rw [Nat.zero_mul, Nat.sub_zero]
    rfl
  | succ n ih =>
    intro remaining s hlooks hnone
    have hlast : n * config.pollStep < remaining := Config.lt_looks_iff.mp hlooks
    have hunseen : ¬ (Hardware.access .readInterrupt s).1 = true := by
      have := hnone 0 (Nat.succ_pos n)
      simpa [sees, polled] using this
    -- One look and one step leave room for one look less.
    have hroom : n ≤ config.looks (remaining - config.pollStep) := by
      rcases Nat.eq_zero_or_pos n with rfl | hpos
      · exact Nat.zero_le _
      · obtain ⟨m, rfl⟩ := Nat.exists_eq_succ_of_ne_zero (Nat.ne_of_gt hpos)
        rw [Nat.succ_mul] at hlast
        exact Config.lt_looks_iff.mpr (by omega)
    rw [lookForAcknowledge_of_pos (by omega), if_neg hunseen,
      ih _ _ hroom fun i hi => hnone (i + 1) (Nat.succ_lt_succ hi), Nat.succ_mul]
    congr 1
    omega

/-- Tracing changes none of the answers. -/
theorem polled_traced (n : Nat) : ∀ t : Traced σ,
    (polled config n t).hardware = polled config n t.hardware := by
  induction n with
  | zero => exact fun t => rfl
  | succ n ih => exact fun t => ih _

theorem sees_traced (n : Nat) (t : Traced σ) : sees config n t = sees config n t.hardware := by
  unfold sees
  rw [← polled_traced]
  rfl

theorem trace_polled (n : Nat) : ∀ t : Traced σ, (∀ i < n, sees config i t = false) →
    (polled config n t).trace.toList = t.trace.toList ++ unseenLooks config n := by
  induction n with
  | zero =>
    intro t _
    simp [unseenLooks, polled]
  | succ n ih =>
    intro t hnone
    have hunseen : (Hardware.access .readInterrupt t.hardware).1 = false :=
      hnone 0 (Nat.succ_pos n)
    have hrest := ih (Hardware.sleep config.pollStep (Hardware.access .readInterrupt t).2)
      fun i hi => hnone (i + 1) (Nat.succ_lt_succ hi)
    have hfirst : (Hardware.sleep config.pollStep
        (Hardware.access .readInterrupt t).2).trace.toList =
          t.trace.toList ++ [.access .readInterrupt (Hardware.access .readInterrupt t.hardware).1,
            .sleep config.pollStep] := by
      show ((t.trace.push _).push _).toList = _
      simp
    rw [hunseen] at hfirst
    rw [unseenLooks_succ]
    rw [polled, hrest, hfirst]
    simp

/-- A wait that sees nothing asks for nothing but its looks and the time between them. -/
theorem waitAcknowledge_unseen (t : Traced σ)
    (hnone : ∀ i < config.looks remaining, sees config i t = false) :
    (waitAcknowledge remaining : Bus (Traced σ) Bool) config t =
      some (false, polled config (config.looks remaining) t) := by
  have hover : remaining - config.looks remaining * config.pollStep = 0 :=
    Nat.sub_eq_zero_of_le (config.le_looks_mul remaining)
  rw [waitAcknowledge_apply, lookForAcknowledge_polled _ _ _ (Nat.le_refl _) hnone, hover,
    lookForAcknowledge_zero]

/-- The first look that sees the interrupt is the last one. -/
theorem waitAcknowledge_seen (t : Traced σ) (hn : n < config.looks remaining)
    (hnone : ∀ i < n, sees config i t = false) (hseen : sees config n t = true) :
    (waitAcknowledge remaining : Bus (Traced σ) Bool) config t =
      some (true, withFreshControl (fun control => control.union Control.acknowledge)
        (Hardware.access .readInterrupt (polled config n t)).2) := by
  have htime : 0 < remaining - n * config.pollStep :=
    Nat.sub_pos_of_lt (Config.lt_looks_iff.mp hn)
  rw [waitAcknowledge_apply, lookForAcknowledge_polled n _ _ (Nat.le_of_lt hn) hnone,
    lookForAcknowledge_of_pos htime]
  exact if_pos hseen

theorem trace_seen (t : Traced σ) (hseen : (Hardware.access .readInterrupt t).1 = true) :
    ∃ control, (withFreshControl (fun control => control.union Control.acknowledge)
        (Hardware.access .readInterrupt t).2).trace.toList =
      t.trace.toList ++ .access .readInterrupt true :: .access .clearInterrupt () ::
        rewriting (fun control => control.union Control.acknowledge) control := by
  have hanswer : (Hardware.access .readInterrupt t.hardware).1 = true := hseen
  refine ⟨(Hardware.access .readControl (Hardware.access .clearInterrupt
    (Hardware.access .readInterrupt t.hardware).2).2).1, ?_⟩
  show ((((t.trace.push _).push _).push _).push _).toList = _
  simp only [Array.toList_push, List.append_assoc, List.cons_append, List.nil_append]
  rw [hanswer]
  rfl

/-- Every wait comes to an end, over any hardware and for any timeout. If some look before the
timeout sees the interrupt, the first one that does is the last look, after as many poll steps as
there were looks before it; the interrupt is cleared and the transceiver armed, and nothing else is
asked. If none does, the wait takes all its looks with a poll step after each, which is less than
one poll step longer than the timeout, and neither clears nor arms anything. -/
theorem waitAcknowledge_exact (config : Config) (timeout : Nat) (s : σ) :
    ∃ seen after, (waitAcknowledge timeout : Bus (Traced σ) Bool) config ⟨s, #[]⟩ =
        some (seen, after) ∧
      (∀ n < config.looks timeout, (∀ i < n, sees config i s = false) → sees config n s = true →
        seen = true ∧ slept after.trace.toList = n * config.pollStep ∧
        ∃ control, after.trace.toList =
          unseenLooks config n ++ .access .readInterrupt true :: .access .clearInterrupt () ::
            rewriting (fun control => control.union Control.acknowledge) control) ∧
      ((∀ i < config.looks timeout, sees config i s = false) →
        seen = false ∧ after.trace.toList = unseenLooks config (config.looks timeout) ∧
        slept after.trace.toList = config.looks timeout * config.pollStep) ∧
      timeout ≤ config.looks timeout * config.pollStep ∧
      config.looks timeout * config.pollStep < timeout + config.pollStep := by
  have hsees : ∀ i, sees config i (⟨s, #[]⟩ : Traced σ) = sees config i s :=
    fun i => sees_traced i _
  have hbounds := And.intro (config.le_looks_mul timeout) (config.looks_mul_lt timeout)
  by_cases hsome : ∃ n, n < config.looks timeout ∧ sees config n s = true
  · -- The first look that sees the interrupt decides.
    obtain ⟨hlooks, hseen⟩ := Nat.find_spec hsome
    have hnone : ∀ i < Nat.find hsome, sees config i s = false := by
      intro i hi
      have := Nat.find_min hsome hi
      rw [Bool.eq_false_iff]
      exact fun h => this ⟨by omega, h⟩
    generalize Nat.find hsome = first at hlooks hseen hnone
    have hunseen : ∀ i < first, sees config i (⟨s, #[]⟩ : Traced σ) = false :=
      fun i hi => (hsees i).trans (hnone i hi)
    obtain ⟨control, htrace⟩ := trace_seen (polled config first (⟨s, #[]⟩ : Traced σ))
      ((hsees first).trans hseen)
    rw [trace_polled first _ hunseen, Array.toList_empty, List.nil_append] at htrace
    refine ⟨true, _, waitAcknowledge_seen _ hlooks hunseen ((hsees first).trans hseen), ?_, ?_,
      hbounds⟩
    · intro n hn hbefore hat
      obtain hlt | rfl | hgt := Nat.lt_trichotomy n first
      · rw [hnone n hlt] at hat
        cases hat
      · refine ⟨rfl, ?_, control, htrace⟩
        rw [htrace, slept_append, slept_unseenLooks]
        rfl
      · rw [hbefore first hgt] at hseen
        cases hseen
    · intro hall
      rw [hall first hlooks] at hseen
      cases hseen
  · have hnone : ∀ i < config.looks timeout, sees config i s = false := by
      intro i hi
      rw [Bool.eq_false_iff]
      exact fun h => hsome ⟨i, hi, h⟩
    have hunseen : ∀ i < config.looks timeout, sees config i (⟨s, #[]⟩ : Traced σ) = false :=
      fun i hi => (hsees i).trans (hnone i hi)
    have htrace := trace_polled _ (⟨s, #[]⟩ : Traced σ) hunseen
    rw [Array.toList_empty, List.nil_append] at htrace
    refine ⟨false, _, waitAcknowledge_unseen _ hunseen, ?_, ?_, hbounds⟩
    · intro n hn _ hat
      rw [hnone n hn] at hat
      cases hat
    · intro _
      rw [htrace]
      exact ⟨rfl, rfl, slept_unseenLooks config _⟩

/-- Registers at which the third look is the first that sees the interrupt. -/
def thirdLook : RegisterFile where
  now := 0
  control := Control.enabled
  statuses := []
  receiving := false
  bytes := []
  interrupts := [false, false, true, true]

/-- A timeout of two and a half poll steps leaves time for three looks. -/
theorem waitAcknowledge_exact_thirdLook :
    (∃ seen after, (waitAcknowledge 25 : Bus (Traced RegisterFile) Bool) patient
        ⟨thirdLook, #[]⟩ = some (seen, after) ∧ seen = true ∧ slept after.trace.toList = 20) ∧
    ∃ seen after, (waitAcknowledge 25 : Bus (Traced RegisterFile) Bool) patient
        ⟨silent, #[]⟩ = some (seen, after) ∧ seen = false ∧ slept after.trace.toList = 30 := by
  obtain ⟨seen, after, hrun, hfirst, -⟩ := waitAcknowledge_exact patient 25 thirdLook
  obtain ⟨hseen, hslept, -⟩ := hfirst 2 (by decide) (by decide) (by decide)
  obtain ⟨seen', after', hrun', -, hall, -⟩ := waitAcknowledge_exact patient 25 silent
  obtain ⟨hseen', -, hslept'⟩ := hall (by decide)
  exact ⟨⟨seen, after, hrun, hseen, hslept⟩, seen', after', hrun', hseen', hslept'⟩

end Bus

end ConsoleBus

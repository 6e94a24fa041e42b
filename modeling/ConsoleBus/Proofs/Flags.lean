import ConsoleBus.Register

/-!
# Words with named bits as sets of bits

A register is rewritten by setting some of its bits and clearing others. What that does to any
other bits is settled here once, by looking at the words bit by bit.
-/

namespace ConsoleBus.Flags

variable {l : Layout} {a b c : Flags l}

/-! ## Bits -/

theorem ext_bits (h : ∀ i, a.bits.getLsbD i = b.bits.getLsbD i) : a = b :=
  Flags.ext (BitVec.eq_of_getLsbD_eq fun i _ => h i)

theorem contains_iff :
    a.contains b = true ↔ ∀ i, b.bits.getLsbD i = true → a.bits.getLsbD i = true := by
  unfold contains
  rw [beq_iff_eq]
  constructor
  · intro h i hi
    have hbit := congrArg (fun w : Flags l => w.bits.getLsbD i) h
    simp only [bits_inter, BitVec.getLsbD_and, hi, Bool.and_true] at hbit
    exact hbit
  · intro h
    apply ext_bits
    intro i
    rw [bits_inter, BitVec.getLsbD_and]
    cases hb : b.bits.getLsbD i with
    | true => rw [h i hb, Bool.and_true]
    | false => rw [Bool.and_false]

theorem inter_eq_empty_iff :
    a.inter b = empty ↔ ∀ i, a.bits.getLsbD i = true → b.bits.getLsbD i = false := by
  constructor
  · intro h i hi
    have hbit := congrArg (fun w : Flags l => w.bits.getLsbD i) h
    simpa [hi] using hbit
  · intro h
    apply ext_bits
    intro i
    cases ha : a.bits.getLsbD i with
    | true => simp [h i ha]
    | false => simp [ha]

theorem getLsbD_diff (i : Nat) :
    (a.diff b).bits.getLsbD i = (a.bits.getLsbD i && !b.bits.getLsbD i) := by
  rw [bits_diff, BitVec.getLsbD_and, BitVec.getLsbD_not]
  by_cases h : i < l.width
  · simp [h]
  · simp [BitVec.getLsbD_of_ge a.bits i (Nat.le_of_not_lt h)]

/-! ## Which bits are there afterwards -/

theorem contains_union_right : (a.union b).contains b = true := by
  rw [contains_iff]
  intro i hi
  simp [hi]

/-- Setting or clearing bits outside `c` does not matter to whether `c` is there. -/
theorem contains_union_of_inter (h : c.inter b = empty) :
    (a.union b).contains c = a.contains c := by
  rw [inter_eq_empty_iff] at h
  rw [Bool.eq_iff_iff, contains_iff, contains_iff]
  refine forall_congr' fun i => ⟨fun hc hi => ?_, fun hc hi => ?_⟩
  · simpa [h i hi] using hc hi
  · simp [hc hi]

theorem contains_diff_of_inter (h : c.inter b = empty) :
    (a.diff b).contains c = a.contains c := by
  rw [inter_eq_empty_iff] at h
  rw [Bool.eq_iff_iff, contains_iff, contains_iff]
  refine forall_congr' fun i => ⟨fun hc hi => ?_, fun hc hi => ?_⟩
  · have := hc hi
    rw [getLsbD_diff] at this
    exact (Bool.and_eq_true_iff.mp this).1
  · rw [getLsbD_diff, hc hi, h i hi]
    rfl

theorem contains_diff_self (h : b ≠ empty) : (a.diff b).contains b = false := by
  rw [Bool.eq_false_iff]
  intro hc
  apply h
  apply ext_bits
  intro i
  rw [contains_iff] at hc
  cases hb : b.bits.getLsbD i with
  | true =>
    have := hc i hb
    rw [getLsbD_diff, hb] at this
    simp at this
  | false => simp

/-! ## What is left when bits are set and cleared -/

theorem union_diff_self : (a.union b).diff b = a.diff b := by
  apply ext_bits
  intro i
  simp only [getLsbD_diff, bits_union, BitVec.getLsbD_or]
  cases a.bits.getLsbD i <;> cases b.bits.getLsbD i <;> rfl

theorem diff_diff_comm : (a.diff b).diff c = (a.diff c).diff b := by
  apply ext_bits
  intro i
  simp only [getLsbD_diff]
  cases a.bits.getLsbD i <;> cases b.bits.getLsbD i <;> cases c.bits.getLsbD i <;> rfl

theorem diff_diff_self : (a.diff b).diff b = a.diff b := by
  apply ext_bits
  intro i
  simp only [getLsbD_diff]
  cases a.bits.getLsbD i <;> cases b.bits.getLsbD i <;> rfl

theorem diff_eq_self (h : a.inter b = empty) : a.diff b = a := by
  rw [inter_eq_empty_iff] at h
  apply ext_bits
  intro i
  rw [getLsbD_diff]
  cases ha : a.bits.getLsbD i with
  | true => rw [h i ha]; rfl
  | false => rfl

/-! ## Words of one bit -/

/-- The word has at most one bit. -/
def Single (a : Flags l) : Prop :=
  ∀ i j, a.bits.getLsbD i = true → a.bits.getLsbD j = true → i = j

/-- A single bit is there or has nothing in common. -/
theorem inter_eq_empty_of_single (hb : b.Single) (h : a.contains b = false) :
    a.inter b = empty := by
  rw [inter_eq_empty_iff]
  intro i hi
  rw [Bool.eq_false_iff]
  intro hbit
  have hall : a.contains b = true := by
    rw [contains_iff]
    intro j hj
    rw [hb j i hj hbit]
    exact hi
  rw [h] at hall
  exact Bool.false_ne_true hall

end ConsoleBus.Flags

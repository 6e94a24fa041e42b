import ConsoleBus.Proofs.Flags
import ConsoleBus.Proofs.Turns

/-!
# The control register along a trace

The control register is never written from scratch in a packet: it is read and written back with
some bits changed. Whether this keeps the other bits depends on what hardware gives back for a read.
`ReadsBack` says of a trace that every read gave the value written last, with or without the strobe
that arms the transceiver. The main statement is `Arming.attentive`: between the first write of the
control register in an exchange and the last one the transceiver is only armed, so that attention
stays asserted and no other line is touched.
-/

namespace ConsoleBus.Bus

variable {config : Config}

/-! ## Reading back -/

/-- Every read of the control register gives the value written last, with or without the strobe
that arms the transceiver. The value from before the trace may be unknown. -/
def ReadsBack : (written : Option Control) → List Occurrence → Prop
  | _, [] => True
  | written, .access .readControl control :: t =>
    (∀ value ∈ written, control = value ∨ control = value.diff Control.acknowledge) ∧
      ReadsBack written t
  | _, .access (.writeControl value) _ :: t => ReadsBack (some value) t
  | written, _ :: t => ReadsBack written t

instance decidableReadsBack :
    (written : Option Control) → (t : List Occurrence) → Decidable (ReadsBack written t)
  | _, [] => .isTrue trivial
  | written, .access .readControl control :: t =>
    have := decidableReadsBack written t
    inferInstanceAs (Decidable ((∀ value ∈ written, control = value ∨
      control = value.diff Control.acknowledge) ∧ ReadsBack written t))
  | _, .access (.writeControl value) _ :: t => decidableReadsBack (some value) t
  | written, .sleep _ :: t
  | written, .access (.writeMode _) _ :: t
  | written, .access (.writeBaud _) _ :: t
  | written, .access .readStatus _ :: t
  | written, .access .readData _ :: t
  | written, .access (.writeData _) _ :: t
  | written, .access .readInterrupt _ :: t
  | written, .access .clearInterrupt _ :: t => decidableReadsBack written t

/-- The values written to the control register. -/
def controlsWritten (t : List Occurrence) : List Control :=
  t.filterMap fun
    | .access (.writeControl value) _ => some value
    | _ => none

theorem controlsWritten_append (t u : List Occurrence) :
    controlsWritten (t ++ u) = controlsWritten t ++ controlsWritten u := List.filterMap_append

/-- The lines of the control register that a packet has no business with. -/
def otherLines (control : Control) : Control :=
  (control.diff Control.attention).diff Control.acknowledge

theorem otherLines_diff_acknowledge (control : Control) :
    otherLines (control.diff Control.acknowledge) = otherLines control := by
  unfold otherLines
  rw [Flags.diff_diff_comm, Flags.diff_diff_self, Flags.diff_diff_comm]

theorem otherLines_union_acknowledge (control : Control) :
    otherLines (control.union Control.acknowledge) = otherLines control := by
  unfold otherLines
  rw [Flags.diff_diff_comm, Flags.union_diff_self, Flags.diff_diff_comm]

theorem otherLines_union_attention (control : Control) :
    otherLines (control.union Control.attention) = otherLines control := by
  unfold otherLines
  rw [Flags.union_diff_self]

theorem otherLines_diff_attention (control : Control) :
    otherLines (control.diff Control.attention) = otherLines control := by
  unfold otherLines
  rw [Flags.diff_diff_self]

/-! ## While attention is asserted -/

/-- A value with attention asserted and the other lines of `lines`. -/
def Attentive (lines control : Control) : Prop :=
  control.contains Control.attention = true ∧ otherLines control = lines

theorem Attentive.diff_acknowledge {lines control : Control} (h : Attentive lines control) :
    Attentive lines (control.diff Control.acknowledge) := by
  refine ⟨?_, (otherLines_diff_acknowledge control).trans h.2⟩
  rw [Flags.contains_diff_of_inter (by decide)]
  exact h.1

theorem Attentive.union_acknowledge {lines control : Control} (h : Attentive lines control) :
    Attentive lines (control.union Control.acknowledge) := by
  refine ⟨?_, (otherLines_union_acknowledge control).trans h.2⟩
  rw [Flags.contains_union_of_inter (by decide)]
  exact h.1

/-- A value that is read back while attention is asserted. -/
theorem Attentive.of_readsBack {lines value control : Control} {t : List Occurrence}
    (h : Attentive lines value) (hread : ReadsBack (some value) (.access .readControl control :: t)) :
    Attentive lines control := by
  rcases hread.1 value rfl with rfl | rfl
  · exact h
  · exact h.diff_acknowledge

/-- The control register is only ever rewritten to arm the transceiver. -/
inductive Arming : List Occurrence → Prop where
  | nil : Arming []
  | sleep {t : List Occurrence} (micros : Nat) (h : Arming t) : Arming (.sleep micros :: t)
  | other {t : List Occurrence} {a : Access} (answer : a.Answer) (hread : a ≠ .readControl)
      (hwrite : ∀ value, a ≠ .writeControl value) (h : Arming t) : Arming (.access a answer :: t)
  | rewrite {t : List Occurrence} (control : Control) (h : Arming t) :
      Arming (rewriting (fun control => control.union Control.acknowledge) control ++ t)

theorem Arming.append {t u : List Occurrence} (ht : Arming t) (hu : Arming u) :
    Arming (t ++ u) := by
  induction ht with
  | nil => exact hu
  | sleep micros h ih => exact .sleep micros ih
  | other answer hread hwrite h ih => exact .other answer hread hwrite ih
  | rewrite control h ih => exact .rewrite control ih

theorem Waiting.arming {remaining : Nat} {seen : Bool} {t : List Occurrence}
    (h : Waiting config remaining seen t) : Arming t := by
  induction h with
  | expired => exact .nil
  | unseen pos rest ih => exact .other _ nofun nofun (.sleep _ ih)
  | seen pos control => exact .other _ nofun nofun (.other _ nofun nofun (.rewrite control .nil))

theorem Draining.arming {t : List Occurrence} (h : Draining t) : Arming t := by
  induction t with
  | nil => exact .nil
  | cons o t ih =>
    have ht : Arming t := ih fun o' ho' => h o' (List.mem_cons_of_mem o ho')
    obtain ⟨status, rfl⟩ | ⟨byte, rfl⟩ := h o List.mem_cons_self
    · exact .other _ nofun nofun ht
    · exact .other _ nofun nofun ht

theorem Exchanging.arming {sent received : UInt8} {t : List Occurrence}
    (h : Exchanging sent received t) : Arming t := by
  obtain ⟨before, between, hbefore, hbetween, rfl⟩ := h
  refine hbefore.draining.arming.append (.other _ nofun nofun ?_)
  exact hbetween.draining.arming.append (.other _ nofun nofun .nil)

theorem Filling.arming {request buffer : List UInt8} {reply : Reply} {t : List Occurrence}
    (h : Filling config request buffer reply t) : Arming t := by
  induction h with
  | full => exact .nil
  | last exchanged waited => exact exchanged.arming.append waited.arming
  | more exchanged waited filled ih => exact exchanged.arming.append (waited.arming.append ih)

theorem Replying.arming {request buffer : List UInt8} {reply : Reply} {t : List Occurrence}
    (h : Replying config request buffer reply t) : Arming t := by
  cases h with
  | unanswered waited => exact waited.arming
  | answered waited drained filled =>
    exact waited.arming.append (drained.arming.append filled.arming)

/-- As long as the transceiver is only armed, attention stays asserted and no other line changes. -/
theorem Arming.attentive {lines value : Control} {t u : List Occurrence} (h : Arming t)
    (hvalue : Attentive lines value) (hread : ReadsBack (some value) (t ++ u)) :
    (∀ control ∈ controlsWritten t, Attentive lines control) ∧
      ∃ value', Attentive lines value' ∧ ReadsBack (some value') u := by
  induction h generalizing value with
  | nil => exact ⟨fun control hc => absurd hc List.not_mem_nil, value, hvalue, hread⟩
  | sleep micros h ih => exact ih hvalue hread
  | @other t a answer hra hwa h ih =>
    match a, hra, hwa with
    | .readControl, hra, _ => exact absurd rfl hra
    | .writeControl v, _, hwa => exact absurd rfl (hwa v)
    | .writeMode _, _, _ => exact ih hvalue hread
    | .writeBaud _, _, _ => exact ih hvalue hread
    | .readStatus, _, _ => exact ih hvalue hread
    | .readData, _, _ => exact ih hvalue hread
    | .writeData _, _, _ => exact ih hvalue hread
    | .readInterrupt, _, _ => exact ih hvalue hread
    | .clearInterrupt, _, _ => exact ih hvalue hread
  | rewrite control h ih =>
    have hcontrol : Attentive lines (control.union Control.acknowledge) :=
      (hvalue.of_readsBack hread).union_acknowledge
    obtain ⟨hall, value', hvalue', hrest⟩ := ih hcontrol hread.2
    refine ⟨fun c hc => ?_, value', hvalue', hrest⟩
    rcases List.mem_cons.mp hc with rfl | hc
    · exact hcontrol
    · exact hall c hc

end ConsoleBus.Bus

import ConsoleBus.Proofs.Simulator.Pulse

/-!
# The simulated control register in any state

Two bits of the control register are strobes: they take effect when they are written and are never
stored. All other bits are kept as they are written, so that a read-modify-write changes just the
bits that it means to change. What the writes of the bus do is told here for every value that a
transceiver can hold, whether or not interrupts are enabled and whatever bits without a name are
set.
-/

namespace ConsoleBus

namespace Control

/-- The value with attention routed to a port. -/
def route (port : Port) (control : Control) : Control :=
  match port with
  | .one => control.diff secondPort
  | .two => control.union secondPort

/-- Neither strobe is there. -/
structure Strobeless (control : Control) : Prop where
  acknowledge : control.contains Control.acknowledge = false
  reset : control.contains Control.reset = false

variable {control bits : Control}

theorem single_of_decide
    (h : ∀ i < 16, ∀ j < 16, control.bits.getLsbD i = true →
      control.bits.getLsbD j = true → i = j) :
    control.Single :=
  fun i j hi hj => h i (BitVec.lt_of_getLsbD hi) j (BitVec.lt_of_getLsbD hj) hi hj

theorem single_acknowledge : Control.acknowledge.Single := single_of_decide (by decide)

theorem single_reset : Control.reset.Single := single_of_decide (by decide)

theorem strobeless_empty : Strobeless Flags.empty := ⟨by decide, by decide⟩

/-- What is stored of a value that is written has no strobes. -/
theorem strobeless_stored (value : Control) :
    Strobeless ((value.diff Control.acknowledge).diff Control.reset) where
  acknowledge := by
    rw [Flags.contains_diff_of_inter (by decide)]
    exact Flags.contains_diff_self (by decide)
  reset := Flags.contains_diff_self (by decide)

/-- A value without strobes is stored as it is. -/
theorem Strobeless.stored (h : control.Strobeless) :
    (control.diff Control.acknowledge).diff Control.reset = control := by
  rw [Flags.diff_eq_self (Flags.inter_eq_empty_of_single single_acknowledge h.acknowledge),
    Flags.diff_eq_self (Flags.inter_eq_empty_of_single single_reset h.reset)]

/-- What is stored asserts attention just as what was written does. -/
theorem contains_attention_stored (value : Control) :
    ((value.diff Control.acknowledge).diff Control.reset).contains attention =
      value.contains attention := by
  rw [Flags.contains_diff_of_inter (by decide), Flags.contains_diff_of_inter (by decide)]

theorem Strobeless.union (h : control.Strobeless) (hacknowledge : Control.acknowledge.inter bits =
    Flags.empty) (hreset : Control.reset.inter bits = Flags.empty) :
    Strobeless (control.union bits) where
  acknowledge := (Flags.contains_union_of_inter hacknowledge).trans h.acknowledge
  reset := (Flags.contains_union_of_inter hreset).trans h.reset

theorem Strobeless.diff (h : control.Strobeless) (hacknowledge : Control.acknowledge.inter bits =
    Flags.empty) (hreset : Control.reset.inter bits = Flags.empty) :
    Strobeless (control.diff bits) where
  acknowledge := (Flags.contains_diff_of_inter hacknowledge).trans h.acknowledge
  reset := (Flags.contains_diff_of_inter hreset).trans h.reset

theorem Strobeless.route (h : control.Strobeless) (port : Port) :
    (Control.route port control).Strobeless := by
  cases port with
  | one => exact h.diff (by decide) (by decide)
  | two => exact h.union (by decide) (by decide)

theorem contains_attention_route (port : Port) (control : Control) :
    (Control.route port control).contains attention = control.contains attention := by
  cases port with
  | one => exact Flags.contains_diff_of_inter (by decide)
  | two => exact Flags.contains_union_of_inter (by decide)

theorem contains_secondPort_route (port : Port) (control : Control) :
    (Control.route port control).contains secondPort = decide (port = .two) := by
  cases port with
  | one => exact Flags.contains_diff_self (by decide)
  | two => exact Flags.contains_union_right

/-- A value that is written together with the arming strobe is stored without it. -/
theorem Strobeless.stored_armed (h : control.Strobeless) :
    ((control.union Control.acknowledge).diff Control.acknowledge).diff Control.reset =
      control := by
  rw [Flags.union_diff_self, h.stored]

theorem Strobeless.reset_armed (h : control.Strobeless) :
    (control.union Control.acknowledge).contains Control.reset = false :=
  (Flags.contains_union_of_inter (by decide)).trans h.reset

end Control

namespace Simulator

variable {s t : Simulator} {asserted : Bool}

/-! ## Steady transceivers -/

/-- Attention is asserted or it is not, and the control register holds no strobe, which no access
ever makes it do (`access_strobeless`). -/
structure Steady (asserted : Bool) (s : Simulator) : Prop where
  attention : s.attention = asserted
  strobeless : s.control.Strobeless

theorem Steady.sameWire (h : s.Steady asserted) (hwire : SameWire s t) : t.Steady asserted :=
  ⟨hwire.attention.trans h.attention, hwire.control.symm ▸ h.strobeless⟩

/-! ## Writes of any value -/

/-- The strobes of a value that is written have taken effect, whichever they are. -/
def strobed (value : Control) (s : Simulator) : Simulator :=
  let restarted := if value.contains Control.reset then s.deliverPulse.reset else s.deliverPulse
  if value.contains Control.acknowledge then { restarted with latched := false } else restarted

theorem attention_reset (s : Simulator) : s.reset.attention = false := by
  show Flags.contains (Flags.empty : Control) Control.attention = false
  decide

/-- After a reset there is nothing left to arm. -/
theorem strobed_of_reset {value : Control} (h : value.contains Control.reset = true)
    (s : Simulator) : s.strobed value = s.deliverPulse.reset := by
  unfold strobed
  rw [if_pos h]
  split <;> rfl

theorem strobed_of_not_reset {value : Control} (h : ¬ value.contains Control.reset = true)
    (s : Simulator) :
    s.strobed value = { s.deliverPulse with
      latched := s.deliverPulse.latched && !value.contains Control.acknowledge } := by
  unfold strobed
  rw [if_neg h]
  by_cases harm : value.contains Control.acknowledge = true
  · rw [if_pos harm, harm, Bool.not_true, Bool.and_false]
  · rw [if_neg harm, Bool.eq_false_iff.mpr harm, Bool.not_false, Bool.and_true]

/-- What is plugged in, once the packet on a port is over. -/
def devicesAfter (s : Simulator) (port : Port) : PerPort (Option Device) :=
  match s.stage with
  | .answering _ => s.devices.set port ((s.devices.get port).map Device.finish)
  | _ => s.devices

/-- A value without strobes is stored. An edge of attention that comes of it opens a packet or ends
the one on its way. -/
def settled (control : Control) (s : Simulator) : Simulator :=
  let after := { s with control }
  if !s.attention && after.attention then
    { after with stage := .addressing }.record (.attention after.port true)
  else if s.attention && !after.attention then
    { after with stage := .idle, devices := s.devicesAfter s.port }.record
      (.attention s.port false)
  else
    after

/-- First the strobes take effect, and then the other bits. -/
theorem writeControl_eq (s : Simulator) (value : Control) :
    s.writeControl value =
      (s.strobed value).settled ((value.diff Control.acknowledge).diff Control.reset) := by
  have hsettled : ∀ (t : Simulator) (control : Control), t.settled control =
      let after := { t with control }
      if !t.attention && after.attention then
        { after with stage := .addressing }.record (.attention after.port true)
      else if t.attention && !after.attention then
        let ended := match t.stage with
          | .answering _ => after.setDevice t.port ((t.devices.get t.port).map Device.finish)
          | _ => after
        { ended with stage := .idle }.record (.attention t.port false)
      else
        after := by
    intro t control
    unfold settled devicesAfter
    cases t.stage <;> rfl
  exact (hsettled (s.strobed value) _).symm

/-- All that a value can do: attention stays as it is, or it is asserted, or it is released. -/
theorem settled_cases (control : Control) (s : Simulator) :
    (control.contains Control.attention = s.attention ∧ s.settled control = { s with control }) ∨
    (s.attention = false ∧ control.contains Control.attention = true ∧
      s.settled control = { s with control, stage := .addressing }.record
        (.attention (Simulator.port { s with control }) true)) ∨
    (s.attention = true ∧ control.contains Control.attention = false ∧
      s.settled control = { s with
        control, stage := .idle, devices := s.devicesAfter s.port }.record
          (.attention s.port false)) := by
  have hafter : Simulator.attention { s with control } = control.contains Control.attention := rfl
  unfold settled
  simp only [hafter]
  cases s.attention <;> cases control.contains Control.attention
  · exact .inl ⟨rfl, rfl⟩
  · exact .inr (.inl ⟨rfl, rfl, rfl⟩)
  · exact .inr (.inr ⟨rfl, rfl, rfl⟩)
  · exact .inl ⟨rfl, rfl⟩

@[simp] theorem settled_control (control : Control) (s : Simulator) :
    (s.settled control).control = control := by
  rcases settled_cases control s with ⟨-, hs⟩ | ⟨-, -, hs⟩ | ⟨-, -, hs⟩ <;> rw [hs] <;> rfl

@[simp] theorem settled_received (control : Control) (s : Simulator) :
    (s.settled control).received = s.received := by
  rcases settled_cases control s with ⟨-, hs⟩ | ⟨-, -, hs⟩ | ⟨-, -, hs⟩ <;> rw [hs] <;> rfl

/-- Whatever is written is stored without its strobes. -/
theorem writeControl_control (s : Simulator) (value : Control) :
    (s.writeControl value).control = (value.diff Control.acknowledge).diff Control.reset := by
  rw [writeControl_eq, settled_control]

theorem writeControl_strobeless (s : Simulator) (value : Control) :
    (s.writeControl value).control.Strobeless := by
  rw [writeControl_control]
  exact Control.strobeless_stored value

/-! ## The writes of the bus -/

/-- The interrupt is cleared and the latch armed, so that the next pulse can be told. -/
def fresh (s : Simulator) : Simulator :=
  { s.deliverPulse with
    interrupt := false
    latched := false }

/-- Attention is asserted on the port it is routed to, and the next byte is an address. -/
def withAttention (s : Simulator) : Simulator :=
  { s with
    control := s.control.union Control.attention
    stage := .addressing }.record (.attention s.port true)

/-- Attention is released, and a device that took part in the packet is told of its end. -/
def withoutAttention (s : Simulator) : Simulator :=
  { s with
    control := s.control.diff Control.attention
    stage := .idle
    devices := s.devicesAfter s.port }.record (.attention s.port false)

/-- Attention is routed to another port. -/
def selected (port : Port) (s : Simulator) : Simulator :=
  { s.deliverPulse with control := Control.route port s.control }

theorem port_selected (port : Port) (s : Simulator) : (s.selected port).port = port := by
  show (if (Control.route port s.control).contains _ = true then Port.two else Port.one) = _
  rw [Control.contains_secondPort_route]
  cases port <;> rfl

theorem devices_selected (port : Port) (s : Simulator) : (s.selected port).devices = s.devices :=
  (sameWire_deliverPulse s).devices

theorem log_selected (port : Port) (s : Simulator) : (s.selected port).log = s.log :=
  (sameWire_deliverPulse s).log

theorem steady_selected (port : Port) (h : s.Steady asserted) :
    (s.selected port).Steady asserted :=
  ⟨(Control.contains_attention_route port s.control).trans h.attention, h.strobeless.route port⟩

theorem Steady.union_attention (h : s.Steady asserted) :
    Control.Strobeless (s.control.union Control.attention) :=
  h.strobeless.union (by decide) (by decide)

theorem Steady.diff_attention (h : s.Steady asserted) :
    Control.Strobeless (s.control.diff Control.attention) :=
  h.strobeless.diff (by decide) (by decide)

theorem contains_attention_union (s : Simulator) :
    (s.control.union Control.attention).contains Control.attention = true :=
  Flags.contains_union_right

theorem contains_secondPort_union (s : Simulator) :
    (s.control.union Control.attention).contains Control.secondPort =
      s.control.contains Control.secondPort :=
  Flags.contains_union_of_inter (by decide)

theorem contains_secondPort_diff (s : Simulator) :
    (s.control.diff Control.attention).contains Control.secondPort =
      s.control.contains Control.secondPort :=
  Flags.contains_diff_of_inter (by decide)

theorem port_withAttention (s : Simulator) : s.withAttention.port = s.port := by
  show (if (s.control.union _).contains _ = true then Port.two else Port.one) = _
  rw [contains_secondPort_union]
  rfl

theorem port_withoutAttention (s : Simulator) : s.withoutAttention.port = s.port := by
  show (if (s.control.diff _).contains _ = true then Port.two else Port.one) = _
  rw [contains_secondPort_diff]
  rfl

theorem contains_attention_diff (s : Simulator) :
    (s.control.diff Control.attention).contains Control.attention = false :=
  Flags.contains_diff_self (by decide)

theorem steady_withAttention (h : s.Steady false) : s.withAttention.Steady true :=
  ⟨contains_attention_union s, h.union_attention⟩

theorem steady_withoutAttention (h : s.Steady true) : s.withoutAttention.Steady false :=
  ⟨contains_attention_diff s, h.diff_attention⟩

theorem writeControl_arm (h : s.control.Strobeless) :
    s.writeControl (s.control.union Control.acknowledge) =
      { s.deliverPulse with latched := false } := by
  have harmed : (s.control.union Control.acknowledge).contains Control.acknowledge = true :=
    Flags.contains_union_right
  unfold writeControl
  simp only [h.reset_armed, harmed, h.stored_armed, attention, deliverPulse_control,
    Bool.false_eq_true, if_false, if_true, Bool.not_and_self, Bool.and_not_self]

theorem writeControl_assert (h : s.Steady false) :
    s.writeControl ((s.control.union Control.attention).union Control.acknowledge) =
      { s.deliverPulse with latched := false }.withAttention := by
  have hreset := h.union_attention.reset_armed
  have hstored := h.union_attention.stored_armed
  have harmed : ((s.control.union Control.attention).union Control.acknowledge).contains
      Control.acknowledge = true := Flags.contains_union_right
  have hbefore : s.control.contains Control.attention = false := h.attention
  unfold writeControl
  simp only [hreset, harmed, hstored, hbefore, contains_attention_union, attention,
    deliverPulse_control, Bool.false_eq_true, if_false, if_true, Bool.not_false, Bool.and_self]
  unfold withAttention
  simp only [port, contains_secondPort_union]

theorem writeControl_release (h : s.Steady true) :
    s.writeControl (s.control.diff Control.attention) = s.deliverPulse.withoutAttention := by
  have hstrobeless := h.diff_attention
  have hbefore : s.control.contains Control.attention = true := h.attention
  unfold writeControl
  simp only [hstrobeless.reset, hstrobeless.acknowledge, hstrobeless.stored, hbefore,
    contains_attention_diff, attention, deliverPulse_control, Bool.false_eq_true, if_false,
    if_true, Bool.not_true, Bool.not_false, Bool.and_self]
  unfold withoutAttention devicesAfter
  rw [← deliverPulse_control s]
  cases s.deliverPulse.stage <;> rfl

theorem writeControl_reroute (h : s.Steady false) (port : Port) :
    s.writeControl (Control.route port s.control) = s.selected port := by
  have hstrobeless := h.strobeless.route port
  have hbefore : s.control.contains Control.attention = false := h.attention
  unfold writeControl selected
  simp only [hstrobeless.reset, hstrobeless.acknowledge, hstrobeless.stored, hbefore,
    Control.contains_attention_route, attention, deliverPulse_control, Bool.false_eq_true,
    if_false, Bool.and_false, Bool.false_and]

end Simulator

end ConsoleBus

import ConsoleBus.Proofs.Simulator.Session
import ConsoleBus.Proofs.Simulator.Steps

/-!
# Any use of a simulated transceiver

Nobody has to use the registers the way the bus does. Here any value may be written to any
register at any time, and in between devices are plugged in and out, pulses are made to take longer
and time passes, also in the middle of a packet. Whatever is done, a few things always hold of the
transceiver, and its log reads as the story of one attention line.
-/

namespace ConsoleBus

/-! ## Reading a history -/

/-- Whether attention is asserted after the event. -/
def Event.attentionAfter (asserted : Bool) : Event → Bool
  | reset => false
  | attention _ asserted => asserted
  | byte _ _ _ => asserted

/-- Whether attention is asserted after all of the events. -/
def attentionAfter (asserted : Bool) (events : List Event) : Bool :=
  events.foldl Event.attentionAfter asserted

/-- How often attention was asserted, or released, on any port. -/
def edgesIn (asserted : Bool) (events : List Event) : Nat :=
  events.countP fun
    | .attention _ edge => edge == asserted
    | _ => false

/-- How many resets came while attention was asserted. -/
def resetsAmid : Bool → List Event → Nat
  | _, [] => 0
  | asserted, event :: events =>
    (if event = .reset ∧ asserted = true then 1 else 0) +
      resetsAmid (event.attentionAfter asserted) events

/-- Every event comes where it can happen: attention changes at each edge, bytes go over the wire
while it is asserted, and a reset may come at any time. In the end it is asserted or it is not. -/
inductive Wired : List Event → Bool → Prop where
  | nil : Wired [] false
  | reset {events : List Event} {asserted : Bool} (h : Wired events asserted) :
    Wired (events ++ [.reset]) false
  | edge {events : List Event} {asserted : Bool} (port : Port) (h : Wired events asserted) :
    Wired (events ++ [.attention port !asserted]) (!asserted)
  | byte {events : List Event} (port : Port) (sent received : UInt8) (h : Wired events true) :
    Wired (events ++ [.byte port sent received]) true

section History

variable {events : List Event} {asserted : Bool}

theorem attentionAfter_concat (asserted : Bool) (events : List Event) (event : Event) :
    attentionAfter asserted (events ++ [event]) =
      event.attentionAfter (attentionAfter asserted events) := by
  unfold attentionAfter
  rw [List.foldl_append]
  rfl

theorem edgesIn_concat (asserted : Bool) (events : List Event) (event : Event) :
    edgesIn asserted (events ++ [event]) = edgesIn asserted events + edgesIn asserted [event] :=
  List.countP_append

theorem resetsAmid_concat (event : Event) (events : List Event) : ∀ asserted : Bool,
    resetsAmid asserted (events ++ [event]) = resetsAmid asserted events +
      if event = .reset ∧ attentionAfter asserted events = true then 1 else 0 := by
  induction events with
  | nil => exact fun asserted => Nat.add_comm _ 0
  | cons first events ih =>
    intro asserted
    show _ + resetsAmid _ (events ++ [event]) = _
    rw [ih, ← Nat.add_assoc]
    rfl

theorem Wired.attentionAfter (h : Wired events asserted) :
    attentionAfter false events = asserted := by
  induction h with
  | nil => rfl
  | reset => exact attentionAfter_concat _ _ _
  | edge => exact attentionAfter_concat _ _ _
  | byte port sent received _ ih =>
    rw [attentionAfter_concat, ih]
    rfl

/-- Whatever led up to a byte left attention asserted. -/
theorem Wired.before_byte (h : Wired events asserted) {earlier : List Event} {port : Port}
    {sent received : UInt8} (hbyte : earlier ++ [.byte port sent received] <+: events) :
    ConsoleBus.attentionAfter false earlier = true := by
  -- The byte in question is the last event or lies before it.
  induction h with
  | nil => simp at hbyte
  | reset _ ih =>
    rcases List.prefix_concat_iff.mp hbyte with hlast | hbefore
    · simp at hlast
    · exact ih hbefore
  | edge _ _ ih =>
    rcases List.prefix_concat_iff.mp hbyte with hlast | hbefore
    · simp at hlast
    · exact ih hbefore
  | byte _ _ _ h ih =>
    rcases List.prefix_concat_iff.mp hbyte with hlast | hbefore
    · rw [(List.append_inj' hlast rfl).1]
      exact h.attentionAfter
    · exact ih hbefore

/-- Each assertion is undone by a release or by a reset, but for one that still lasts. -/
theorem Wired.edges (h : Wired events asserted) :
    edgesIn true events =
      edgesIn false events + resetsAmid false events + if asserted = true then 1 else 0 := by
  induction h with
  | nil => rfl
  | reset h ih =>
    rw [edgesIn_concat, edgesIn_concat, resetsAmid_concat, h.attentionAfter, ih]
    simp [edgesIn, Nat.add_assoc]
  | @edge events asserted port h ih =>
    rw [edgesIn_concat, edgesIn_concat, resetsAmid_concat, ih]
    cases asserted <;> simp [edgesIn, Nat.add_comm, Nat.add_left_comm]
  | byte port sent received h ih =>
    rw [edgesIn_concat, edgesIn_concat, resetsAmid_concat, ih]
    simp [edgesIn]

end History

/-! ## Uses -/

/-- One thing done to a simulated transceiver: a register access, or something from outside other
than to clear its log. -/
inductive Use where
  | access (a : Access)
  | handle (handling : Handling) (kept : handling ≠ .clearLog)

namespace Handling

theorem apply_received (handling : Handling) (s : Simulator) :
    (handling.apply s).received = s.received := by
  cases handling with
  | press port buttons => rw [apply_press_eq]
  | plug | setLatency | pass | clearLog => rfl

theorem apply_interruptReads (handling : Handling) (s : Simulator) (h : handling ≠ .clearLog) :
    (handling.apply s).interruptReads = s.interruptReads := by
  cases handling with
  | press port buttons => rw [apply_press_eq]
  | clearLog => exact absurd rfl h
  | plug | setLatency | pass => rfl

end Handling

/-- The transceiver afterwards. -/
def Use.apply : Use → Simulator → Simulator
  | access a, s => (s.access a).2
  | handle handling _, s => handling.apply s

namespace Simulator

/-- The transceiver after a number of uses, one after the other. -/
def after (s : Simulator) (uses : List Use) : Simulator :=
  uses.foldl (fun s use => use.apply s) s

/-! ## What always holds -/

/-- There is a packet on the wire just while attention is asserted, no strobe is stored, no more is
received than there is room for, and the log tells how attention came to be what it is. -/
structure Consistent (s : Simulator) : Prop where
  idle : s.stage = .idle ↔ s.attention = false
  strobeless : s.control.Strobeless
  received : s.received.length ≤ receiveCapacity
  wired : Wired s.log.history s.attention

variable {s t : Simulator}

theorem history_record (s : Simulator) (event : Event) :
    (s.record event).log.history = s.log.history ++ [event] := EventLog.history_record _ _

/-- How a byte can move the packet on. -/
theorem clockByte_stage (s : Simulator) (sent : UInt8) :
    (s.clockByte sent).2.stage = s.stage ∨
    (s.stage = .addressing ∧
      ((s.clockByte sent).2.stage = .unheard ∨ (s.clockByte sent).2.stage = .answering 0)) ∨
    ∃ index, s.stage = .answering index ∧
      (s.clockByte sent).2.stage = .answering (index + 1) := by
  unfold clockByte
  cases s.attention with
  | false => exact .inl rfl
  | true =>
    cases hstage : s.stage with
    | idle | unheard => exact .inl hstage
    | addressing =>
      refine .inr (.inl ⟨rfl, ?_⟩)
      cases s.devices.get s.port with
      | none => exact .inl rfl
      | some device =>
        by_cases haddress : device.address.byte = sent
        · simp [haddress, schedulePulse, setDevice]
        · simp [haddress]
    | answering index =>
      cases s.devices.get s.port with
      | none => exact .inl hstage
      | some device =>
        refine .inr (.inr ⟨index, rfl, ?_⟩)
        cases hmore : (device.exchange index sent).1.acknowledged <;>
          simp [hmore, schedulePulse, setDevice]

theorem clockByte_idle (s : Simulator) (sent : UInt8) :
    (s.clockByte sent).2.stage = .idle ↔ s.stage = .idle := by
  rcases clockByte_stage s sent with hsame | ⟨hbefore, hafter | hafter⟩ | ⟨_, hbefore, hafter⟩
  · rw [hsame]
  · simp [hbefore, hafter]
  · simp [hbefore, hafter]
  · simp [hbefore, hafter]

theorem carry_idle (s : Simulator) (sent : UInt8) :
    (s.carry sent).stage = .idle ↔ s.stage = .idle :=
  clockByte_idle s sent

/-- While attention is released, a byte comes back with all its bits set. -/
theorem writeData_released (h : s.attention = false) (sent : UInt8) :
    s.writeData sent = { s.deliverPulse with
      received := Bounded.push receiveCapacity s.received 0xFF } := by
  have hreleased : s.deliverPulse.attention = false :=
    (sameWire_deliverPulse s).attention.trans h
  have hclocked : s.deliverPulse.clockByte sent = (0xFF, s.deliverPulse) := by
    unfold clockByte
    simp only [hreleased, Bool.not_false, if_true]
  unfold writeData
  simp only [hclocked, hreleased, deliverPulse_received, Bool.false_eq_true, if_false]

theorem attention_switchedOn (now : Nat) (devices : PerPort (Option Device)) (latency : Nat) :
    (switchedOn now devices latency).attention = false := by
  show Flags.contains (Flags.empty : Control) Control.attention = false
  decide

theorem consistent_switchedOn (now : Nat) (devices : PerPort (Option Device)) (latency : Nat) :
    (switchedOn now devices latency).Consistent where
  idle := ⟨fun _ => attention_switchedOn now devices latency, fun _ => rfl⟩
  strobeless := Control.strobeless_empty
  received := Nat.zero_le _
  wired := by
    rw [attention_switchedOn]
    exact .nil

namespace Consistent

/-- Whatever leaves the wire alone does no harm, as long as it receives no more than fits. -/
theorem sameWire (h : s.Consistent) (hwire : SameWire s t)
    (hreceived : t.received.length ≤ receiveCapacity) : t.Consistent where
  idle := by
    rw [hwire.stage, hwire.attention]
    exact h.idle
  strobeless := by
    rw [hwire.control]
    exact h.strobeless
  received := hreceived
  wired := by
    rw [hwire.log, hwire.attention]
    exact h.wired

theorem deliverPulse (h : s.Consistent) : s.deliverPulse.Consistent := by
  refine h.sameWire (sameWire_deliverPulse s) ?_
  rw [deliverPulse_received]
  exact h.received

theorem reset (h : s.Consistent) : s.reset.Consistent where
  idle := ⟨fun _ => attention_reset s, fun _ => rfl⟩
  strobeless := Control.strobeless_empty
  received := Nat.zero_le _
  wired := by
    have hlog : s.reset.log.history = s.log.history ++ [.reset] := history_record _ _
    rw [hlog, attention_reset]
    exact h.wired.reset

theorem strobed (h : s.Consistent) (value : Control) : (s.strobed value).Consistent := by
  by_cases hreset : value.contains Control.reset = true
  · rw [strobed_of_reset hreset]
    exact h.deliverPulse.reset
  · rw [strobed_of_not_reset hreset]
    exact h.deliverPulse.sameWire ⟨rfl, rfl, rfl, rfl, rfl, rfl, rfl⟩ h.deliverPulse.received

/-- An edge of attention begins a packet or ends it, and is written down. -/
theorem settled (h : s.Consistent) {control : Control} (hcontrol : control.Strobeless) :
    (s.settled control).Consistent := by
  have hattention : (s.settled control).attention = control.contains Control.attention := by
    show (s.settled control).control.contains _ = _
    rw [settled_control]
  have hwire : ((s.settled control).stage = .idle ↔ control.contains Control.attention = false) ∧
      Wired (s.settled control).log.history (control.contains Control.attention) := by
    have hwired := h.wired
    rcases settled_cases control s with
      ⟨hlevel, hs⟩ | ⟨hbefore, hafter, hs⟩ | ⟨hbefore, hafter, hs⟩
    · rw [hs, hlevel]
      exact ⟨h.idle, h.wired⟩
    · rw [hbefore] at hwired
      rw [hs, hafter, history_record]
      exact ⟨by simp [record], hwired.edge _⟩
    · rw [hbefore] at hwired
      rw [hs, hafter, history_record]
      exact ⟨by simp [record], hwired.edge _⟩
  refine ⟨?_, ?_, ?_, ?_⟩
  · rw [hattention]
    exact hwire.1
  · rw [settled_control]
    exact hcontrol
  · rw [settled_received]
    exact h.received
  · rw [hattention]
    exact hwire.2

/-- A byte that goes out neither begins a packet nor ends it, and it is written down just while
attention is asserted. -/
theorem writeData (h : s.Consistent) (sent : UInt8) : (s.writeData sent).Consistent := by
  have hfits : (Bounded.push receiveCapacity s.received (s.heard sent)).length ≤
      receiveCapacity := Bounded.length_push_le _ h.received
  cases hattention : s.attention with
  | false =>
    rw [writeData_released hattention]
    exact h.deliverPulse.sameWire ⟨rfl, rfl, rfl, rfl, rfl, rfl, rfl⟩
      (Bounded.length_push_le _ h.received)
  | true =>
    rw [writeData_eq hattention]
    have hdelivered := h.deliverPulse
    have hasserted : s.deliverPulse.attention = true :=
      (sameWire_deliverPulse s).attention.trans hattention
    have hcarried : (s.deliverPulse.carry sent).attention = true := by
      unfold attention
      rw [carry_control]
      exact hasserted
    refine ⟨?_, ?_, hfits, ?_⟩
    · show (s.deliverPulse.carry sent).stage = .idle ↔ (s.deliverPulse.carry sent).attention = false
      rw [carry_idle, hcarried, ← hasserted]
      exact hdelivered.idle
    · show (s.deliverPulse.carry sent).control.Strobeless
      rw [carry_control]
      exact hdelivered.strobeless
    · have hwired := hdelivered.wired
      rw [hasserted] at hwired
      show Wired (s.deliverPulse.carry sent).log.history (s.deliverPulse.carry sent).attention
      rw [carry_log, EventLog.history_record, hcarried]
      exact hwired.byte _ _ _

theorem access (h : s.Consistent) (a : Access) : (s.access a).2.Consistent := by
  cases a with
  | readControl | readStatus => exact h.deliverPulse
  | writeControl value =>
    show (s.writeControl value).Consistent
    rw [writeControl_eq]
    exact (h.strobed value).settled (Control.strobeless_stored value)
  | writeMode | writeBaud => exact ⟨h.idle, h.strobeless, h.received, h.wired⟩
  | readData =>
    refine h.deliverPulse.sameWire ⟨rfl, rfl, rfl, rfl, rfl, rfl, rfl⟩ ?_
    show s.deliverPulse.received.tail.length ≤ receiveCapacity
    rw [List.length_tail]
    exact Nat.le_trans (Nat.sub_le _ _) h.deliverPulse.received
  | writeData byte => exact h.writeData byte
  | readInterrupt =>
    have hcounted : Consistent { s with interruptReads := s.interruptReads + 1 } :=
      ⟨h.idle, h.strobeless, h.received, h.wired⟩
    exact hcounted.deliverPulse
  | clearInterrupt =>
    exact h.deliverPulse.sameWire ⟨rfl, rfl, rfl, rfl, rfl, rfl, rfl⟩ h.deliverPulse.received

theorem handle (h : s.Consistent) {handling : Handling} (hkept : handling ≠ .clearLog) :
    (handling.apply s).Consistent := by
  obtain ⟨hcontrol, hstage, -⟩ := handling.apply_frame s
  have hattention : (handling.apply s).attention = s.attention := by
    unfold attention
    rw [hcontrol]
  refine ⟨?_, ?_, ?_, ?_⟩
  · rw [hstage, hattention]
    exact h.idle
  · rw [hcontrol]
    exact h.strobeless
  · rw [handling.apply_received]
    exact h.received
  · rw [handling.apply_log s hkept, hattention]
    exact h.wired

theorem use (h : s.Consistent) (use : Use) : (use.apply s).Consistent := by
  cases use with
  | access a => exact h.access a
  | handle handling hkept => exact h.handle hkept

theorem after (h : s.Consistent) (uses : List Use) : (s.after uses).Consistent := by
  induction uses generalizing s with
  | nil => exact h
  | cons use uses ih => exact ih (h.use use)

end Consistent

/-! ## Counters -/

/-- The place of the byte that a device answers next, if one takes part in the packet. -/
def place (s : Simulator) : Nat :=
  match s.stage with
  | .answering index => index
  | .idle | .addressing | .unheard => 0

/-- Both counters of the transceiver are moved on by one at most. -/
def CountsOn (s t : Simulator) : Prop :=
  t.place ≤ s.place + 1 ∧ t.interruptReads ≤ s.interruptReads + 1

theorem countsOn_of_eq (hstage : t.stage = s.stage) (hreads : t.interruptReads = s.interruptReads) :
    CountsOn s t := by
  unfold CountsOn place
  rw [hstage, hreads]
  exact ⟨Nat.le_succ _, Nat.le_succ _⟩

theorem countsOn_of_place (hplace : t.place = 0) (hreads : t.interruptReads = s.interruptReads) :
    CountsOn s t := by
  unfold CountsOn
  rw [hplace, hreads]
  exact ⟨Nat.zero_le _, Nat.le_succ _⟩

theorem countsOn_deliverPulse (s : Simulator) : CountsOn s s.deliverPulse :=
  countsOn_of_eq (sameWire_deliverPulse s).stage (deliverPulse_interruptReads s)

theorem countsOn_writeControl (s : Simulator) (value : Control) :
    CountsOn s (s.writeControl value) := by
  have hstrobed : (s.strobed value).interruptReads = s.interruptReads ∧
      ((s.strobed value).stage = s.stage ∨ (s.strobed value).stage = .idle) := by
    by_cases hreset : value.contains Control.reset = true
    · rw [strobed_of_reset hreset]
      exact ⟨deliverPulse_interruptReads s, .inr rfl⟩
    · rw [strobed_of_not_reset hreset]
      exact ⟨deliverPulse_interruptReads s, .inl (sameWire_deliverPulse s).stage⟩
  obtain ⟨hreads, hstage⟩ := hstrobed
  -- An edge leaves no device taking part, and without one the place stays what the strobes left.
  rw [writeControl_eq]
  generalize (value.diff Control.acknowledge).diff Control.reset = control
  rcases settled_cases control (s.strobed value) with ⟨-, hs⟩ | ⟨-, -, hs⟩ | ⟨-, -, hs⟩
  · rw [hs]
    rcases hstage with hsame | hidle
    · exact countsOn_of_eq hsame hreads
    · refine countsOn_of_place ?_ hreads
      simp [place, hidle]
  · rw [hs]
    exact countsOn_of_place rfl hreads
  · rw [hs]
    exact countsOn_of_place rfl hreads

theorem place_clockByte (s : Simulator) (sent : UInt8) :
    (s.clockByte sent).2.place ≤ s.place + 1 := by
  unfold place
  rcases clockByte_stage s sent with hsame | ⟨hbefore, hafter | hafter⟩ | ⟨_, hbefore, hafter⟩
  · rw [hsame]
    exact Nat.le_succ _
  · simp [hbefore, hafter]
  · simp [hbefore, hafter]
  · simp [hbefore, hafter]

theorem countsOn_writeData (s : Simulator) (sent : UInt8) : CountsOn s (s.writeData sent) := by
  cases hattention : s.attention with
  | false =>
    rw [writeData_released hattention]
    exact countsOn_deliverPulse s
  | true =>
    rw [writeData_eq hattention]
    have hplace : s.deliverPulse.place = s.place := by
      unfold place
      rw [(sameWire_deliverPulse s).stage]
    refine ⟨?_, ?_⟩
    · rw [← hplace]
      exact place_clockByte s.deliverPulse sent
    · show (s.deliverPulse.carry sent).interruptReads ≤ _
      rw [carry_interruptReads, deliverPulse_interruptReads]
      exact Nat.le_succ _

theorem countsOn_access (s : Simulator) (a : Access) : CountsOn s (s.access a).2 := by
  cases a with
  | readControl | readStatus | readData | clearInterrupt => exact countsOn_deliverPulse s
  | writeControl value => exact countsOn_writeControl s value
  | writeMode | writeBaud => exact countsOn_of_eq rfl rfl
  | writeData byte => exact countsOn_writeData s byte
  | readInterrupt =>
    let looking : Simulator := { s with interruptReads := s.interruptReads + 1 }
    have hplace : looking.deliverPulse.place = s.place := by
      unfold place
      rw [(sameWire_deliverPulse looking).stage]
    refine ⟨?_, Nat.le_of_eq (deliverPulse_interruptReads looking)⟩
    exact Nat.le_trans (Nat.le_of_eq hplace) (Nat.le_succ _)

theorem countsOn_use (s : Simulator) (use : Use) : CountsOn s (use.apply s) := by
  cases use with
  | access a => exact countsOn_access s a
  | handle handling kept =>
    exact countsOn_of_eq (handling.apply_frame s).2.1 (handling.apply_interruptReads s kept)

/-- In as many uses as a counter can tell, no counter runs out. -/
theorem counters_le (uses : List Use) : ∀ s : Simulator,
    (s.after uses).place ≤ s.place + uses.length ∧
      (s.after uses).interruptReads ≤ s.interruptReads + uses.length := by
  induction uses with
  | nil => exact fun s => ⟨Nat.le_refl _, Nat.le_refl _⟩
  | cons use uses ih =>
    intro s
    obtain ⟨hplace, hreads⟩ := countsOn_use s use
    obtain ⟨hplaces, hlooks⟩ := ih (use.apply s)
    have hlength : (use :: uses).length = uses.length + 1 := rfl
    have hafter : s.after (use :: uses) = (use.apply s).after uses := rfl
    rw [hafter]
    omega

end Simulator

end ConsoleBus

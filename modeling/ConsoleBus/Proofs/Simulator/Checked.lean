import ConsoleBus.Proofs.Lookups
import ConsoleBus.Proofs.Simulator.Usage
import Mathlib.Data.List.Infix

/-!
# No use of a simulated transceiver fails

Here a transceiver is used under supervision: a device that looks for a byte where there is none
makes the access fail, and so does a time that the clock of 64 bits cannot tell. From the moment
the transceiver is switched on nothing of the kind happens, whatever is done to it and whatever is
plugged in or out in the middle of a packet, as long as the clock itself does not run out.
-/

namespace ConsoleBus

theorem PerPort.set_get {α : Type} (values : PerPort α) (port : Port) :
    values.set port (values.get port) = values := by
  cases port <;> rfl

namespace Simulator

/-- The clock counts nanoseconds up to this number. -/
def clockLimit : Nat := 2 ^ 64

/-- The clock can tell when a pulse that sets out now comes due. -/
def OnClock (s : Simulator) : Prop := s.now + s.latency < clockLimit

/-! ## Checked accesses -/

/-- A pulse sets out, if the clock can tell when it comes due. -/
def schedulePulse? (s : Simulator) : Option Simulator :=
  if s.now + s.latency < clockLimit then some s.schedulePulse else none

/-- A byte goes out, and the device that answers it checks its lookups. -/
def clockByte? (s : Simulator) (sent : UInt8) : Option (UInt8 × Simulator) :=
  if !s.attention then some (0xFF, s) else
  match s.stage, s.devices.get s.port with
  | .addressing, some device =>
    if device.address.byte = sent then
      (({ s with stage := .answering 0 }.setDevice s.port device.start).schedulePulse?).map
        fun s => (0xFF, s)
    else
      some (0xFF, { s with stage := .unheard })
  | .addressing, none => some (0xFF, { s with stage := .unheard })
  | .answering index, some device => do
    let (answer, device) ← device.exchange? index sent
    let s := { s with stage := .answering (index + 1) }.setDevice s.port device
    if answer.acknowledged then
      return (answer.byte, ← s.schedulePulse?)
    else
      return (answer.byte, s)
  | .answering _, none | .idle, _ | .unheard, _ => some (0xFF, s)

/-- What is plugged in, once a packet on a port is over for a device that checks its lookups. -/
def devicesAfter? (s : Simulator) (port : Port) : Option (PerPort (Option Device)) :=
  match s.stage, s.devices.get port with
  | .answering _, some device =>
    device.finish?.map fun device => s.devices.set port (some device)
  | _, _ => some s.devices

/-- Store a value without strobes, with checks at the end of a packet. -/
def settled? (control : Control) (s : Simulator) : Option Simulator :=
  let after := { s with control }
  if !s.attention && after.attention then
    some ({ after with stage := .addressing }.record (.attention after.port true))
  else if s.attention && !after.attention then do
    let devices ← s.devicesAfter? s.port
    return { after with stage := .idle, devices }.record (.attention s.port false)
  else
    some after

/-- Write the control register, with checks. -/
def writeControl? (s : Simulator) (value : Control) : Option Simulator :=
  (s.strobed value).settled? ((value.diff Control.acknowledge).diff Control.reset)

/-- Send a byte, with checks. -/
def writeData? (s : Simulator) (sent : UInt8) : Option Simulator := do
  let s := s.deliverPulse
  let (received, after) ← s.clockByte? sent
  let after := { after with received := Bounded.push receiveCapacity after.received received }
  return if s.attention then after.record (.byte s.port sent received) else after

/-- Carry out one register access, with checks. Where no device takes part there is nothing to
check. -/
def access? : (a : Access) → Simulator → Option (a.Answer × Simulator)
  | .writeControl value, s => (s.writeControl? value).map fun s => ((), s)
  | .writeData byte, s => (s.writeData? byte).map fun s => ((), s)
  | a, s => some (s.access a)

end Simulator

/-- The transceiver after a use of it, with checks. The clock must not pass its limit either. -/
def Use.attempt? : Use → Simulator → Option Simulator
  | access a, s => (s.access? a).map Prod.snd
  | handle handling _, s =>
    if (handling.apply s).now < Simulator.clockLimit then some (handling.apply s) else none

namespace Simulator

/-- The transceiver after a number of uses, if none of them fails. -/
def after? (s : Simulator) (uses : List Use) : Option Simulator :=
  uses.foldlM (fun s use => use.attempt? s) s

variable {s : Simulator}

/-! ## The checks never fail -/

theorem schedulePulse?_eq (h : s.OnClock) : s.schedulePulse? = some s.schedulePulse :=
  if_pos h

theorem clockByte?_eq (h : s.OnClock) (sent : UInt8) :
    s.clockByte? sent = some (s.clockByte sent) := by
  unfold clockByte? clockByte
  cases s.attention with
  | false => rfl
  | true =>
    cases s.stage with
    | idle | unheard => rfl
    | addressing =>
      cases s.devices.get s.port with
      | none => rfl
      | some device =>
        have hstarted : OnClock ({ s with stage := .answering 0 }.setDevice s.port device.start) := h
        by_cases haddress : device.address.byte = sent
        · simp [haddress, schedulePulse?_eq hstarted]
        · simp [haddress]
    | answering index =>
      cases s.devices.get s.port with
      | none => rfl
      | some device =>
        have hcarried : OnClock ({ s with stage := .answering (index + 1) }.setDevice s.port
          (device.exchange index sent).2) := h
        cases hmore : (device.exchange index sent).1.acknowledged with
        | false => simp [Device.exchange?_eq, hmore]
        | true => simp [Device.exchange?_eq, hmore, schedulePulse?_eq hcarried]

theorem devicesAfter?_eq (s : Simulator) (port : Port) :
    s.devicesAfter? port = some (s.devicesAfter port) := by
  unfold devicesAfter? devicesAfter
  cases s.stage with
  | idle | addressing | unheard => rfl
  | answering index =>
    cases hplugged : s.devices.get port with
    | none =>
      have hsame := PerPort.set_get s.devices port
      rw [hplugged] at hsame
      exact congrArg some hsame.symm
    | some device => simp [Device.finish?_eq]

theorem settled?_eq (control : Control) (s : Simulator) :
    s.settled? control = some (s.settled control) := by
  unfold settled? settled
  rw [devicesAfter?_eq]
  dsimp only
  split
  · rfl
  · split <;> rfl

theorem writeControl?_eq (s : Simulator) (value : Control) :
    s.writeControl? value = some (s.writeControl value) := by
  unfold writeControl?
  rw [settled?_eq, writeControl_eq]

theorem OnClock.deliverPulse (h : s.OnClock) : s.deliverPulse.OnClock := by
  unfold OnClock
  rw [deliverPulse_now, (sameWire_deliverPulse s).latency]
  exact h

theorem writeData?_eq (h : s.OnClock) (sent : UInt8) :
    s.writeData? sent = some (s.writeData sent) := by
  unfold writeData? writeData
  simp only [clockByte?_eq h.deliverPulse]
  rfl

theorem access?_eq (h : s.OnClock) (a : Access) : s.access? a = some (s.access a) := by
  cases a with
  | writeControl value =>
    show (s.writeControl? value).map _ = _
    rw [writeControl?_eq]
    rfl
  | writeData byte =>
    show (s.writeData? byte).map _ = _
    rw [writeData?_eq h]
    rfl
  | readControl | writeMode | writeBaud | readStatus | readData | readInterrupt
  | clearInterrupt => rfl

theorem attempt?_eq (use : Use) (h : s.OnClock) (hafter : (use.apply s).OnClock) :
    use.attempt? s = some (use.apply s) := by
  cases use with
  | access a =>
    show (s.access? a).map _ = _
    rw [access?_eq h]
    rfl
  | handle handling kept =>
    have hnow : (handling.apply s).now < clockLimit :=
      Nat.lt_of_le_of_lt (Nat.le_add_right _ _) hafter
    exact if_pos hnow

theorem after?_eq (uses : List Use) : ∀ s : Simulator,
    (∀ earlier, earlier <+: uses → (s.after earlier).OnClock) →
      s.after? uses = some (s.after uses) := by
  induction uses with
  | nil => exact fun s _ => rfl
  | cons use uses ih =>
    intro s h
    have hbefore : s.OnClock := h [] List.nil_prefix
    have hafter : (use.apply s).OnClock := h [use] ⟨uses, rfl⟩
    have hrest := ih (use.apply s) fun earlier hearlier =>
      h (use :: earlier) (List.cons_prefix_cons.mpr ⟨rfl, hearlier⟩)
    show (use.attempt? s).bind _ = _
    rw [attempt?_eq use hbefore hafter]
    exact hrest

/-- From the moment a transceiver is switched on, no use of it ever fails, as long as the clock can
tell the time of every pulse. There is a packet just while attention is asserted, no strobe is ever
stored and no more than fits is received. In the history, bytes come only while attention is
asserted, and each assertion is undone by a release or by a reset, but for one that still lasts.
The place in a packet and the number of looks at the interrupt do not outgrow the number of
uses. -/
theorem any_use_consistent (now : Nat) (devices : PerPort (Option Device)) (latency : Nat)
    (uses : List Use)
    (hclock : ∀ earlier, earlier <+: uses →
      ((switchedOn now devices latency).after earlier).OnClock) :
    ∃ s, (switchedOn now devices latency).after? uses = some s ∧
      s = (switchedOn now devices latency).after uses ∧
      (s.stage = .idle ↔ s.attention = false) ∧
      s.control.contains Control.acknowledge = false ∧
      s.control.contains Control.reset = false ∧
      s.received.length ≤ receiveCapacity ∧
      attentionAfter false s.log.history = s.attention ∧
      (∀ earlier port sent received,
        earlier ++ [.byte port sent received] <+: s.log.history →
          attentionAfter false earlier = true) ∧
      edgesIn true s.log.history =
        edgesIn false s.log.history + resetsAmid false s.log.history +
          (if s.attention = true then 1 else 0) ∧
      s.place ≤ uses.length ∧ s.interruptReads ≤ uses.length := by
  have hstart := consistent_switchedOn now devices latency
  have hafter := hstart.after uses
  obtain ⟨hplace, hreads⟩ := counters_le uses (switchedOn now devices latency)
  refine ⟨_, after?_eq uses _ hclock, rfl, hafter.idle, hafter.strobeless.acknowledge,
    hafter.strobeless.reset, hafter.received, hafter.wired.attentionAfter,
    fun earlier port sent received hbyte => hafter.wired.before_byte hbyte, hafter.wired.edges,
    ?_, ?_⟩
  · exact Nat.le_trans hplace (Nat.le_of_eq (Nat.zero_add _))
  · exact Nat.le_trans hreads (Nat.le_of_eq (Nat.zero_add _))

/-- A pad is addressed on the second port, and a card takes its place in the middle of the packet.
The card is asked to remember a game and told of the end of a packet that it did not see the start
of. In the next packet the transceiver is reset by a write that asserts attention again, and that
sets a bit without a name besides. -/
def roughUses : List Use :=
  [.access (.writeControl ⟨0x3007⟩), .access (.writeData 0x01), .access (.writeData 0x42),
    .handle (.plug .two (some (.storageCard (.blank true)))) (by decide),
    .access (.writeData 0x21), .handle (.pass 2000) (by decide), .access (.writeData 0x00),
    .handle (.setLatency ⟨7, .micros⟩) (by decide), .access (.writeData 0xFF),
    .access (.writeControl ⟨0x2005⟩), .access (.writeControl ⟨0x2007⟩),
    .access (.writeControl ⟨0x8042⟩), .access .readInterrupt, .access (.writeData 0x81)]

theorem any_use_consistent_rough :
    ∃ s, (switchedOn 5 ⟨none, some (.gamepad ⟨⟨0x4000⟩, none⟩)⟩ 1000).after? roughUses = some s ∧
      s.attention = true ∧
      edgesIn true s.log.history = edgesIn false s.log.history +
        resetsAmid false s.log.history + 1 := by
  have hclock : ∀ earlier ∈ roughUses.inits,
      ((switchedOn 5 ⟨none, some (.gamepad ⟨⟨0x4000⟩, none⟩)⟩ 1000).after earlier).now +
        ((switchedOn 5 ⟨none, some (.gamepad ⟨⟨0x4000⟩, none⟩)⟩ 1000).after earlier).latency <
          clockLimit := by decide
  obtain ⟨s, hs, heq, -, -, -, -, -, -, hedges, -⟩ := any_use_consistent 5
    ⟨none, some (.gamepad ⟨⟨0x4000⟩, none⟩)⟩ 1000 roughUses fun earlier hearlier =>
      hclock earlier ((List.mem_inits _ _).mpr hearlier)
  have hattention : s.attention = true := by
    rw [heq]
    decide
  rw [if_pos hattention] at hedges
  exact ⟨s, hs, hattention, hedges⟩

end Simulator

end ConsoleBus

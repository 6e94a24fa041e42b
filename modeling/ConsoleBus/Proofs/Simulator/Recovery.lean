import ConsoleBus.Proofs.Simulator.Lockstep

/-!
# Setting up again

The bus can be set up at any time, even in the middle of a packet. What went on before cannot be
told afterwards: neither what was left unread, nor a pulse that was on its way, nor the bytes of a
packet that a device did not get to the end of. A device clears those when it hears its address
again, and until then nobody asks it anything.
-/

namespace ConsoleBus

namespace Device

/-- The devices differ at most in the bytes of the packet that they heard last. -/
def Alike : Device → Device → Prop
  | gamepad pad, gamepad other => pad = other
  | storageCard card, storageCard other =>
    card.takesGameIds = other.takesGameIds ∧ card.gameId = other.gameId
  | script s, script other =>
    s.address = other.address ∧ s.replies = other.replies ∧
      s.acknowledgements = other.acknowledgements
  | _, _ => False

variable {device other : Device}

/-- Devices are alike if the start of a packet makes them the same. -/
theorem alike_iff_start_eq : device.Alike other ↔ device.start = other.start := by
  cases device with
  | gamepad pad =>
    cases other with
    | gamepad => exact gamepad.injEq _ _ ▸ Iff.rfl
    | storageCard | script => exact ⟨False.elim, fun h => nomatch h⟩
  | storageCard card =>
    cases other with
    | gamepad | script => exact ⟨False.elim, fun h => nomatch h⟩
    | storageCard =>
      simp only [Alike, start, StorageCard.start, storageCard.injEq, StorageCard.mk.injEq,
        true_and]
  | script s =>
    cases other with
    | gamepad | storageCard => exact ⟨False.elim, fun h => nomatch h⟩
    | script =>
      simp only [Alike, start, Script.start, script.injEq, Script.mk.injEq, and_true]

theorem start_start : device.start.start = device.start := by cases device <;> rfl

theorem address_start : device.start.address = device.address := by cases device <;> rfl

theorem rel_alike_iff {a b : Option Device} :
    Option.Rel Alike a b ↔ a.map start = b.map start := by
  constructor
  · rintro (⟨h⟩ | _)
    · exact congrArg some (alike_iff_start_eq.mp h)
    · rfl
  · intro h
    cases a with
    | none =>
      cases b with
      | none => exact .none
      | some => cases h
    | some device =>
      cases b with
      | none => cases h
      | some other => exact .some (alike_iff_start_eq.mpr (Option.some.inj h))

end Device

namespace Simulator

/-! ## A transceiver that does what another does, but later -/

/-- The second transceiver does what the first one does, a while later and with more in its
history. Devices may differ in what they heard before, but not while they answer. -/
structure Echoes (delay : Nat) (past : List Event) (asserted : Bool) (s t : Simulator) : Prop where
  attention : s.attention = asserted
  strobeless : s.control.Strobeless
  control : t.control = s.control
  received : t.received = s.received
  interrupt : t.interrupt = s.interrupt
  latched : t.latched = s.latched
  latency : t.latency = s.latency
  stage : t.stage = s.stage
  now : t.now = s.now + delay
  pulse : t.pulse = s.pulse.map (· + delay)
  history : t.log.history = past ++ s.log.history
  alike : ∀ port, (t.devices.get port).map Device.start = (s.devices.get port).map Device.start
  answering : asserted = true → ∀ index, s.stage = .answering index →
    t.devices.get s.port = s.devices.get s.port

variable {delay : Nat} {past : List Event} {asserted : Bool} {s t : Simulator}

theorem Echoes.port (h : Echoes delay past asserted s t) : t.port = s.port := by
  unfold Simulator.port
  rw [h.control]

theorem Echoes.steady (h : Echoes delay past asserted s t) :
    s.Steady asserted ∧ t.Steady asserted := by
  refine ⟨⟨h.attention, h.strobeless⟩, ?_, h.control ▸ h.strobeless⟩
  unfold Simulator.attention
  rw [h.control]
  exact h.attention

theorem Echoes.deliverPulse (h : Echoes delay past asserted s t) :
    Echoes delay past asserted s.deliverPulse t.deliverPulse := by
  have hpulse := h.pulse
  cases hs : s.pulse with
  | none =>
    rw [hs] at hpulse
    rw [deliverPulse_eq_self (noneDue_of_none hs), deliverPulse_eq_self (noneDue_of_none hpulse)]
    exact h
  | some due =>
    rw [hs] at hpulse
    have hsame : t.now < due + delay ↔ s.now < due := by
      rw [h.now]
      omega
    unfold Simulator.deliverPulse
    rw [hpulse, hs]
    simp only [Option.map_some, hsame, h.control, h.latched]
    split
    · exact h
    · split
      · exact { h with control := rfl, pulse := rfl, latched := rfl, interrupt := rfl }
      · exact { h with control := rfl, pulse := rfl, latched := rfl }

theorem Echoes.pass (h : Echoes delay past asserted s t) (nanos : Nat) :
    Echoes delay past asserted (s.pass nanos) (t.pass nanos) :=
  { h with now := by show t.now + nanos = s.now + nanos + delay; rw [h.now]; omega }

theorem alike_set {devices others : PerPort (Option Device)}
    (h : ∀ port, (others.get port).map Device.start = (devices.get port).map Device.start)
    (port : Port) (device : Option Device) : ∀ other,
      ((others.set port device).get other).map Device.start =
        ((devices.set port device).get other).map Device.start := by
  intro other
  by_cases hport : other = port
  · rw [hport, PerPort.get_set, PerPort.get_set]
  · rw [PerPort.get_set_of_ne _ _ hport, PerPort.get_set_of_ne _ _ hport, h other]

/-- A byte finds whoever listens in the same state on both sides. -/
theorem Echoes.clockByte (h : Echoes delay past true s t) (sent : UInt8) :
    (t.clockByte sent).1 = (s.clockByte sent).1 ∧
      Echoes delay past true (s.clockByte sent).2 (t.clockByte sent).2 := by
  have hlater : some (t.now + t.latency) = (some (s.now + s.latency)).map (· + delay) := by
    rw [h.now, h.latency, Nat.add_right_comm]
    rfl
  unfold Simulator.clockByte
  rw [h.steady.2.attention, h.attention, h.stage, h.port]
  simp only [Bool.not_true, Bool.false_eq_true, if_false]
  cases hstage : s.stage with
  | idle | unheard => exact ⟨rfl, h⟩
  | addressing =>
    have halike := h.alike s.port
    cases hs : s.devices.get s.port with
    | none =>
      cases ht : t.devices.get s.port with
      | none => exact ⟨rfl, { h with stage := rfl, answering := fun _ _ hstage => nomatch hstage }⟩
      | some => rw [hs, ht] at halike; cases halike
    | some device =>
      cases ht : t.devices.get s.port with
      | none => rw [hs, ht] at halike; cases halike
      | some other =>
        rw [hs, ht] at halike
        have hstart : other.start = device.start := Option.some.inj halike
        have haddress : other.address = device.address := by
          rw [← Device.address_start, hstart, Device.address_start]
        simp only [haddress, hstart]
        split
        · refine ⟨rfl, { h with stage := rfl, pulse := hlater, alike := ?_, answering := ?_ }⟩
          · exact alike_set h.alike s.port (some device.start)
          · intro _ _ _
            show (t.devices.set s.port _).get s.port = (s.devices.set s.port _).get s.port
            rw [PerPort.get_set, PerPort.get_set]
        · exact ⟨rfl, { h with stage := rfl, answering := fun _ _ hstage => nomatch hstage }⟩
  | answering index =>
    have hsame := h.answering rfl index hstage
    rw [hsame]
    cases hs : s.devices.get s.port with
    | none => exact ⟨rfl, h⟩
    | some device =>
      have hexchanged : Echoes delay past true
          ({ s with stage := .answering (index + 1) }.setDevice s.port
            (some (device.exchange index sent).2))
          ({ t with stage := .answering (index + 1) }.setDevice s.port
            (some (device.exchange index sent).2)) := by
        refine { h with stage := rfl, alike := ?_, answering := ?_ }
        · exact alike_set h.alike s.port _
        · intro _ _ _
          show (t.devices.set s.port _).get s.port = (s.devices.set s.port _).get s.port
          rw [PerPort.get_set, PerPort.get_set]
      dsimp only
      split
      · exact ⟨rfl, { hexchanged with pulse := hlater }⟩
      · exact ⟨rfl, hexchanged⟩

theorem Echoes.record (h : Echoes delay past asserted s t) (event : Event) :
    Echoes delay past asserted (s.record event) (t.record event) := by
  refine { h with history := ?_ }
  show (t.log.record event).history = past ++ (s.log.record event).history
  rw [EventLog.history_record, EventLog.history_record, h.history, List.append_assoc]

theorem Echoes.heard (h : Echoes delay past true s t) (sent : UInt8) :
    t.heard sent = s.heard sent :=
  (h.clockByte sent).1

theorem Echoes.carry (h : Echoes delay past true s t) (sent : UInt8) :
    Echoes delay past true (s.carry sent) (t.carry sent) := by
  unfold Simulator.carry
  rw [h.heard, h.port]
  exact (h.clockByte sent).2.record _

theorem Echoes.withAttention (h : Echoes delay past false s t) :
    Echoes delay past true s.withAttention t.withAttention := by
  unfold Simulator.withAttention
  rw [h.port]
  refine Echoes.record ?_ _
  exact { h with
    attention := contains_attention_union s
    strobeless := h.steady.1.union_attention
    control := congrArg (fun control => control.union Control.attention) h.control
    stage := rfl
    answering := fun _ _ hstage => nomatch hstage }

theorem Echoes.withoutAttention (h : Echoes delay past true s t) :
    Echoes delay past false s.withoutAttention t.withoutAttention := by
  have halike : ∀ port, ((t.devicesAfter s.port).get port).map Device.start =
      ((s.devicesAfter s.port).get port).map Device.start := by
    unfold devicesAfter
    rw [h.stage]
    cases hstage : s.stage with
    | idle | addressing | unheard => exact h.alike
    | answering index =>
      dsimp only
      rw [h.answering rfl index hstage]
      exact alike_set h.alike s.port _
  unfold Simulator.withoutAttention
  rw [h.port]
  refine Echoes.record ?_ _
  exact { h with
    attention := contains_attention_diff s
    strobeless := h.steady.1.diff_attention
    control := congrArg (fun control => control.diff Control.attention) h.control
    stage := rfl
    alike := halike
    answering := fun hfalse => nomatch hfalse }

theorem Echoes.selected (h : Echoes delay past false s t) (port : Port) :
    Echoes delay past false (s.selected port) (t.selected port) := by
  have hselected := steady_selected port h.steady.1
  exact { h.deliverPulse with
    attention := hselected.attention
    strobeless := hselected.strobeless
    control := congrArg (Control.route port) h.control
    answering := fun hfalse => nomatch hfalse }

theorem lockstep_echoes (delay : Nat) (past : List Event) : Lockstep (Echoes delay past) where
  steady h := h.steady
  interrupt h := h.interrupt
  received h := h.received
  heard h := h.heard
  delivered h := h.deliverPulse
  passed h := h.pass
  counted h := { h with }
  cleared h := { h with interrupt := rfl, latched := rfl }
  stored h _ := { h with received := rfl }
  carried h := h.carry
  raised h := h.withAttention
  lowered h := h.withoutAttention

/-! ## What can be told of a run -/

/-- All that can be told of a command: its outcome, what went over the wire and how long it took. -/
structure Report where
  outcome : Outcome
  events : List Event
  elapsed : Nat
  deriving DecidableEq

/-- Carry out a command and report what can be told of it. -/
def report (command : Command) : Bus Simulator Report := fun config s =>
  ((command.run : Bus Simulator Outcome) config s).map fun (outcome, t) =>
    (⟨outcome, t.log.history.drop s.log.history.length, t.now - s.now⟩, t)

/-- A report does not depend on when it was made. -/
theorem report_together (config : Config) (delay : Nat) (past : List Event) (command : Command) :
    Together config (Echoes delay past false) (report command) := by
  intro s t h
  obtain ⟨outcome, s', t', hs, ht, h'⟩ := (lockstep_echoes delay past).command
    (fun _ _ port h => h.selected port) config command s t h
  have hevents : t'.log.history.drop t.log.history.length =
      s'.log.history.drop s.log.history.length := by
    rw [h'.history, h.history, List.length_append, ← List.drop_drop, List.drop_left]
  have helapsed : t'.now - t.now = s'.now - s.now := by
    rw [h'.now, h.now]
    omega
  refine ⟨⟨outcome, s'.log.history.drop s.log.history.length, s'.now - s.now⟩, s', t', ?_, ?_, h'⟩
  · unfold report
    rw [hs]
    rfl
  · rw [← hevents, ← helapsed]
    unfold report
    rw [ht]
    rfl

/-! ## Setting up -/

/-- What is plugged in, with all packets that were heard before forgotten. -/
def started (s : Simulator) : PerPort (Option Device) :=
  ⟨s.devices.one.map Device.start, s.devices.two.map Device.start⟩

/-- A transceiver that was just set up on a bus where nothing ever happened. -/
def pristine (latency : Nat) (devices : PerPort (Option Device)) : Simulator :=
  { switchedOn 0 devices latency with control := Control.driven .one false }

theorem echoes_restarted (config : Config) (s : Simulator) :
    Echoes s.now (s.log.history ++ [.reset]) false (pristine s.latency s.started)
      (s.restarted config) := by
  refine ⟨Control.contains_attention_driven .one false, Control.strobeless_driven .one false, rfl,
    rfl, rfl, rfl, restarted_latency config s, rfl, ?_, rfl, ?_, ?_, fun hfalse => nomatch hfalse⟩
  · show s.deliverPulse.now = 0 + s.now
    rw [deliverPulse_now, Nat.zero_add]
  · show (s.deliverPulse.log.record .reset).history = _
    rw [EventLog.history_record, (sameWire_deliverPulse s).log]
    exact (List.append_nil _).symm
  · intro port
    rw [restarted_devices]
    show _ = (s.started.get port).map Device.start
    cases port
    all_goals
      show _ = Option.map Device.start (Option.map Device.start _)
      rw [Option.map_map]
      exact congrArg (fun f => Option.map f _) (funext fun device => Device.start_start.symm)

/-- Whatever was going on before, after it is set up a transceiver does what a pristine one does. -/
theorem restarted_reports (config : Config) (s : Simulator) (commands : List Command) :
    ∃ reports s₂ u,
      (commands.mapM report : Bus Simulator (List Report)) config (s.restarted config) =
        some (reports, s₂) ∧
      (commands.mapM report : Bus Simulator (List Report)) config
        (pristine s.latency s.started) = some (reports, u) ∧
      ∀ port, (s₂.devices.get port).map Device.start = (u.devices.get port).map Device.start := by
  have htogether := Together.mapM (report_together config s.now (s.log.history ++ [.reset]))
    commands
  obtain ⟨reports, u, s₂, hpristine, hrestarted, h⟩ := htogether _ _ (echoes_restarted config s)
  exact ⟨reports, s₂, u, hrestarted, hpristine, h.alike⟩

/-- Setting up recovers from anything. Two transceivers with the same latency, whose devices differ
at most in what they heard of their last packet, may otherwise be in any two states. Setting up
tells nothing to any device, and from then on nothing that is told of the same commands tells the
two apart: no outcome, no event on the wire, no length of time, and no game identifier. -/
theorem setUp_recovers (config : Config) {s t : Simulator} (hlatency : t.latency = s.latency)
    (halike : ∀ port, Option.Rel Device.Alike (s.devices.get port) (t.devices.get port))
    (commands : List Command) :
    ∃ s₁ t₁ reports s₂ t₂,
      (Bus.setUp : Bus Simulator Unit) config s = some ((), s₁) ∧
      (Bus.setUp : Bus Simulator Unit) config t = some ((), t₁) ∧
      s₁.devices = s.devices ∧ t₁.devices = t.devices ∧
      (commands.mapM report : Bus Simulator (List Report)) config s₁ = some (reports, s₂) ∧
      (commands.mapM report : Bus Simulator (List Report)) config t₁ = some (reports, t₂) ∧
      ∀ port, Option.Rel Device.Alike (s₂.devices.get port) (t₂.devices.get port) := by
  have hstarted : t.started = s.started := by
    have hstart : ∀ port, (t.devices.get port).map Device.start =
        (s.devices.get port).map Device.start :=
      fun port => (Device.rel_alike_iff.mp (halike port)).symm
    unfold started
    exact congr (congrArg PerPort.mk (hstart .one)) (hstart .two)
  obtain ⟨reports, s₂, u, hs, hpristine, hsalike⟩ := restarted_reports config s commands
  obtain ⟨reports', t₂, u', ht, hpristine', htalike⟩ := restarted_reports config t commands
  rw [hlatency, hstarted, hpristine] at hpristine'
  cases hpristine'
  refine ⟨_, _, reports, s₂, t₂, setUp_run config s, setUp_run config t,
    restarted_devices config s, restarted_devices config t, hs, ht, fun port => ?_⟩
  rw [Device.rel_alike_iff, hsalike, htalike]

/-- A transceiver in the middle of a packet that tells the card on the first port which game is
running. -/
def interrupted : Simulator :=
  { switchedOn 70000 ⟨some (.storageCard ⟨true, [0x21, 0x00, 0x05], some "SLUS"⟩), none⟩ 0 with
    control := Control.driven .one true
    received := [0x00, 0x00]
    interrupt := true
    latched := true
    pulse := some 70000
    stage := .answering 3 }

/-- A transceiver that was just switched on, with a card that was told the same as the one that was
interrupted. -/
def uninterrupted : Simulator :=
  switchedOn 0 ⟨some (.storageCard ⟨true, [], some "SLUS"⟩), none⟩ 0

theorem setUp_recovers_interrupted :
    ∃ s₁ t₁ reports s₂ t₂,
      (Bus.setUp : Bus Simulator Unit) .standard interrupted = some ((), s₁) ∧
      (Bus.setUp : Bus Simulator Unit) .standard uninterrupted = some ((), t₁) ∧
      s₁.devices = interrupted.devices ∧
      (([.presence, .broadcast "SCES" ⟨0b01⟩] : List Command).mapM report :
        Bus Simulator (List Report)) .standard s₁ = some (reports, s₂) ∧
      (([.presence, .broadcast "SCES" ⟨0b01⟩] : List Command).mapM report :
        Bus Simulator (List Report)) .standard t₁ = some (reports, t₂) := by
  have hlatency : uninterrupted.latency = interrupted.latency := rfl
  have halike : ∀ port,
      Option.Rel Device.Alike (interrupted.devices.get port) (uninterrupted.devices.get port) := by
    intro port
    cases port with
    | one => exact .some ⟨rfl, rfl⟩
    | two => exact .none
  obtain ⟨s₁, t₁, reports, s₂, t₂, hs, ht, hdevices, -, hsreports, htreports, -⟩ :=
    setUp_recovers .standard hlatency halike [.presence, .broadcast "SCES" ⟨0b01⟩]
  exact ⟨s₁, t₁, reports, s₂, t₂, hs, ht, hdevices, hsreports, htreports⟩

end Simulator

end ConsoleBus

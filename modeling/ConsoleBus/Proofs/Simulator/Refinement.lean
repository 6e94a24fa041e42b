import ConsoleBus.Proofs.Program
import ConsoleBus.Proofs.Simulator.Answers
import ConsoleBus.Proofs.Simulator.Session

/-!
# A simulated transceiver is an instant bus

Between commands the transceiver is at rest, and whatever pulse is still on its way comes due
before the next exchange clears the interrupt. This is kept by every call, every command and every
whole session, and so the bus over the simulated transceiver answers what an instant bus answers,
as long as no acknowledge is later than a wait looks for it or than the pause between packets.
-/

namespace ConsoleBus

/-- Acknowledges after `latency` nanoseconds are seen by a wait, and do not outlast the pause that
follows a packet that is sent blindly. -/
structure Config.Tolerates (config : Config) (latency : Nat) : Prop where
  seen : latency ≤ config.lastLook * 1000
  settled : latency ≤ config.settling * 1000

namespace Simulator

variable {s : Simulator} {instant : Instant} {config : Config}

/-- The transceiver is at rest, with the port selected and the devices plugged in that the instant
bus has, and no pulse is left to be mistaken for another. -/
structure Refines (config : Config) (instant : Instant) (s : Simulator) : Prop where
  rests : Rests instant.selected s
  devices : s.devices = instant.devices
  tolerates : config.Tolerates s.latency
  within : s.Within (clampMicros config.preDelay * 1000)

/-! ## Single calls -/

theorem Refines.selectPort (h : Refines config instant s) (port : Port) :
    ∃ t, (Bus.selectPort port : Bus Simulator Unit) config s = some ((), t) ∧
      Refines config { instant with selected := port } t := by
  have hpassed := passed_deliverPulse s
  have hwithin := h.within.passed hpassed
  exact ⟨_, selectPort_run h.rests.control port, ⟨rfl, hpassed.wire.stage.trans h.rests.stage⟩,
    hpassed.wire.devices.trans h.devices, hpassed.wire.latency.symm ▸ h.tolerates,
    fun due hdue => hwithin due hdue⟩

/-- The device that listens, or none, is the same on both sides. -/
theorem Refines.listener (h : Refines config instant s) (address : Address) :
    s.listener address = instant.listener address := by
  unfold Simulator.listener Instant.listener
  rw [port_of_driven h.rests.control, h.devices]

/-- What is left after an exchange that ended quietly. -/
theorem Refines.exchanged (h : Refines config instant s) {t : Simulator} {address : Address}
    {request buffer : List UInt8} {reply : Reply} (after : Instant)
    (hselected : after.selected = instant.selected)
    (hrun : (Bus.exchange address request buffer : Bus Simulator Reply) config s = some (reply, t))
    (hquiet : t.Quiet) (hlatency : t.latency = s.latency) (hdevices : t.devices = after.devices) :
    Refines config after t := by
  obtain ⟨_, u, hsent, hsends⟩ := exchange_sends config h.rests address request buffer
  obtain ⟨-, rfl⟩ := Bus.run_unique hrun hsent
  exact ⟨hselected ▸ hsends.rests, hdevices, hlatency ▸ h.tolerates, hquiet.within _⟩

theorem Refines.exchange (htimeout : 0 < config.timeout) (h : Refines config instant s)
    (address : Address) (request buffer : List UInt8) :
    ∃ t, (Bus.exchange address request buffer : Bus Simulator Reply) config s =
      some ((instant.exchange address request buffer).1, t) ∧
        Refines config (instant.exchange address request buffer).2 t := by
  have hforward := forwarding_of_driven h.rests.control
  have hsame := h.listener address
  cases hlistener : instant.listener address with
  | none =>
    rw [hlistener] at hsame
    obtain ⟨t, hrun, hquiet, hlatency, hdevices⟩ :=
      exchange_unanswered hforward.toSteady h.within (.inl hsame) request buffer
    rw [hsame] at hdevices
    rw [Instant.exchange_of_none hlistener]
    exact ⟨t, hrun, h.exchanged instant rfl hrun (hquiet hsame) hlatency
      (hdevices.trans h.devices)⟩
  | some device =>
    rw [hlistener] at hsame
    obtain ⟨t, hrun, hquiet, hlatency, hdevices⟩ :=
      exchange_answered hforward h.within hsame ⟨htimeout, h.tolerates.seen⟩ request buffer
    rw [h.devices, port_of_driven h.rests.control] at hdevices
    rw [Instant.exchange_of_listener hlistener]
    exact ⟨t, hrun, h.exchanged (instant.replace _) rfl hrun hquiet hlatency hdevices⟩

theorem Refines.send (h : Refines config instant s) (address : Address) (request : List UInt8) :
    ∃ t, (Bus.send address request : Bus Simulator Unit) config s = some ((), t) ∧
      Refines config (instant.send address request) t := by
  have hsteady := steady_of_driven h.rests.control
  obtain ⟨t, hrun, -, -, -, -, hdevices⟩ := send_follows config hsteady address request
  obtain ⟨hwithin, hlatency⟩ :=
    h.within.sent h.tolerates.settled hsteady address request hrun
  obtain ⟨u, hsent, hsends⟩ := send_sends config h.rests address request
  obtain ⟨-, rfl⟩ := Bus.run_unique hrun hsent
  have htolerates : config.Tolerates t.latency := hlatency ▸ h.tolerates
  rw [h.listener address, h.devices, port_of_driven h.rests.control] at hdevices
  refine ⟨t, hrun, ?_⟩
  cases hlistener : instant.listener address with
  | none =>
    rw [hlistener] at hdevices
    rw [Instant.send_of_none hlistener]
    exact ⟨hsends.rests, hdevices, htolerates, hwithin⟩
  | some device =>
    rw [hlistener] at hdevices
    rw [Instant.send_of_listener hlistener]
    exact ⟨hsends.rests, hdevices, htolerates, hwithin⟩

/-! ## Commands -/

theorem Refines.interpret {α : Type} (htimeout : 0 < config.timeout) (p : Program α) :
    ∀ (instant : Instant) (s : Simulator), Refines config instant s →
      ∃ t, (p.interpret : Bus Simulator α) config s =
        some (((p.interpret : StateM Instant α) instant).1, t) ∧
          Refines config ((p.interpret : StateM Instant α) instant).2 t := by
  induction p with
  | done result => exact fun instant s h => ⟨s, rfl, h⟩
  | selectPort port next ih =>
    intro instant s h
    obtain ⟨t, hrun, ht⟩ := h.selectPort port
    obtain ⟨u, hnext, hu⟩ := ih _ t ht
    exact ⟨u, (Bus.bind_of_eq_some hrun _).trans hnext, hu⟩
  | exchange address request buffer next ih =>
    intro instant s h
    obtain ⟨t, hrun, ht⟩ := h.exchange htimeout address request buffer
    obtain ⟨u, hnext, hu⟩ := ih (instant.exchange address request buffer).1 _ t ht
    exact ⟨u, (Bus.bind_of_eq_some hrun _).trans hnext, hu⟩
  | send address request next ih =>
    intro instant s h
    obtain ⟨t, hrun, ht⟩ := h.send address request
    obtain ⟨u, hnext, hu⟩ := ih _ t ht
    exact ⟨u, (Bus.bind_of_eq_some hrun _).trans hnext, hu⟩

theorem Refines.command (htimeout : 0 < config.timeout) (h : Refines config instant s)
    (command : Command) :
    ∃ t, (command.run : Bus Simulator Outcome) config s = some (instant.told command, t) ∧
      Refines config (instant.left command) t := by
  obtain ⟨t, hrun, ht⟩ := Refines.interpret htimeout command.run instant s h
  rw [Program.interpret_run, Program.interpret_run, Instant.run_told] at hrun
  rw [Program.interpret_run, Instant.run_left] at ht
  exact ⟨t, hrun, ht⟩

end Simulator

/-! ## Sessions -/

namespace Action

/-- An action over a simulated transceiver, and what it tells if it is a command. -/
def perform : Action → Bus Simulator (Option Outcome)
  | .setUp => do
    Bus.setUp
    return none
  | .wait timeout => do
    let _ ← Bus.waitAcknowledge timeout
    return none
  | .command asked => do
    let outcome ← asked.run
    return some outcome
  | .handle handling => fun _ s => some (none, handling.apply s)

/-- The same action on an instant bus, where a command tells and leaves what it should and time does
not matter. -/
def instantly : Action → StateM Instant (Option Outcome)
  | .setUp => modifyGet fun instant => (none, { instant with selected := .one })
  | .wait _ => pure none
  | .command asked => modifyGet fun instant => (some (instant.told asked), instant.left asked)
  | .handle handling => modifyGet fun instant =>
    (none, { instant with devices := handling.devices instant.devices })

/-- The action does not make acknowledges later than the configuration allows for. -/
def Tolerated (config : Config) : Action → Prop
  | .handle (.setLatency delay) => config.Tolerates delay.inNanos
  | .handle _ | .setUp | .wait _ | .command _ => True

end Action

namespace Simulator

variable {s : Simulator} {instant : Instant} {config : Config}

theorem refines_restarted (config : Config) (hs : config.Tolerates s.latency)
    {devices : PerPort (Option Device)} (hdevices : s.devices = devices) :
    Refines config ⟨.one, devices⟩ (s.restarted config) :=
  ⟨⟨rfl, rfl⟩, (restarted_devices config s).trans hdevices,
    (restarted_latency config s).symm ▸ hs, fun _ hdue => nomatch hdue⟩

theorem perform_setUp (config : Config) (s : Simulator) :
    Action.setUp.perform config s = some (none, s.restarted config) :=
  Bus.bind_of_eq_some (setUp_run config s) _

theorem Refines.wait (h : Refines config instant s) (timeout : Nat) :
    ∃ t, ((Action.wait timeout).perform : Bus Simulator _) config s = some (none, t) ∧
      Refines config instant t := by
  obtain ⟨seen, t, hwait, hpassed⟩ :=
    waitAcknowledge_passed config (steady_of_driven h.rests.control).strobeless timeout
  refine ⟨t, Bus.bind_of_eq_some hwait _, ⟨?_, ?_⟩, ?_, ?_, h.within.passed hpassed⟩
  · rw [hpassed.wire.control, h.rests.control]
  · rw [hpassed.wire.stage, h.rests.stage]
  · rw [hpassed.wire.devices, h.devices]
  · rw [hpassed.wire.latency]
    exact h.tolerates

theorem Refines.handle (h : Refines config instant s) (handling : Handling)
    (hallowed : (Action.handle handling).Tolerated config) :
    Refines config { instant with devices := handling.devices instant.devices }
      (handling.apply s) := by
  obtain ⟨hcontrol, hstage, hpulse, hnow⟩ := handling.apply_frame s
  refine ⟨⟨hcontrol.trans h.rests.control, hstage.trans h.rests.stage⟩, ?_, ?_, ?_⟩
  · rw [handling.apply_devices, h.devices]
  · by_cases hset : ∃ delay, handling = .setLatency delay
    · obtain ⟨delay, rfl⟩ := hset
      exact hallowed
    · rw [handling.apply_latency s fun delay heq => hset ⟨delay, heq⟩]
      exact h.tolerates
  · intro due hdue
    rw [hpulse] at hdue
    exact Nat.le_trans (h.within due hdue) (Nat.add_le_add_right hnow _)

theorem Refines.perform (htimeout : 0 < config.timeout) (h : Refines config instant s)
    (action : Action) (hallowed : action.Tolerated config) :
    ∃ t, action.perform config s = some ((action.instantly instant).1, t) ∧
      Refines config (action.instantly instant).2 t := by
  cases action with
  | setUp => exact ⟨_, perform_setUp config s, refines_restarted config h.tolerates h.devices⟩
  | wait timeout => exact h.wait timeout
  | command command =>
    obtain ⟨t, hrun, ht⟩ := h.command htimeout command
    exact ⟨t, Bus.bind_of_eq_some hrun _, ht⟩
  | handle handling => exact ⟨_, rfl, h.handle handling hallowed⟩

theorem Refines.session (htimeout : 0 < config.timeout) (actions : List Action) :
    ∀ (instant : Instant) (s : Simulator), Refines config instant s →
      (∀ action ∈ actions, action.Tolerated config) →
        ∃ t, (actions.mapM Action.perform) config s =
          some ((actions.mapM Action.instantly instant).1, t) ∧
            Refines config (actions.mapM Action.instantly instant).2 t := by
  induction actions with
  | nil => exact fun instant s h _ => ⟨s, rfl, h⟩
  | cons action actions ih =>
    intro instant s h hallowed
    obtain ⟨t, hrun, ht⟩ := h.perform htimeout action (hallowed action List.mem_cons_self)
    obtain ⟨u, hrest, hu⟩ := ih _ t ht fun later hlater =>
      hallowed later (List.mem_cons_of_mem _ hlater)
    rw [List.mapM_cons, List.mapM_cons]
    refine ⟨u, ?_, hu⟩
    rw [Bus.bind_of_eq_some hrun, Bus.bind_of_eq_some hrest]
    rfl

/-- A session that begins with setting up comes to an end, and tells and leaves what it would on an
instant bus: every command tells just what follows from what is plugged in at that moment. It does
not matter what state the transceiver was in before, nor what else is done between commands, as
long as acknowledges are never later than the configuration allows for. -/
theorem session_tells (config : Config) (htimeout : 0 < config.timeout) (s : Simulator)
    (hs : config.Tolerates s.latency) (actions : List Action)
    (hallowed : ∀ action ∈ actions, action.Tolerated config) :
    ∃ t, ((.setUp :: actions).mapM Action.perform) config s =
      some (((.setUp :: actions).mapM Action.instantly ⟨.one, s.devices⟩).1, t) ∧
        t.devices = ((.setUp :: actions).mapM Action.instantly ⟨.one, s.devices⟩).2.devices ∧
        t.port = ((.setUp :: actions).mapM Action.instantly ⟨.one, s.devices⟩).2.selected := by
  have hstart : Refines config ⟨.one, s.devices⟩ (s.restarted config) :=
    refines_restarted config hs rfl
  obtain ⟨u, hrest, hu⟩ := Refines.session htimeout actions _ _ hstart hallowed
  refine ⟨u, ?_, ?_⟩
  · rw [List.mapM_cons, List.mapM_cons, Bus.bind_of_eq_some (perform_setUp config s),
      Bus.bind_of_eq_some hrest]
    rfl
  · rw [List.mapM_cons]
    exact ⟨hu.devices, port_of_driven hu.rests.control⟩

/-- A packet sent blindly to a card, whose last acknowledge comes as late as a wait still sees one,
does not disturb the polls that follow. -/
theorem session_tells_lateAcknowledge :
    0 < Config.standard.timeout ∧ Config.standard.Tolerates 110000 ∧
      ∃ t, ([.setUp, .command (.selectPort .two), .command (.send .memoryCard [0x21, 0, 0]),
          .command (.readPad .one), .handle (.plug .one none),
          .command (.readPad .one)] : List Action).mapM Action.perform Config.standard
            (switchedOn 0 ⟨some (.gamepad ⟨⟨0x4000⟩, none⟩),
              some (.storageCard (.blank true))⟩ 110000) =
        some ([none, some .done, some .done, some (.pad ⟨0x41, ⟨0x4000⟩, none⟩), none,
          some (.failed .noDevice)], t) := by
  have htimeout : 0 < Config.standard.timeout := by decide
  have htolerates : Config.standard.Tolerates 110000 := ⟨by decide, by decide⟩
  obtain ⟨t, h, -⟩ := session_tells Config.standard htimeout
    (switchedOn 0 ⟨some (.gamepad ⟨⟨0x4000⟩, none⟩), some (.storageCard (.blank true))⟩ 110000)
    htolerates [.command (.selectPort .two), .command (.send .memoryCard [0x21, 0, 0]),
      .command (.readPad .one), .handle (.plug .one none), .command (.readPad .one)]
    (by simp [Action.Tolerated])
  exact ⟨htimeout, htolerates, t, h⟩

end Simulator

end ConsoleBus

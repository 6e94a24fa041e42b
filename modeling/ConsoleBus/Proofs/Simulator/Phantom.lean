import ConsoleBus.Proofs.Simulator.Refinement

/-!
# Acknowledges of earlier packets

A packet that is sent blindly may leave an acknowledge on its way. If it comes due before the next
exchange clears the interrupt, it is forgotten. If it comes due later, the exchange takes it for an
acknowledge of its own, even where no device listens. So whether a configuration is free of such
phantoms for devices of a given latency is a matter of how long it lets the bus settle, which is
what `noPhantom_iff` says.
-/

namespace ConsoleBus

/-- An exchange as somebody sees it who knows what is plugged in. -/
structure Observation where
  address : Address
  /-- What the buffer held before. -/
  buffer : List UInt8
  /-- What was plugged into the selected port. -/
  device : Option Device
  reply : Reply

/-- If no device listened, nothing was exchanged and the buffer stayed as it was. -/
def Observation.Honest (seen : Observation) : Prop :=
  (∀ device ∈ seen.device, device.address ≠ seen.address) → seen.reply = ⟨0, seen.buffer⟩

/-- Routines over a simulated transceiver, with every exchange observed, oldest first. -/
abbrev Observed : Type → Type := StateT (Array Observation) (Bus Simulator)

/-- An exchange, and how it is observed. -/
def Observed.exchange (address : Address) (request buffer : List UInt8) : Observed Reply := do
  let s ← (get : Bus Simulator Simulator)
  let reply ← (Bus.exchange address request buffer : Bus Simulator Reply)
  modify fun seen => seen.push ⟨address, buffer, s.devices.get s.port, reply⟩
  return reply

instance : Transport Observed where
  selectPort port := (Bus.selectPort port : Bus Simulator Unit)
  exchange := Observed.exchange
  send address request := (Bus.send address request : Bus Simulator Unit)

namespace Simulator

/-- A transceiver that has just been switched on is set up and then carries out some commands, with
every exchange observed, whether it is asked for by itself or is part of another command. -/
def observe (config : Config) (now : Nat) (devices : PerPort (Option Device)) (latency : Nat)
    (commands : List Command) : Option ((List Outcome × Array Observation) × Simulator) :=
  (do
    (Bus.setUp : Bus Simulator Unit)
    commands.mapM Command.run : Observed (List Outcome)) #[] config
      (switchedOn now devices latency)

/-- No command ever takes an acknowledge of an earlier packet for one of its own: wherever no
device listens, exchanges are over after the address, and pads and cards are reported missing. -/
def NoPhantom (config : Config) (latency : Nat) : Prop :=
  ∀ now devices commands, ∃ outcomes observations s,
    observe config now devices latency commands = some ((outcomes, observations), s) ∧
    (∀ seen ∈ observations, seen.Honest) ∧
    ∀ port,
      ((∀ device ∈ s.devices.get port, device.address ≠ .controller) →
        ∃ t, ((Command.readPad port).run : Bus Simulator Outcome) config s =
          some (.failed .noDevice, t)) ∧
      ((∀ device ∈ s.devices.get port, device.address ≠ .memoryCard) →
        ∃ t, ((Command.probe port).run : Bus Simulator Outcome) config s =
          some (.failed .noDevice, t))

variable {s t : Simulator} {port : Port} {config : Config} {latency : Nat} {instant : Instant}

/-! ## Observing -/

theorem observed_run {α : Type} {routine : Bus Simulator α} {a : α}
    (h : routine config s = some (a, t)) (observations : Array Observation) :
    (liftM routine : Observed α) observations config s = some ((a, observations), t) := by
  show (routine >>= fun a => pure (a, observations)) config s = _
  rw [Bus.bind_of_eq_some h]
  rfl

theorem observed_exchange {address : Address} {request buffer : List UInt8} {reply : Reply}
    (h : (Bus.exchange address request buffer : Bus Simulator Reply) config s = some (reply, t))
    (observations : Array Observation) :
    (Transport.exchange address request buffer : Observed Reply) observations config s =
      some ((reply, observations.push ⟨address, buffer, s.devices.get s.port, reply⟩), t) := by
  have hget : (get : Bus Simulator Simulator) config s = some (s, s) := rfl
  show Observed.exchange address request buffer observations config s = _
  unfold Observed.exchange
  rw [Program.bind_run (observed_run hget observations),
    Program.bind_run (observed_run h observations)]
  rfl

/-! ## Settled configurations have no phantoms -/

theorem Refines.honest (h : Refines config instant s) (address : Address)
    (request buffer : List UInt8) :
    Observation.Honest ⟨address, buffer, s.devices.get s.port,
      (instant.exchange address request buffer).1⟩ := by
  intro hnobody
  have hnone : instant.listener address = none := by
    refine Instant.listener_of_ne fun device hdevice => hnobody device ?_
    rw [port_of_driven h.rests.control, h.devices]
    exact hdevice
  show (instant.exchange address request buffer).1 = _
  rw [Instant.exchange_of_none hnone]

/-- Between calls the transceiver is an instant bus, and nothing dishonest was observed. -/
def Honestly (config : Config) (observations : Array Observation) (s : Simulator) : Prop :=
  (∃ instant, Refines config instant s) ∧ ∀ seen ∈ observations, seen.Honest

theorem keeps_honestly (htimeout : 0 < config.timeout) (command : Command) :
    Program.Keeps config (Honestly config) (command.run : Observed Outcome) := by
  refine Program.keeps_run ?_ ?_ ?_ command
  · rintro port observations s ⟨⟨instant, h⟩, hhonest⟩
    obtain ⟨t, hrun, ht⟩ := h.selectPort port
    exact ⟨_, _, _, observed_run hrun observations, ⟨_, ht⟩, hhonest⟩
  · rintro address request buffer observations s ⟨⟨instant, h⟩, hhonest⟩
    obtain ⟨t, hrun, ht⟩ := h.exchange htimeout address request buffer
    refine ⟨_, _, _, observed_exchange hrun observations, ⟨_, ht⟩, fun seen hseen => ?_⟩
    rcases Array.mem_push.mp hseen with hseen | rfl
    · exact hhonest seen hseen
    · exact h.honest address request buffer
  · rintro address request observations s ⟨⟨instant, h⟩, hhonest⟩
    obtain ⟨t, hrun, ht⟩ := h.send address request
    exact ⟨_, _, _, observed_run hrun observations, ⟨_, ht⟩, hhonest⟩

theorem polled_of_ne {device : Option Device}
    (h : ∀ d ∈ device, d.address ≠ .controller) : Instant.polled device = .error .noDevice := by
  match device with
  | none => rfl
  | some (.storageCard card) => rfl
  | some (.gamepad pad) => exact absurd rfl (h _ rfl)
  | some (.script script) => exact if_neg (h _ rfl)

theorem pinged_of_ne {device : Option Device}
    (h : ∀ d ∈ device, d.address ≠ .memoryCard) : Instant.pinged device = .error .noDevice := by
  match device with
  | none => rfl
  | some (.gamepad pad) => rfl
  | some (.storageCard card) => exact absurd rfl (h _ rfl)
  | some (.script script) => exact if_neg (h _ rfl)

theorem noPhantom_of_tolerates (htimeout : 0 < config.timeout) (h : config.Tolerates latency) :
    NoPhantom config latency := by
  intro now devices commands
  have hstart : Honestly config #[] ((switchedOn now devices latency).restarted config) :=
    ⟨⟨⟨.one, devices⟩, refines_restarted config h rfl⟩, fun _ hseen => nomatch hseen⟩
  obtain ⟨outcomes, observations, s, hrun, ⟨instant, hs⟩, hhonest⟩ :=
    Program.Keeps.mapM (keeps_honestly htimeout) commands #[] _ hstart
  refine ⟨outcomes, observations, s, ?_, hhonest, fun port => ⟨fun hnobody => ?_, fun hnobody => ?_⟩⟩
  · exact (Program.bind_run (observed_run (setUp_run config _) #[]) _).trans hrun
  · obtain ⟨t, hpoll, -⟩ := hs.command htimeout (.readPad port)
    rw [Instant.told, ← hs.devices, polled_of_ne hnobody] at hpoll
    exact ⟨t, hpoll⟩
  · obtain ⟨t, hping, -⟩ := hs.command htimeout (.probe port)
    rw [Instant.told, ← hs.devices, pinged_of_ne hnobody] at hping
    exact ⟨t, hping⟩

/-! ## Phantoms of configurations that do not settle -/

/-- A device that acknowledges its address in a packet without further bytes leaves the acknowledge
on its way, if it is later than the packet is long. -/
theorem send_late {address : Address} {device : Device} (h : Rests port s)
    (hdevice : s.devices.get port = some device) (haddress : device.address = address)
    (hlate : clampMicros config.byteDelay * 1000 + clampMicros config.attentionDelay * 1000 <
      s.latency) :
    ∃ t due, (Bus.send address [] : Bus Simulator Unit) config s = some ((), t) ∧ Rests port t ∧
      t.devices = s.devices.set port (some device.start.finish) ∧ t.pulse = some due ∧
      due + (clampMicros config.byteDelay * 1000 + clampMicros config.attentionDelay * 1000) =
        t.now + s.latency := by
  obtain ⟨gap, hbyte⟩ : ∃ gap, clampMicros config.byteDelay * 1000 = gap := ⟨_, rfl⟩
  obtain ⟨hold, hattention⟩ : ∃ hold, clampMicros config.attentionDelay * 1000 = hold := ⟨_, rfl⟩
  rw [hbyte, hattention] at hlate ⊢
  have hsteady := steady_of_driven h.control
  have hport := port_of_driven h.control
  have hlistener : s.listener address = some device := by
    rw [listener_eq_some_iff, hport]
    exact ⟨hdevice, haddress⟩
  have hbegun := (follows_begun config address hsteady).steady
  obtain ⟨hpulse, -⟩ := begun_of_listener config hsteady hlistener
  generalize hstart : s.begun config address = u at hbegun hpulse
  have hgap : (u.pass gap).deliverPulse = u.pass gap := by
    refine deliverPulse_eq_self (noneDue_of_lt hpulse ?_)
    show u.now + gap < _
    omega
  have hintroduced : s.introduced config address = { u.pass gap with received := [] } := by
    unfold introduced drained
    rw [hstart, hbyte, hgap]
  have hintroducedSteady : (s.introduced config address).Steady true := by
    rw [hintroduced]
    exact ⟨hbegun.attention, hbegun.strobeless⟩
  have hrun := send_steady hsteady address
    (sendBytes_run [] _ hintroducedSteady.attention rfl) hintroducedSteady
  have hhold : ((s.introduced config address).pass hold).deliverPulse =
      (s.introduced config address).pass hold := by
    rw [hintroduced]
    refine deliverPulse_eq_self (noneDue_of_lt hpulse ?_)
    show u.now + gap + hold < _
    omega
  have hended : (s.introduced config address).ended config =
      ((s.introduced config address).pass hold).withoutAttention := by
    unfold ended
    rw [hattention, hhold]
  obtain ⟨t, hsent, hsends⟩ := send_sends config h address []
  obtain ⟨_, hfollowed, -, -, -, -, hdevices⟩ := send_follows config hsteady address []
  obtain ⟨-, rfl⟩ := Bus.run_unique hrun hsent
  obtain ⟨-, rfl⟩ := Bus.run_unique hrun hfollowed
  rw [hlistener, hport] at hdevices
  refine ⟨_, u.now + s.latency, hrun, hsends.rests, hdevices, ?_, ?_⟩
  · show ((s.introduced config address).ended config).pulse = _
    rw [hended, hintroduced]
    exact hpulse
  · show _ = ((s.introduced config address).ended config).now + _
    rw [hended, hintroduced]
    show u.now + s.latency + (gap + hold) = u.now + gap + hold + s.latency
    omega

theorem begun_expecting_old {address : Address} {due : Nat} (config : Config)
    (h : s.Forwarding false) (hnobody : s.listener address = none) (hpulse : s.pulse = some due)
    (hlate : s.now < due) : (s.begun config address).Expecting due := by
  obtain ⟨hsame, hinterrupt, hlatched⟩ := begun_of_nobody config h.toSteady hnobody
  have hexpecting := expecting_poised config h hpulse hlate
  unfold Expecting at hexpecting ⊢
  rw [hsame, hinterrupt, hlatched]
  exact hexpecting

theorem fill_count_pos {request rest : List UInt8} {old : UInt8} {reply : Reply}
    (h : (Bus.fill request (old :: rest) : Bus Simulator Reply) config s = some (reply, t)) :
    0 < reply.count := by
  unfold Bus.fill at h
  obtain ⟨byte, u, -, h⟩ := Bus.bind_eq_some_iff.mp h
  obtain ⟨_, v, -, h⟩ := Bus.bind_eq_some_iff.mp h
  obtain ⟨seen, w, -, h⟩ := Bus.bind_eq_some_iff.mp h
  cases seen with
  | true =>
    obtain ⟨later, x, -, h⟩ := Bus.bind_eq_some_iff.mp h
    cases h
    exact Nat.succ_pos _
  | false =>
    cases h
    exact Nat.one_pos

/-- An old pulse that comes due once attention is asserted is taken for an acknowledge of the
address, and an exchange goes on with nobody. -/
theorem exchange_late {address : Address} {due : Nat} {request rest : List UInt8} {old : UInt8}
    (htimeout : 0 < config.timeout) (h : Rests port s)
    (hnobody : ∀ device ∈ s.devices.get port, device.address ≠ address)
    (hpulse : s.pulse = some due) (hlate : s.now + clampMicros config.preDelay * 1000 < due)
    (hseen : due ≤ s.now + config.lastLook * 1000) :
    ∃ reply t, (Bus.exchange address request (old :: rest) : Bus Simulator Reply) config s =
      some (reply, t) ∧ 0 < reply.count := by
  generalize hheld : s.pass (clampMicros config.preDelay * 1000) = held
  obtain ⟨hforward, hunheard, hkept, hnow⟩ : held.Forwarding false ∧
      held.listener address = none ∧ held.pulse = some due ∧
      held.now = s.now + clampMicros config.preDelay * 1000 := by
    rw [← hheld]
    refine ⟨(forwarding_of_driven h.control).sameWire (sameWire_pass s _), ?_, hpulse, rfl⟩
    rw [listener_eq_none_iff]
    show ∀ device ∈ s.devices.get s.port, _
    rw [port_of_driven h.control]
    exact hnobody
  have hexpecting := begun_expecting_old config hforward hunheard hkept (by rw [hnow]; exact hlate)
  have hlater := now_le_begun config address held
  obtain ⟨t, hwait, -, hpassed⟩ := waitAcknowledge_expecting htimeout
    (forwarding_begun config address hforward) hexpecting (by omega)
  have hfollows := (follows_begun config address hforward.toSteady).sameWire hpassed.wire
  rw [hunheard] at hfollows
  obtain ⟨reply, u, hanswer, -, hu⟩ :=
    answerAddress_follows config hfollows request (old :: rest) true
  have hrun := exchange_steady (steady_of_driven h.control) hheld address hwait hanswer hu.steady
  refine ⟨reply, _, hrun, ?_⟩
  obtain ⟨_, v, -, hfill⟩ := Bus.bind_eq_some_iff.mp hanswer
  exact fill_count_pos hfill

/-- A card that acknowledges its address once nobody waits for it is taken for a pad on the same
port. -/
theorem not_noPhantom (htimeout : 0 < config.timeout) (hseen : latency ≤ config.lastLook * 1000)
    (hlate : config.settling * 1000 < latency) : ¬ NoPhantom config latency := by
  intro hnone
  -- A card alone in the first port is sent its address, then a pad is asked for there.
  have hsettling : config.settling * 1000 = clampMicros config.byteDelay * 1000 +
      clampMicros config.attentionDelay * 1000 + clampMicros config.preDelay * 1000 := by
    unfold Config.settling
    rw [Nat.add_mul, Nat.add_mul]
  have hstart : Rests .one ((switchedOn 0 ⟨some (.storageCard (.blank false)), none⟩
    latency).restarted config) := ⟨rfl, rfl⟩
  have hdevices := restarted_devices config
    (switchedOn 0 ⟨some (.storageCard (.blank false)), none⟩ latency)
  have hlatency := restarted_latency config
    (switchedOn 0 ⟨some (.storageCard (.blank false)), none⟩ latency)
  generalize hs : (switchedOn 0 ⟨some (.storageCard (.blank false)), none⟩
    latency).restarted config = s at hstart hdevices hlatency
  change s.devices = ⟨some (.storageCard (.blank false)), none⟩ at hdevices
  change s.latency = latency at hlatency
  rw [hsettling] at hlate
  have hlong : clampMicros config.byteDelay * 1000 + clampMicros config.attentionDelay * 1000 <
      s.latency := by
    rw [hlatency]
    exact Nat.lt_of_le_of_lt (Nat.le_add_right _ _) hlate
  have hcard : s.devices.get .one = some (.storageCard (.blank false)) := by rw [hdevices]; rfl
  obtain ⟨t, due, hsend, ht, hafter, hpulse, hdue⟩ := send_late hstart hcard rfl hlong
  have hthere : t.devices.get .one = some (.storageCard (.blank false)) := by
    rw [hafter]
    rfl
  have hnobody : ∀ device ∈ t.devices.get .one, device.address ≠ .controller := by
    intro device hdevice
    rw [hthere] at hdevice
    rw [← Option.some.inj hdevice]
    exact fun h => nomatch h
  have harith : ∀ n p g d l m : Nat, d + g = n + l → g + p < l → l ≤ m → n + p < d ∧ d ≤ n + m := by
    omega
  obtain ⟨hpending, hwindow⟩ := harith _ _ _ _ _ _ hdue (hlatency ▸ hlate) (hlatency ▸ hseen)
  obtain ⟨reply, u, hexchange, hcount⟩ : ∃ reply u,
      (Bus.exchange .controller [] [0] : Bus Simulator Reply) config t = some (reply, u) ∧
        0 < reply.count := exchange_late htimeout ht hnobody hpulse hpending hwindow
  have hfirst : ((Command.send .memoryCard []).run : Observed Outcome) #[] config s =
      some ((.done, #[]), t) := Program.bind_run (observed_run hsend #[]) _
  have hsecond : ((Command.exchange .controller [] [0]).run : Observed Outcome) #[] config t =
      some ((.reply reply, #[⟨.controller, [0], t.devices.get t.port, reply⟩]), u) :=
    Program.bind_run (observed_exchange hexchange #[]) _
  have hrest : ([.exchange .controller [] [0]].mapM Command.run : Observed _) #[] config t =
      some (([.reply reply], #[⟨.controller, [0], t.devices.get t.port, reply⟩]), u) := by
    rw [List.mapM_cons]
    exact Program.bind_run hsecond _
  obtain ⟨outcomes, observations, v, hrun, hhonest, -⟩ :=
    hnone 0 ⟨some (.storageCard (.blank false)), none⟩
      [.send .memoryCard [], .exchange .controller [] [0]]
  unfold observe at hrun
  rw [Program.bind_run (observed_run (setUp_run config _) #[]), hs, List.mapM_cons,
    Program.bind_run hfirst, Program.bind_run hrest] at hrun
  cases hrun
  have hnothing : reply = ⟨0, [0]⟩ := by
    refine hhonest _ (Array.mem_singleton_self _) ?_
    rw [port_of_driven ht.control]
    exact hnobody
  rw [hnothing] at hcount
  exact Nat.lt_irrefl 0 hcount

/-- A configuration that can see acknowledges of some latency is free of phantoms exactly if the
bus settles for at least as long. -/
theorem noPhantom_iff (htimeout : 0 < config.timeout)
    (hseen : latency ≤ config.lastLook * 1000) :
    NoPhantom config latency ↔ latency ≤ config.settling * 1000 := by
  constructor
  · intro hnone
    refine Nat.le_of_not_lt fun hlate => ?_
    exact not_noPhantom htimeout hseen hlate hnone
  · exact fun hsettled => noPhantom_of_tolerates htimeout ⟨hseen, hsettled⟩

/-- With the stock configuration there are no phantoms for any latency that its waits can see. The
relaxed one waits longer and settles no longer, so that it has phantoms for the latencies between
what the bus settles for and what its waits can see. -/
theorem noPhantom_presets (latency : Nat) :
    (latency ≤ 110000 → NoPhantom .standard latency) ∧
    (latency ≤ 230000 → (NoPhantom .relaxed latency ↔ latency ≤ 190000)) := by
  have hstandard : Config.standard.lastLook * 1000 = 110000 := by decide
  have hrelaxed : Config.relaxed.lastLook * 1000 = 230000 := by decide
  have hsettling : Config.standard.settling * 1000 = 190000 := by decide
  have hsame : Config.relaxed.settling = Config.standard.settling := by decide
  constructor
  · intro hseen
    rw [noPhantom_iff (by decide) (hstandard ▸ hseen), hsettling]
    omega
  · intro hseen
    rw [noPhantom_iff (by decide) (hrelaxed ▸ hseen), hsame, hsettling]

theorem noPhantom_presets_latest :
    NoPhantom .standard 110000 ∧ NoPhantom .relaxed 190000 ∧ ¬ NoPhantom .relaxed 230000 := by
  refine ⟨(noPhantom_presets 110000).1 (by decide), ?_, ?_⟩
  · exact ((noPhantom_presets 190000).2 (by decide)).mpr (by decide)
  · rw [(noPhantom_presets 230000).2 (by decide)]
    decide

end Simulator

end ConsoleBus

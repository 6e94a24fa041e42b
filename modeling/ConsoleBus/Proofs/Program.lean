import ConsoleBus.Bus.Exchange
import ConsoleBus.Command

/-!
# Commands as programs

Whatever a command does, it does by calls of its transport, and which call comes next depends on
nothing but the replies so far. A `Program` is a tree of calls, and commands can be run over
programs, since these are a transport themselves. A fact about every command over some transport
then follows from the same fact about single calls, by induction on the tree.
-/

namespace ConsoleBus

/-- Calls of a transport, followed by a result. -/
inductive Program (α : Type) where
  | done (result : α)
  | selectPort (port : Port) (next : Program α)
  | exchange (address : Address) (request buffer : List UInt8) (next : Reply → Program α)
  | send (address : Address) (request : List UInt8) (next : Program α)

namespace Program

variable {α β : Type}

/-- One program after another. -/
def andThen : Program α → (α → Program β) → Program β
  | done result, f => f result
  | selectPort port next, f => selectPort port (next.andThen f)
  | exchange address request buffer next, f =>
    exchange address request buffer fun reply => (next reply).andThen f
  | send address request next, f => send address request (next.andThen f)

instance : Monad Program where
  pure := done
  bind := andThen

instance : Transport Program where
  selectPort port := selectPort port (done ())
  exchange address request buffer := exchange address request buffer done
  send address request := send address request (done ())

variable {m : Type → Type} [Monad m] [Transport m]

/-- The calls carried out over a transport. -/
def interpret : Program α → m α
  | done result => pure result
  | selectPort port next => do
    (Transport.selectPort port : m Unit)
    next.interpret
  | exchange address request buffer next => do
    let reply ← (Transport.exchange address request buffer : m Reply)
    (next reply).interpret
  | send address request next => do
    (Transport.send address request : m Unit)
    next.interpret

/-! ## Interpretation goes through the parts of a program -/

theorem interpret_pure (a : α) : (pure a : Program α).interpret = (pure a : m α) := rfl

section

variable [LawfulMonad m]

theorem interpret_selectPort (port : Port) :
    (Transport.selectPort port : Program Unit).interpret = (Transport.selectPort port : m Unit) :=
  bind_pure_unit

theorem interpret_exchange (address : Address) (request buffer : List UInt8) :
    (Transport.exchange address request buffer : Program Reply).interpret =
      (Transport.exchange address request buffer : m Reply) :=
  bind_pure _

theorem interpret_send (address : Address) (request : List UInt8) :
    (Transport.send address request : Program Unit).interpret =
      (Transport.send address request : m Unit) :=
  bind_pure_unit

theorem interpret_bind (p : Program α) (f : α → Program β) :
    (p >>= f).interpret = (p.interpret >>= fun a => (f a).interpret : m β) := by
  induction p with
  | done result => exact (pure_bind result fun a => ((f a).interpret : m β)).symm
  | selectPort port next ih =>
    show (Transport.selectPort port >>= fun _ => (next >>= f).interpret) = _
    rw [ih]
    exact (bind_assoc _ _ _).symm
  | exchange address request buffer next ih =>
    show (Transport.exchange address request buffer >>= fun reply =>
      (next reply >>= f).interpret) = _
    rw [funext ih]
    exact (bind_assoc _ _ _).symm
  | send address request next ih =>
    show (Transport.send address request >>= fun _ => (next >>= f).interpret) = _
    rw [ih]
    exact (bind_assoc _ _ _).symm

/-! ## Every command is a program -/

theorem interpret_read (port : Port) :
    (Pad.read port : Program _).interpret = (Pad.read port : m _) := by
  unfold Pad.read
  simp only [interpret_bind, interpret_pure, interpret_selectPort, interpret_exchange]

theorem interpret_readButtons (port : Port) :
    (Pad.readButtons port : Program _).interpret = (Pad.readButtons port : m _) := by
  unfold Pad.readButtons
  rw [interpret_bind, interpret_read]
  refine congrArg _ (funext fun result => ?_)
  cases result <;> rfl

theorem interpret_probe (port : Port) :
    (Card.probe port : Program _).interpret = (Card.probe port : m _) := by
  unfold Card.probe
  simp only [interpret_bind, interpret_pure, interpret_selectPort, interpret_exchange]

theorem interpret_probeAll (ports : List Port) : ∀ found : PortMask,
    (Card.probeAll ports found : Program _).interpret = (Card.probeAll ports found : m _) := by
  induction ports with
  | nil => exact fun _ => rfl
  | cons port ports ih =>
    intro found
    unfold Card.probeAll
    rw [interpret_bind, interpret_probe]
    refine congrArg _ (funext fun result => ?_)
    cases result with
    | ok => exact ih _
    | error => exact ih _

theorem interpret_sendTo (request : List UInt8) (ports : List Port) :
    (Card.GameId.sendTo request ports : Program _).interpret =
      (Card.GameId.sendTo request ports : m _) := by
  unfold Card.GameId.sendTo
  induction ports with
  | nil => rfl
  | cons port ports ih =>
    show (((Transport.selectPort port : Program Unit) >>= fun _ =>
      Transport.send .memoryCard request) >>= fun _ => ports.forM _).interpret = _
    rw [interpret_bind, interpret_bind, interpret_selectPort, interpret_send, ih]
    rfl

theorem interpret_broadcast (gameId : String) (ports : PortMask) :
    (Card.GameId.broadcast gameId ports : Program _).interpret =
      (Card.GameId.broadcast gameId ports : m _) := by
  unfold Card.GameId.broadcast
  cases Card.GameId.request gameId with
  | error => rfl
  | ok request => simp only [interpret_bind, interpret_pure, interpret_sendTo]

/-- A command carried out is its program interpreted. -/
theorem interpret_run (command : Command) :
    (command.run : Program Outcome).interpret = (command.run : m Outcome) := by
  cases command with
  | selectPort | exchange | send =>
    simp only [Command.run, interpret_bind, interpret_pure, interpret_selectPort,
      interpret_exchange, interpret_send]
  | readButtons => simp only [Command.run, interpret_bind, interpret_pure, interpret_readButtons]
  | readPad => simp only [Command.run, interpret_bind, interpret_pure, interpret_read]
  | probe => simp only [Command.run, interpret_bind, interpret_pure, interpret_probe]
  | presence =>
    simp only [Command.run, Card.presence, interpret_bind, interpret_pure, interpret_probeAll]
  | broadcast => simp only [Command.run, interpret_bind, interpret_pure, interpret_broadcast]
  | announce =>
    simp only [Command.run, Card.presence, interpret_bind, interpret_pure, interpret_probeAll,
      interpret_broadcast]

end

/-! ## Facts about every program -/

section

variable {σ ω : Type} {config : Config}

/-- A routine over hardware, with an account kept beside it, gives a result and keeps `I`. -/
def Keeps (config : Config) (I : ω → σ → Prop) (routine : StateT ω (Bus σ) α) : Prop :=
  ∀ w s, I w s → ∃ a w' s', routine w config s = some ((a, w'), s') ∧ I w' s'

/-- Once its first part has given a result, a routine with an account goes on from there. -/
theorem bind_run {r : StateT ω (Bus σ) α} {w w' : ω} {s s' : σ} {a : α}
    (h : r w config s = some ((a, w'), s')) (f : α → StateT ω (Bus σ) β) :
    (r >>= f) w config s = f a w' config s' := by
  show (r w config s).bind _ = _
  rw [h]
  rfl

theorem keeps_pure (I : ω → σ → Prop) (a : α) : Keeps config I (pure a) :=
  fun w s h => ⟨a, w, s, rfl, h⟩

theorem Keeps.bind {I : ω → σ → Prop} {r : StateT ω (Bus σ) α} {f : α → StateT ω (Bus σ) β}
    (hr : Keeps config I r) (hf : ∀ a, Keeps config I (f a)) : Keeps config I (r >>= f) := by
  intro w s h
  obtain ⟨a, w₁, s₁, hrun, h₁⟩ := hr w s h
  obtain ⟨b, w₂, s₂, hnext, h₂⟩ := hf a w₁ s₁ h₁
  exact ⟨b, w₂, s₂, (bind_run hrun f).trans hnext, h₂⟩

theorem Keeps.mapM {I : ω → σ → Prop} {f : α → StateT ω (Bus σ) β}
    (hf : ∀ a, Keeps config I (f a)) (as : List α) : Keeps config I (as.mapM f) := by
  induction as with
  | nil => exact keeps_pure I []
  | cons a as ih =>
    rw [List.mapM_cons]
    exact (hf a).bind fun b => ih.bind fun bs => keeps_pure I (b :: bs)

variable [Transport (StateT ω (Bus σ))]

/-- What every single call keeps is kept by every program. -/
theorem keeps_interpret {I : ω → σ → Prop}
    (hselect : ∀ port, Keeps config I (Transport.selectPort port))
    (hexchange : ∀ address request buffer,
      Keeps config I (Transport.exchange address request buffer))
    (hsend : ∀ address request, Keeps config I (Transport.send address request)) (p : Program α) :
    Keeps config I p.interpret := by
  induction p with
  | done result => exact keeps_pure I result
  | selectPort port next ih => exact (hselect port).bind fun _ => ih
  | exchange address request buffer next ih =>
    exact (hexchange address request buffer).bind ih
  | send address request next ih => exact (hsend address request).bind fun _ => ih

/-- What every single call keeps is kept by every command. -/
theorem keeps_run {I : ω → σ → Prop}
    (hselect : ∀ port, Keeps config I (Transport.selectPort port))
    (hexchange : ∀ address request buffer,
      Keeps config I (Transport.exchange address request buffer))
    (hsend : ∀ address request, Keeps config I (Transport.send address request))
    (command : Command) : Keeps config I command.run := by
  rw [← interpret_run]
  exact keeps_interpret hselect hexchange hsend command.run

end

end Program

end ConsoleBus

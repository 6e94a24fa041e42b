import ConsoleBus.Proofs.Simulator.Usage

/-!
# Watching changes nothing

A pulse that is due raises the interrupt at the next access, and a mere look at a register is an
access. Still, nobody can tell whether there was a look: it makes no difference to the answers of
any other access, to the log and to what is plugged in. This is because a delivery may come early.
It commutes with all that does not touch the latch, the enabling of interrupts and the pulse
itself, and whatever does touch them has the pulse delivered first. For the same reason a
transceiver that raises its interrupt at the very moment a pulse comes due behaves just as one
that does so at the next access.
-/

namespace ConsoleBus

/-! ## Looks -/

/-- A look at a register, or at the interrupt. -/
inductive Watch where
  | readControl
  | readStatus
  | readInterrupt

namespace Watch

/-- The register access that the look consists of. -/
def access : Watch → Access
  | readControl => .readControl
  | readStatus => .readStatus
  | readInterrupt => .readInterrupt

/-- How often the look reads the interrupt. -/
def reads : Watch → Nat
  | readControl | readStatus => 0
  | readInterrupt => 1

end Watch

/-- What may happen to a transceiver that is watched. -/
inductive Moment where
  | used (use : Use)
  | watched (watch : Watch)

namespace Moment

/-- What the transceiver is used for, unless it is only looked at. -/
def use? : Moment → Option Use
  | used use => some use
  | watched _ => none

/-- How often the interrupt is read by mere looks. -/
def reads : Moment → Nat
  | used _ => 0
  | watched watch => watch.reads

/-- How often the interrupt is read by all of the mere looks. -/
def allReads : List Moment → Nat
  | [] => 0
  | moment :: moments => moment.reads + allReads moments

end Moment

/-- A use of a transceiver, with the answer of an access written down. -/
def Use.perform (use : Use) (s : Traced Simulator) : Traced Simulator :=
  match use with
  | access a => (Hardware.access a s).2
  | handle handling _ => { s with hardware := handling.apply s.hardware }

/-- A use or a look. What is seen at a mere look is not written down. -/
def Moment.perform (moment : Moment) (s : Traced Simulator) : Traced Simulator :=
  match moment with
  | used use => use.perform s
  | watched watch => { s with hardware := (s.hardware.access watch.access).2 }

namespace Simulator

variable {s t : Simulator} {more : Nat}

/-! ## No access depends on how often the interrupt was read -/

/-- The transceiver, if its interrupt had been read some more times. -/
def read (more : Nat) (s : Simulator) : Simulator :=
  { s with interruptReads := s.interruptReads + more }

theorem inert_read (more : Nat) : Inert (read more) := {}

theorem deliverPulse_read (more : Nat) (s : Simulator) :
    (s.read more).deliverPulse = s.deliverPulse.read more :=
  (inert_read more).deliverPulse s

theorem clockByte_read (more : Nat) (s : Simulator) (sent : UInt8) :
    (s.read more).clockByte sent = ((s.clockByte sent).1, (s.clockByte sent).2.read more) := by
  have hattention : (s.read more).attention = s.attention := rfl
  have hstage : (s.read more).stage = s.stage := rfl
  have hplugged : (s.read more).devices.get (s.read more).port = s.devices.get s.port := rfl
  unfold clockByte
  rw [hattention, hstage, hplugged]
  cases s.attention with
  | false => rfl
  | true =>
    simp only [Bool.not_true, Bool.false_eq_true, if_false]
    cases s.stage with
    | idle | unheard => rfl
    | addressing =>
      cases s.devices.get s.port with
      | none => rfl
      | some device =>
        dsimp only
        split <;> rfl
    | answering index =>
      cases s.devices.get s.port with
      | none => rfl
      | some device =>
        dsimp only
        split <;> rfl

theorem writeData_read (more : Nat) (s : Simulator) (sent : UInt8) :
    (s.read more).writeData sent = (s.writeData sent).read more := by
  have hattention : (s.deliverPulse.read more).attention = s.deliverPulse.attention := rfl
  unfold writeData
  simp only [deliverPulse_read, clockByte_read, hattention]
  split <;> rfl

theorem strobed_read (more : Nat) (value : Control) (s : Simulator) :
    (s.read more).strobed value = (s.strobed value).read more := by
  unfold strobed
  rw [deliverPulse_read]
  split <;> split <;> rfl

theorem settled_read (more : Nat) (control : Control) (s : Simulator) :
    (s.read more).settled control = (s.settled control).read more := by
  have hbefore : (s.read more).attention = s.attention := rfl
  have hafter : Simulator.attention { s.read more with control } =
    Simulator.attention { s with control } := rfl
  unfold settled
  simp only [hbefore, hafter]
  split
  · rfl
  · split <;> rfl

theorem read_read (more other : Nat) (s : Simulator) :
    (s.read more).read other = (s.read other).read more := by
  unfold read
  simp only [Nat.add_right_comm]

theorem access_read (more : Nat) (a : Access) (s : Simulator) :
    (s.read more).access a = ((s.access a).1, (s.access a).2.read more) := by
  cases a with
  | readControl =>
    show ((s.read more).deliverPulse.control, (s.read more).deliverPulse) = _
    rw [deliverPulse_read]
    rfl
  | writeControl value =>
    show ((), (s.read more).writeControl value) = ((), (s.writeControl value).read more)
    rw [writeControl_eq, writeControl_eq, strobed_read, settled_read]
  | writeMode | writeBaud => rfl
  | readStatus =>
    show (s.read more).readStatus = (s.readStatus.1, s.readStatus.2.read more)
    unfold readStatus
    rw [deliverPulse_read]
    rfl
  | readData =>
    show (s.read more).readData = (s.readData.1, s.readData.2.read more)
    unfold readData
    rw [deliverPulse_read]
    rfl
  | writeData byte =>
    show ((), (s.read more).writeData byte) = ((), (s.writeData byte).read more)
    rw [writeData_read]
  | readInterrupt =>
    show (((s.read more).read 1).deliverPulse.interrupt, ((s.read more).read 1).deliverPulse) =
      ((s.read 1).deliverPulse.interrupt, (s.read 1).deliverPulse.read more)
    rw [read_read, deliverPulse_read more]
    rfl
  | clearInterrupt =>
    show ((), { (s.read more).deliverPulse with interrupt := false }) = _
    rw [deliverPulse_read]
    rfl

theorem apply_read {handling : Handling} (h : handling ≠ .clearLog) (more : Nat) (s : Simulator) :
    handling.apply (s.read more) = (handling.apply s).read more := by
  cases handling with
  | press port buttons =>
    rw [Handling.apply_press_eq, Handling.apply_press_eq]
    rfl
  | clearLog => exact absurd rfl h
  | plug | setLatency | pass => rfl

/-! ## A delivery may come early -/

theorem deliverPulse_pass (s : Simulator) (nanos : Nat) :
    (s.deliverPulse.pass nanos).deliverPulse = (s.pass nanos).deliverPulse := by
  rcases deliverPulse_cases s with
    ⟨-, hs⟩ | ⟨due, hpulse, hdue, hready, hs⟩ | ⟨due, hpulse, hdue, hshut, hs⟩
  · rw [hs]
  · have hlater : due ≤ (s.pass nanos).now := Nat.le_trans hdue (Nat.le_add_right _ _)
    have hpassed : (s.pass nanos).Ready := hready
    rw [hs, deliverPulse_of_ready (s := s.pass nanos) hpulse hlater hpassed]
    exact deliverPulse_eq_self (noneDue_of_none rfl)
  · have hlater : due ≤ (s.pass nanos).now := Nat.le_trans hdue (Nat.le_add_right _ _)
    have hpassed : ¬ (s.pass nanos).Ready := hshut
    rw [hs, deliverPulse_of_not_ready (s := s.pass nanos) hpulse hlater hpassed]
    exact deliverPulse_eq_self (noneDue_of_none rfl)

theorem inert_handling {handling : Handling} (h : ∀ nanos, handling ≠ .pass nanos) :
    Inert handling.apply := by
  cases handling with
  | plug port device => exact inert_setDevice port device
  | press port buttons =>
    have hpress : (Handling.press port buttons).apply =
        fun s => { s with devices := (Handling.press port buttons).devices s.devices } :=
      funext (Handling.apply_press_eq port buttons)
    rw [hpress]
    exact {}
  | setLatency | clearLog =>
    exact {}
  | pass nanos => exact absurd rfl (h nanos)

/-- What is done from outside lets a delivery come early, even if it lets time pass. -/
theorem apply_deliverPulse (handling : Handling) (s : Simulator) :
    (handling.apply s.deliverPulse).deliverPulse = (handling.apply s).deliverPulse := by
  by_cases hpass : ∃ nanos, handling = .pass nanos
  · obtain ⟨nanos, rfl⟩ := hpass
    exact deliverPulse_pass s nanos
  · have hinert : Inert handling.apply := inert_handling fun nanos h => hpass ⟨nanos, h⟩
    exact hinert.early s

/-- Every access but a write of the mode or the baud rate has a pulse delivered first, and those
two let a delivery come early. -/
theorem access_deliverPulse (a : Access) (s : Simulator) :
    (s.deliverPulse.access a).1 = (s.access a).1 ∧
      (s.deliverPulse.access a).2.deliverPulse = (s.access a).2.deliverPulse := by
  have hsame : s.deliverPulse.access a = s.access a →
      (s.deliverPulse.access a).1 = (s.access a).1 ∧
        (s.deliverPulse.access a).2.deliverPulse = (s.access a).2.deliverPulse := by
    intro h
    rw [h]
    exact ⟨rfl, rfl⟩
  -- The mode and the baud rate aside, no access can tell whether the delivery came before it.
  cases a with
  | writeMode value =>
    have hinert : Inert fun s => { s with mode := value } := {}
    exact ⟨rfl, hinert.early s⟩
  | writeBaud divisor =>
    have hinert : Inert fun s => { s with baud := divisor } := {}
    exact ⟨rfl, hinert.early s⟩
  | readControl =>
    refine hsame ?_
    show (s.deliverPulse.deliverPulse.control, s.deliverPulse.deliverPulse) = _
    rw [deliverPulse_deliverPulse]
    rfl
  | readStatus =>
    refine hsame ?_
    show s.deliverPulse.readStatus = s.readStatus
    unfold readStatus
    rw [deliverPulse_deliverPulse]
  | readData =>
    refine hsame ?_
    show s.deliverPulse.readData = s.readData
    unfold readData
    rw [deliverPulse_deliverPulse]
  | writeControl value =>
    refine hsame ?_
    show ((), s.deliverPulse.writeControl value) = ((), s.writeControl value)
    unfold writeControl
    rw [deliverPulse_deliverPulse]
  | writeData byte =>
    refine hsame ?_
    show ((), s.deliverPulse.writeData byte) = ((), s.writeData byte)
    unfold writeData
    rw [deliverPulse_deliverPulse]
  | readInterrupt =>
    refine hsame ?_
    show ((s.deliverPulse.read 1).deliverPulse.interrupt, (s.deliverPulse.read 1).deliverPulse) =
      ((s.read 1).deliverPulse.interrupt, (s.read 1).deliverPulse)
    rw [deliverPulse_read, deliverPulse_read, deliverPulse_deliverPulse]
  | clearInterrupt =>
    refine hsame ?_
    show ((), { s.deliverPulse.deliverPulse with interrupt := false }) = _
    rw [deliverPulse_deliverPulse]
    rfl

/-! ## With and without looks -/

/-- Once nothing is due any more, the second transceiver is the first one with its interrupt read
some more times. -/
structure Matches (more : Nat) (s t : Simulator) : Prop where
  delivered : t.deliverPulse = s.deliverPulse.read more

theorem Matches.access (h : Matches more s t) (a : Access) :
    (t.access a).1 = (s.access a).1 ∧ Matches more (s.access a).2 (t.access a).2 := by
  obtain ⟨hs, hsafter⟩ := access_deliverPulse a s
  obtain ⟨ht, htafter⟩ := access_deliverPulse a t
  rw [h.delivered, access_read] at ht htafter
  refine ⟨ht.symm.trans hs, ⟨?_⟩⟩
  rw [← htafter, deliverPulse_read, hsafter]

theorem Matches.handle (h : Matches more s t) {handling : Handling} (hkept : handling ≠ .clearLog) :
    Matches more (handling.apply s) (handling.apply t) where
  delivered := by
    rw [← apply_deliverPulse handling t, h.delivered, apply_read hkept, deliverPulse_read,
      apply_deliverPulse]

/-- A look delivers the pulse that is due, if any, and does nothing else. -/
theorem watch_deliverPulse (watch : Watch) (s : Simulator) :
    (s.access watch.access).2.deliverPulse = s.deliverPulse.read watch.reads := by
  cases watch with
  | readControl | readStatus => exact deliverPulse_deliverPulse s
  | readInterrupt =>
    show (s.read 1).deliverPulse.deliverPulse = s.deliverPulse.read 1
    rw [deliverPulse_deliverPulse, deliverPulse_read]

theorem Matches.watch (h : Matches more s t) (watch : Watch) :
    Matches (more + watch.reads) s (t.access watch.access).2 where
  delivered := by
    rw [watch_deliverPulse, h.delivered]
    unfold read
    simp only [Nat.add_assoc]

theorem Matches.log (h : Matches more s t) : t.log = s.log := by
  rw [← (sameWire_deliverPulse t).log, h.delivered]
  exact (sameWire_deliverPulse s).log

theorem Matches.devices (h : Matches more s t) : t.devices = s.devices := by
  rw [← (sameWire_deliverPulse t).devices, h.delivered]
  exact (sameWire_deliverPulse s).devices

/-! ## The very moment a pulse comes due -/

/-- Time passes one nanosecond after another, and after each of them a pulse that has come due is
delivered. -/
def passPromptly : Nat → Simulator → Simulator
  | 0, s => s
  | nanos + 1, s => passPromptly nanos (s.pass 1).deliverPulse

theorem passPromptly_eq (nanos : Nat) : ∀ s : Simulator, s.NoneDue →
    passPromptly nanos s = (s.pass nanos).deliverPulse := by
  induction nanos with
  | zero => exact fun s h => (deliverPulse_eq_self h).symm
  | succ nanos ih =>
    intro s _
    have hpass : (s.pass 1).pass nanos = s.pass (nanos + 1) := by
      unfold pass
      simp only [Nat.add_assoc, Nat.add_comm 1 nanos]
    show passPromptly nanos (s.pass 1).deliverPulse = _
    rw [ih _ (noneDue_deliverPulse _), deliverPulse_pass, hpass]

end Simulator

/-- Something done from outside in which no pulse that comes due is ever kept waiting. -/
def Handling.applyPromptly : Handling → Simulator → Simulator
  | pass nanos, s => s.passPromptly nanos
  | handling, s => handling.apply s

theorem Handling.applyPromptly_eq (handling : Handling) (s : Simulator) :
    handling.applyPromptly s.deliverPulse = (handling.apply s).deliverPulse := by
  by_cases hpass : ∃ nanos, handling = .pass nanos
  · obtain ⟨nanos, rfl⟩ := hpass
    show s.deliverPulse.passPromptly nanos = (s.pass nanos).deliverPulse
    rw [Simulator.passPromptly_eq nanos _ (Simulator.noneDue_deliverPulse s),
      Simulator.deliverPulse_pass]
  · have hinert := Simulator.inert_handling fun nanos h => hpass ⟨nanos, h⟩
    have hsame : handling.applyPromptly s.deliverPulse = handling.apply s.deliverPulse := by
      cases handling with
      | pass nanos => exact absurd ⟨nanos, rfl⟩ hpass
      | plug | press | setLatency | clearLog => rfl
    rw [hsame, hinert.deliverPulse]

/-- A use of a transceiver in which no pulse that has come due is ever kept waiting. -/
def Use.performPromptly (use : Use) (s : Traced Simulator) : Traced Simulator :=
  match use with
  | access a =>
    let s := (Hardware.access a s).2
    { s with hardware := s.hardware.deliverPulse }
  | handle handling _ => { s with hardware := handling.applyPromptly s.hardware }

/-! ## Whole runs -/

namespace Traced

/-- The transceiver after a number of uses, with the answers of the accesses. -/
def use (s : Traced Simulator) (uses : List Use) : Traced Simulator :=
  uses.foldl (fun s use => use.perform s) s

/-- The same, if no pulse that has come due is ever kept waiting. -/
def usePromptly (s : Traced Simulator) (uses : List Use) : Traced Simulator :=
  uses.foldl (fun s use => use.performPromptly s) s

/-- The transceiver after a number of uses and looks, with the answers of the accesses in use. -/
def useWatched (s : Traced Simulator) (moments : List Moment) : Traced Simulator :=
  moments.foldl (fun s moment => moment.perform s) s

variable {s t : Traced Simulator} {more : Nat}

theorem perform_matches (h : s.hardware.Matches more t.hardware) (htrace : t.trace = s.trace)
    (use : Use) :
    (use.perform s).hardware.Matches more (use.perform t).hardware ∧
      (use.perform t).trace = (use.perform s).trace := by
  cases use with
  | access a =>
    obtain ⟨hanswer, hafter⟩ := h.access a
    refine ⟨hafter, ?_⟩
    show t.trace.push (.access a (t.hardware.access a).1) =
      s.trace.push (.access a (s.hardware.access a).1)
    rw [hanswer, htrace]
  | handle handling hkept => exact ⟨h.handle hkept, htrace⟩

/-- The looks among the uses leave behind nothing but their own count. -/
theorem useWatched_matches (moments : List Moment) : ∀ (s t : Traced Simulator) (more : Nat),
    s.hardware.Matches more t.hardware → t.trace = s.trace →
      (s.use (moments.filterMap Moment.use?)).hardware.Matches
          (more + Moment.allReads moments) (t.useWatched moments).hardware ∧
        (t.useWatched moments).trace = (s.use (moments.filterMap Moment.use?)).trace := by
  -- The two runs may start apart, since after a look only one of them has moved.
  induction moments with
  | nil => exact fun s t more h htrace => ⟨h, htrace⟩
  | cons moment moments ih =>
    intro s t more h htrace
    cases moment with
    | used use =>
      obtain ⟨hafter, htraced⟩ := perform_matches h htrace use
      have hreads : Moment.allReads (.used use :: moments) = Moment.allReads moments :=
        Nat.zero_add _
      rw [hreads]
      exact ih (use.perform s) (use.perform t) more hafter htraced
    | watched watch =>
      have hreads : more + Moment.allReads (.watched watch :: moments) =
          more + watch.reads + Moment.allReads moments := (Nat.add_assoc _ _ _).symm
      rw [hreads]
      exact ih s ((Moment.watched watch).perform t) _ (h.watch watch) htrace

theorem performPromptly_eq (h : t.hardware = s.hardware.deliverPulse) (htrace : t.trace = s.trace)
    (use : Use) :
    (use.performPromptly t).hardware = (use.perform s).hardware.deliverPulse ∧
      (use.performPromptly t).trace = (use.perform s).trace := by
  cases use with
  | access a =>
    obtain ⟨hanswer, hafter⟩ := Simulator.access_deliverPulse a s.hardware
    rw [← h] at hanswer hafter
    refine ⟨hafter, ?_⟩
    show t.trace.push (.access a (t.hardware.access a).1) =
      s.trace.push (.access a (s.hardware.access a).1)
    rw [hanswer, htrace]
  | handle handling hkept =>
    refine ⟨?_, htrace⟩
    show handling.applyPromptly t.hardware = (handling.apply s.hardware).deliverPulse
    rw [h, handling.applyPromptly_eq]

/-- A pulse may as well be delivered at the very moment it comes due. -/
theorem usePromptly_eq (uses : List Use) : ∀ s t : Traced Simulator,
    t.hardware = s.hardware.deliverPulse → t.trace = s.trace →
      (t.usePromptly uses).hardware = (s.use uses).hardware.deliverPulse ∧
        (t.usePromptly uses).trace = (s.use uses).trace := by
  induction uses with
  | nil => exact fun s t h htrace => ⟨h, htrace⟩
  | cons use uses ih =>
    intro s t h htrace
    obtain ⟨hafter, htraced⟩ := performPromptly_eq h htrace use
    exact ih (use.perform s) (use.performPromptly t) hafter htraced

end Traced

namespace Simulator

/-- Looks at a transceiver, however many and whenever they come, change none of the answers of its
other accesses, nor the log, nor what is plugged in: once nothing is due any more, they have only
made the interrupt be read more often. Neither does anything change if each pulse raises the
interrupt at the very moment it comes due, so that none is ever found waiting. -/
theorem watching_unnoticed (s : Simulator) (moments : List Moment) :
    ∃ watched unwatched prompt : Traced Simulator,
      Traced.useWatched ⟨s, #[]⟩ moments = watched ∧
      Traced.use ⟨s, #[]⟩ (moments.filterMap Moment.use?) = unwatched ∧
      Traced.usePromptly ⟨s.deliverPulse, #[]⟩ (moments.filterMap Moment.use?) = prompt ∧
      watched.trace = unwatched.trace ∧
      watched.hardware.log = unwatched.hardware.log ∧
      watched.hardware.devices = unwatched.hardware.devices ∧
      watched.hardware.deliverPulse =
        unwatched.hardware.deliverPulse.read (Moment.allReads moments) ∧
      prompt.trace = unwatched.trace ∧
      prompt.hardware = unwatched.hardware.deliverPulse ∧ prompt.hardware.NoneDue := by
  have hself : s.Matches 0 s := ⟨rfl⟩
  obtain ⟨hmatches, hanswers⟩ :=
    Traced.useWatched_matches moments ⟨s, #[]⟩ ⟨s, #[]⟩ 0 hself rfl
  obtain ⟨hprompt, htold⟩ :=
    Traced.usePromptly_eq (moments.filterMap Moment.use?) ⟨s, #[]⟩ ⟨s.deliverPulse, #[]⟩ rfl rfl
  rw [Nat.zero_add] at hmatches
  refine ⟨_, _, _, rfl, rfl, rfl, hanswers, hmatches.log, hmatches.devices, hmatches.delivered,
    htold, hprompt, ?_⟩
  rw [hprompt]
  exact noneDue_deliverPulse _

end Simulator

end ConsoleBus

import ConsoleBus.Proofs.Program
import ConsoleBus.Proofs.Simulator.Packets
import ConsoleBus.Proofs.Simulator.Session

/-!
# The history of a session

The wire carries resets and whole packets and nothing else. A `Course` follows a session together
with the calls that its commands made, as `Recorded` notes them, and with the events that are gone
from the log because it was cleared. Every action keeps the course `WellKept`, whether its commands
succeed or fail, so that every session does.
-/

namespace ConsoleBus

/-- What a session has asked for that shows on the wire, or that decides on which port it shows. -/
inductive Doing where
  | reset
  | call (call : Call)

/-- The port that was selected last since the last reset. -/
def selectedBy (doings : List Doing) : Port :=
  doings.foldl (fun port doing => match doing with
    | .reset => .one
    | .call (.selectPort port) => port
    | .call (.exchange ..) | .call (.send ..) => port) .one

/-- The events of a session in which the given things were asked for: a reset for each time the
transceiver was set up, and one packet for each exchange and for each packet sent, on the port that
was selected then. -/
inductive Transcript : List Doing → List Event → Prop where
  | nil : Transcript [] []
  | reset {doings : List Doing} {events : List Event} (h : Transcript doings events) :
    Transcript (doings ++ [.reset]) (events ++ [.reset])
  | selectPort {doings : List Doing} {events : List Event} (h : Transcript doings events)
    (port : Port) : Transcript (doings ++ [.call (.selectPort port)]) events
  | exchange {doings : List Doing} {events packet : List Event} (h : Transcript doings events)
    (address : Address) (request : List UInt8) (capacity : Nat)
    (hpacket : Packet (selectedBy doings) address packet) :
    Transcript (doings ++ [.call (.exchange address request capacity)]) (events ++ packet)
  | send {doings : List Doing} {events packet : List Event} (h : Transcript doings events)
    (address : Address) (request : List UInt8)
    (hpacket : Packet (selectedBy doings) address packet) :
    Transcript (doings ++ [.call (.send address request)]) (events ++ packet)

/-- How far a session has come. -/
structure Course where
  simulator : Simulator
  /-- The events before the log was last cleared. -/
  forgotten : List Event
  /-- What has been asked for, oldest first. -/
  doings : List Doing

namespace Course

/-- A transceiver that has just been switched on. -/
def start (now : Nat) (devices : PerPort (Option Device)) (latency : Nat) : Course :=
  ⟨Simulator.switchedOn now devices latency, [], []⟩

/-- All events since the transceiver was switched on. -/
def history (course : Course) : List Event := course.forgotten ++ course.simulator.log.history

/-- The course after some calls that left the transceiver in the given state. -/
def after (course : Course) (calls : Array Call) (s : Simulator) : Course :=
  { course with
    simulator := s
    doings := course.doings ++ calls.toList.map .call }

/-- The course after one more action, if the action comes to an end. -/
def next (config : Config) (course : Course) : Action → Option Course
  | .setUp => ((Bus.setUp : Bus Simulator Unit) config course.simulator).map fun (_, s) =>
    { course with
      simulator := s
      doings := course.doings ++ [.reset] }
  | .wait timeout =>
    ((Bus.waitAcknowledge timeout : Bus Simulator Bool) config course.simulator).map fun (_, s) =>
      { course with simulator := s }
  | .command command =>
    ((command.run : Recorded (Bus Simulator) Outcome) #[] config course.simulator).map
      fun ((_, calls), s) => course.after calls s
  | .handle handling =>
    some { course with
      simulator := handling.apply course.simulator
      forgotten := if handling = .clearLog then course.history else course.forgotten }

/-- The course after a whole list of actions. -/
def follow (config : Config) (course : Course) (actions : List Action) : Option Course :=
  actions.foldlM (next config) course

/-! ## Courses that are well kept -/

/-- The transceiver is at rest with the selected port, and the history is a transcript. -/
structure WellKept (course : Course) : Prop where
  rests : Simulator.Rests (selectedBy course.doings) course.simulator
  transcript : Transcript course.doings course.history

variable {course : Course} {config : Config}

theorem selectedBy_concat (doings : List Doing) (doing : Doing) :
    selectedBy (doings ++ [doing]) = match doing with
      | .reset => .one
      | .call (.selectPort port) => port
      | .call (.exchange ..) | .call (.send ..) => selectedBy doings := by
  unfold selectedBy
  rw [List.foldl_append]
  rfl

theorem after_push (course : Course) (calls : Array Call) (call : Call) (s t : Simulator) :
    course.after (calls.push call) t =
      { course.after calls s with
        simulator := t
        doings := (course.after calls s).doings ++ [.call call] } := by
  unfold after
  rw [Array.toList_push, List.map_append, ← List.append_assoc]
  rfl

/-- A call is noted and then carried out. -/
theorem recorded_run {α : Type} {routine : Bus Simulator α} {s t : Simulator} {a : α}
    (h : routine config s = some (a, t)) (call : Call) (calls : Array Call) :
    (do
      Recorded.note call
      routine : Recorded (Bus Simulator) α) calls config s = some ((a, calls.push call), t) := by
  show (routine config s).bind _ = _
  rw [h]
  rfl

/-- A packet on the selected port keeps a course well kept. -/
theorem wellKept_packet {address : Address} {call : Call} {t : Simulator}
    (hsends : Simulator.Sends (selectedBy course.doings) address course.simulator t)
    (hcall : selectedBy (course.doings ++ [.call call]) = selectedBy course.doings)
    (hstep : ∀ packet, Packet (selectedBy course.doings) address packet →
      Transcript (course.doings ++ [.call call]) (course.history ++ packet)) :
    WellKept { course with simulator := t, doings := course.doings ++ [.call call] } := by
  obtain ⟨packet, hhistory, hpacket⟩ := hsends.history
  refine ⟨?_, ?_⟩
  · show Simulator.Rests (selectedBy (course.doings ++ [.call call])) t
    rw [hcall]
    exact hsends.rests
  · show Transcript _ (course.forgotten ++ t.log.history)
    rw [hhistory, ← List.append_assoc]
    exact hstep packet hpacket

/-- Nothing but time passing keeps a course well kept. -/
theorem WellKept.sameWire {t : Simulator} (h : course.WellKept)
    (hwire : Simulator.SameWire course.simulator t) :
    WellKept { course with simulator := t } := by
  refine ⟨⟨hwire.control.trans h.rests.control, hwire.stage.trans h.rests.stage⟩, ?_⟩
  show Transcript _ (course.forgotten ++ t.log.history)
  rw [hwire.log]
  exact h.transcript

/-! ## Every call and every action keeps courses well -/

theorem keeps_selectPort (course : Course) (port : Port) :
    Program.Keeps config (fun calls s => (course.after calls s).WellKept)
      (Transport.selectPort port : Recorded (Bus Simulator) Unit) := by
  intro calls s h
  have hrun : (Bus.selectPort port : Bus Simulator Unit) config s = _ :=
    Simulator.selectPort_run h.rests.control port
  refine ⟨_, _, _, recorded_run hrun (.selectPort port) calls, ?_⟩
  have hwire := Simulator.sameWire_deliverPulse s
  show (course.after (calls.push (.selectPort port)) _).WellKept
  rw [after_push _ _ _ s]
  refine ⟨?_, ?_⟩
  · show Simulator.Rests (selectedBy ((course.after calls s).doings ++ _)) _
    rw [selectedBy_concat]
    exact ⟨rfl, hwire.stage.trans h.rests.stage⟩
  · show Transcript ((course.after calls s).doings ++ _) (course.forgotten ++
      s.deliverPulse.log.history)
    rw [hwire.log]
    exact h.transcript.selectPort port

theorem keeps_exchange (course : Course) (address : Address) (request buffer : List UInt8) :
    Program.Keeps config (fun calls s => (course.after calls s).WellKept)
      (Transport.exchange address request buffer : Recorded (Bus Simulator) Reply) := by
  intro calls s h
  obtain ⟨reply, t, hrun, hsends⟩ :=
    Simulator.exchange_sends config h.rests address request buffer
  refine ⟨_, _, _, recorded_run hrun (.exchange address request buffer.length) calls, ?_⟩
  show (course.after (calls.push _) t).WellKept
  rw [after_push _ _ _ s]
  exact wellKept_packet hsends (selectedBy_concat _ _)
    fun packet hpacket => h.transcript.exchange address request buffer.length hpacket

theorem keeps_send (course : Course) (address : Address) (request : List UInt8) :
    Program.Keeps config (fun calls s => (course.after calls s).WellKept)
      (Transport.send address request : Recorded (Bus Simulator) Unit) := by
  intro calls s h
  obtain ⟨t, hrun, hsends⟩ := Simulator.send_sends config h.rests address request
  refine ⟨_, _, _, recorded_run hrun (.send address request) calls, ?_⟩
  show (course.after (calls.push _) t).WellKept
  rw [after_push _ _ _ s]
  exact wellKept_packet hsends (selectedBy_concat _ _)
    fun packet hpacket => h.transcript.send address request hpacket

/-- Setting up keeps any transcript, whatever state the transceiver is in. -/
theorem setUp_wellKept (config : Config) (course : Course)
    (h : Transcript course.doings course.history) :
    ∃ after, course.next config .setUp = some after ∧ after.WellKept := by
  rw [next, Simulator.setUp_run]
  refine ⟨_, rfl, ?_, ?_⟩
  · show Simulator.Rests (selectedBy (course.doings ++ [.reset])) _
    rw [selectedBy_concat]
    exact ⟨rfl, rfl⟩
  · show Transcript _ (course.forgotten ++ (course.simulator.deliverPulse.log.record .reset).history)
    rw [EventLog.history_record, (Simulator.sameWire_deliverPulse _).log, ← List.append_assoc]
    exact h.reset

theorem WellKept.next (config : Config) (h : course.WellKept) (action : Action) :
    ∃ after, course.next config action = some after ∧ after.WellKept := by
  cases action with
  | setUp => exact setUp_wellKept config course h.transcript
  | wait timeout =>
    obtain ⟨seen, t, hwait, hpassed⟩ :=
      Simulator.waitAcknowledge_passed config
        (Simulator.steady_of_driven h.rests.control).strobeless timeout
    rw [Course.next, hwait]
    exact ⟨_, rfl, h.sameWire hpassed.wire⟩
  | command command =>
    -- The calls of the command start from an empty record.
    have hstart : (course.after #[] course.simulator).WellKept := by
      unfold after
      rw [Array.toList_empty, List.map_nil, List.append_nil]
      exact h
    have hkeeps : Program.Keeps config (fun calls s => (course.after calls s).WellKept)
        (command.run : Recorded (Bus Simulator) Outcome) :=
      Program.keeps_run (keeps_selectPort course) (keeps_exchange course) (keeps_send course)
        command
    obtain ⟨outcome, calls, t, hrun, ht⟩ := hkeeps #[] course.simulator hstart
    rw [Course.next, hrun]
    exact ⟨_, rfl, ht⟩
  | handle handling =>
    obtain ⟨hcontrol, hstage, -, -⟩ := handling.apply_frame course.simulator
    refine ⟨_, rfl, ⟨hcontrol.trans h.rests.control, hstage.trans h.rests.stage⟩, ?_⟩
    show Transcript _ ((if handling = .clearLog then course.history else course.forgotten) ++
      (handling.apply course.simulator).log.history)
    by_cases hclear : handling = .clearLog
    · rw [if_pos hclear, hclear]
      show Transcript _ (course.history ++ [])
      rw [List.append_nil]
      exact h.transcript
    · rw [if_neg hclear, handling.apply_log _ hclear]
      exact h.transcript

theorem WellKept.follow (config : Config) (actions : List Action) : ∀ {course : Course},
    course.WellKept → ∃ after, course.follow config actions = some after ∧ after.WellKept := by
  induction actions with
  | nil => exact fun {course} h => ⟨course, rfl, h⟩
  | cons action actions ih =>
    intro course h
    obtain ⟨between, hfirst, hbetween⟩ := h.next config action
    obtain ⟨after, hrest, hafter⟩ := ih hbetween
    refine ⟨after, ?_, hafter⟩
    unfold Course.follow at hrest ⊢
    rw [List.foldlM_cons, hfirst]
    exact hrest

/-- Every session with a transceiver that has just been switched on comes to an end once it begins
with setting up. Then attention is released and no packet is on its way, the control register has
sending, receiving and interrupts enabled and is routed to the selected port, the history is a
transcript of what was asked for, and the log shows the first events since it was last cleared. -/
theorem follow_switchedOn (config : Config) (now : Nat) (devices : PerPort (Option Device))
    (latency : Nat) (actions : List Action) :
    ∃ course, (start now devices latency).follow config (.setUp :: actions) = some course ∧
      course.simulator.attention = false ∧
      course.simulator.stage = .idle ∧
      course.simulator.control = (if selectedBy course.doings = .two then
        Control.enabled.union Control.secondPort else Control.enabled) ∧
      Transcript course.doings course.history ∧
      course.simulator.log.shown.toList =
        (course.history.drop course.forgotten.length).take EventLog.capacity := by
  obtain ⟨first, hfirst, hkept⟩ :=
    setUp_wellKept config (start now devices latency) .nil
  obtain ⟨course, hrun, h⟩ := hkept.follow config actions
  refine ⟨course, ?_, Simulator.attention_of_driven h.rests.control, h.rests.stage, ?_,
    h.transcript, ?_⟩
  · unfold Course.follow at hrun ⊢
    rw [List.foldlM_cons, hfirst]
    exact hrun
  · rw [h.rests.control]
    cases selectedBy course.doings <;> rfl
  · rw [EventLog.shown_eq_take, history, List.drop_left]

end Course

end ConsoleBus

import ConsoleBus.Port

/-!
# The log of the wire

What happened on the wire is kept in a log with room for a fixed number of events. Events that no
longer fit are set aside, so that the log shows only the first ones while nothing of the history
is forgotten.
-/

namespace ConsoleBus

/-- Something that happened on the wire. -/
inductive Event where
  /-- The transceiver was reset. -/
  | reset
  /-- Attention was asserted or released on a port. -/
  | attention (port : Port) (asserted : Bool)
  /-- A byte went out and another came in while attention was asserted. -/
  | byte (port : Port) (sent received : UInt8)
  deriving DecidableEq, Repr

/-- The number of events that a log shows. -/
def EventLog.capacity : Nat := 1024

/-- Events in the order they happened. -/
structure EventLog where
  /-- The events the log has room for: the first ones since it was last cleared. -/
  shown : Array Event
  /-- The events that came when the log was full. -/
  setAside : Array Event
  /-- No more is shown than there is room for. -/
  size_le : shown.size ≤ EventLog.capacity
  /-- Nothing is set aside before the log is full. -/
  setAside_eq : shown.size < EventLog.capacity → setAside = #[]
  deriving DecidableEq

namespace EventLog

/-- A log without events. -/
def empty : EventLog := ⟨#[], #[], Nat.zero_le _, fun _ => rfl⟩

instance : Inhabited EventLog := ⟨empty⟩

/-- The log with one more event. -/
def record (log : EventLog) (event : Event) : EventLog :=
  if h : log.shown.size < capacity then
    { shown := log.shown.push event
      setAside := log.setAside
      size_le := by rw [Array.size_push]; exact h
      setAside_eq := fun _ => log.setAside_eq h }
  else
    { shown := log.shown
      setAside := log.setAside.push event
      size_le := log.size_le
      setAside_eq := fun h' => absurd h' h }

/-- All events since the log was cleared, shown or not. -/
def history (log : EventLog) : List Event := log.shown.toList ++ log.setAside.toList

/-- The history of an empty log is empty. -/
@[simp] theorem history_empty : empty.history = [] := rfl

/-- Recording an event puts it at the end of the history. -/
@[simp] theorem history_record (log : EventLog) (event : Event) :
    (log.record event).history = log.history ++ [event] := by
  unfold record history
  split
  · rename_i h
    simp [log.setAside_eq h]
  · simp

/-- What the log shows is the beginning of its history. -/
theorem shown_eq_take (log : EventLog) : log.shown.toList = log.history.take capacity := by
  unfold history
  by_cases h : log.shown.size < capacity
  · rw [log.setAside_eq h, Array.toList_empty, List.append_nil, List.take_of_length_le]
    rw [Array.length_toList]
    exact log.size_le
  · have hsize : log.shown.toList.length = capacity := by
      rw [Array.length_toList]
      exact Nat.le_antisymm log.size_le (Nat.le_of_not_lt h)
    rw [← hsize, List.take_left]

/-- The number of events shown. -/
def size (log : EventLog) : Nat := log.shown.size

/-- The events shown after the first `mark` of them. -/
def since (log : EventLog) (mark : Nat) : List Event := log.shown.toList.drop mark

/-- The bytes sent on a port, as far as they are shown. -/
def sent (log : EventLog) (port : Port) : List UInt8 :=
  log.shown.toList.filterMap fun
    | .byte at' sent _ => if at' = port then some sent else none
    | _ => none

/-- How often attention is shown to have been asserted, or released, on a port. -/
def edges (log : EventLog) (port : Port) (asserted : Bool) : Nat :=
  log.shown.toList.countP fun event => event == .attention port asserted

end EventLog

end ConsoleBus

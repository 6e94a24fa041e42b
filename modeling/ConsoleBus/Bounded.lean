/-!
# Lists with a limit

A buffer of fixed size takes items until it is full and drops those that come later.
-/

namespace ConsoleBus.Bounded

variable {α : Type}

/-- The items followed by one more, if there is room for it among `capacity`. -/
def push (capacity : Nat) (items : List α) (item : α) : List α :=
  if items.length < capacity then items ++ [item] else items

theorem length_push_le {capacity : Nat} {items : List α} (item : α)
    (h : items.length ≤ capacity) : (push capacity items item).length ≤ capacity := by
  unfold push
  split
  · rw [List.length_append]; exact ‹items.length < capacity›
  · exact h

end ConsoleBus.Bounded

import ConsoleBus.CommandError
import ConsoleBus.Flags

/-!
# The two ports

The console has two connectors, each with a slot for a pad and one for a memory card. Both share
the data lines, and the attention line is routed to one of them at a time.
-/

namespace ConsoleBus

/-- A layout for sets of ports: bit `n` stands for the port with index `n`. -/
abbrev PortMask.layout : Layout where
  title := "PortMask"
  width := 8
  flags := [⟨"PORT1", 0b01⟩, ⟨"PORT2", 0b10⟩]

/-- A set of ports. -/
abbrev PortMask := Flags PortMask.layout

/-- One of the two connectors. -/
inductive Port where
  | one
  | two
  deriving DecidableEq, Repr, Inhabited

namespace Port

/-- Both ports, in bus order. -/
def all : List Port := [one, two]

/-- The port's number, from zero. -/
def index : Port → Nat
  | one => 0
  | two => 1

/-- The port with the given number. -/
def ofIndex : Nat → Except CommandError Port
  | 0 => .ok one
  | 1 => .ok two
  | _ => .error .invalidPort

/-- The set that holds just this port. -/
def mask : Port → PortMask
  | one => ⟨0b01⟩
  | two => ⟨0b10⟩

end Port

namespace PortMask

/-- Whether the port is in the set. -/
def has (mask : PortMask) (port : Port) : Bool := mask.contains port.mask

/-- The ports of the set, in bus order. -/
def ports (mask : PortMask) : List Port := Port.all.filter mask.has

end PortMask

/-- One value for each port. -/
structure PerPort (α : Type) where
  /-- The value for the first port. -/
  one : α
  /-- The value for the second port. -/
  two : α
  deriving DecidableEq, Repr, Inhabited

namespace PerPort

variable {α : Type}

/-- The value for the given port. -/
def get (values : PerPort α) : Port → α
  | .one => values.one
  | .two => values.two

/-- The same values but for the given port. -/
def set (values : PerPort α) (port : Port) (value : α) : PerPort α :=
  match port with
  | .one => { values with one := value }
  | .two => { values with two := value }

@[simp] theorem get_set (values : PerPort α) (port : Port) (value : α) :
    (values.set port value).get port = value := by
  cases port <;> rfl

@[simp] theorem get_set_of_ne (values : PerPort α) {port other : Port} (value : α)
    (h : other ≠ port) : (values.set port value).get other = values.get other := by
  cases port <;> cases other
  · exact absurd rfl h
  · rfl
  · rfl
  · exact absurd rfl h

end PerPort

end ConsoleBus

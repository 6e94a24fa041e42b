import ConsoleBus.Bus.Exchange
import ConsoleBus.Proofs.Routine
import ConsoleBus.Proofs.Simulator.Lines

/-!
# The simulated control register as the bus drives it

Once it is set up, the bus only ever leaves four values in the control register: attention may be
asserted or not, and it is routed to one of two ports. Here are the facts about these four values.
-/

namespace ConsoleBus

namespace Control

/-- The value for a port, with attention asserted or not. -/
def driven (port : Port) (asserted : Bool) : Control :=
  let control := match port with
    | .one => enabled
    | .two => enabled.union secondPort
  if asserted then control.union attention else control

variable (port : Port) (asserted : Bool)

theorem contains_attention_driven : (driven port asserted).contains attention = asserted := by
  cases port <;> cases asserted <;> decide

theorem contains_interruptEnable_driven :
    (driven port asserted).contains interruptEnable = true := by
  cases port <;> cases asserted <;> decide

theorem strobeless_driven : (driven port asserted).Strobeless := by
  constructor <;> cases port <;> cases asserted <;> decide

theorem union_attention_driven : (driven port false).union attention = driven port true := by
  cases port <;> decide

theorem diff_attention_driven : (driven port true).diff attention = driven port false := by
  cases port <;> decide

theorem route_driven (other : Port) :
    route other (driven port false) = driven other false := by
  cases port <;> cases other <;> decide

theorem contains_secondPort_driven :
    (driven port asserted).contains secondPort = decide (port = .two) := by
  cases port <;> cases asserted <;> decide

end Control

namespace Simulator

variable {s : Simulator} {port : Port} {asserted : Bool}

theorem port_of_driven (h : s.control = Control.driven port asserted) : s.port = port := by
  unfold Simulator.port
  rw [h, Control.contains_secondPort_driven]
  cases port <;> rfl

theorem attention_of_driven (h : s.control = Control.driven port asserted) :
    s.attention = asserted := by
  unfold Simulator.attention
  rw [h, Control.contains_attention_driven]

theorem steady_of_driven (h : s.control = Control.driven port asserted) : s.Steady asserted := by
  refine ⟨attention_of_driven h, ?_⟩
  rw [h]
  exact Control.strobeless_driven port asserted

end Simulator

end ConsoleBus

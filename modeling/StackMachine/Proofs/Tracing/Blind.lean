import StackMachine.Proofs.Oblivious

/-!
# What the trace flag does not touch

The flag that puts the trace on is part of the machine, but no operation on the machine looks at
it.  Whether it is switched before an operation or after makes no difference.

* `Machine.switched`, `Blind` — the other flag, and the operations that do not see it.
* `Oblivious.blind` — what sees neither the flag nor its place does not see the flag.
* `Machine.execute_blind` — the effect of every instruction is one of them.
-/

namespace StackMachine

/-- The machine with its trace switched, if `flip` says so. -/
def Machine.switched (flip : Bool) (m : Machine) : Machine := { m with trace := flip ^^ m.trace }

/-- **An operation that does not see the trace flag**: it mirrors itself when the flag is
switched. -/
def Blind {α : Type} (x : MachineM α) : Prop :=
  ∀ flip m, Mirrors (Machine.switched flip) x x m fun _ _ => True

lemma Oblivious.blind {α : Type} {x : MachineM α} (hx : Oblivious id x) : Blind x :=
  fun flip m => hx (flip ^^ ·) m

namespace Machine

lemma push_blind (w : Word) : Blind (push w) := (push_oblivious w).blind

lemma pop_blind : Blind pop := pop_oblivious.blind

/-- **No instruction looks at the trace flag** in what it does to the machine. -/
theorem execute_blind (program : Program) (ins : Instruction) : Blind (execute program ins) :=
  (execute_oblivious program ins fun _ _ => rfl).blind

end Machine

end StackMachine

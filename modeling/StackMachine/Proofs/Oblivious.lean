import StackMachine.Machine.Effect
import StackMachine.Proofs.Mirrors

/-!
# What operations do not look at

The place of an instruction and the flag that puts the trace on are part of the machine.  Only a
call looks at its place, which it leaves as a return point, and no operation on the machine looks at
the flag.  Whether they are changed before an operation or after makes no difference.

* `Machine.disguised`, `Oblivious` — another flag and place, and the operations that do not see
  them.
* `Oblivious.bind`, `Oblivious.get_bind` and the like — how such operations are put together.
* `Machine.execute_oblivious` — the effect of every instruction is one of them, but for the place
  of a call.
-/

namespace StackMachine

/-- The machine with another trace flag, and at another place. -/
def Machine.disguised (flag : Bool → Bool) (place : Nat → Nat) (m : Machine) : Machine :=
  { m with
    registers.ip := place m.registers.ip
    trace := flag m.trace }

/-- **An operation that does not see the trace flag nor the place**: it mirrors itself when they are
changed. -/
def Oblivious (place : Nat → Nat) {α : Type} (x : MachineM α) : Prop :=
  ∀ flag m, Mirrors (Machine.disguised flag place) x x m fun _ _ => True

namespace Oblivious

variable {place : Nat → Nat} {α β : Type} {x : MachineM α} {f : α → MachineM β}

lemma pure (a : α) : Oblivious place (Pure.pure a) := by
  intro flag m
  exact Mirrors.pure trivial

lemma throw (e : MachineError) : Oblivious place (MonadExcept.throw e : MachineM α) := by
  intro flag m
  exact Mirrors.throw e

lemma check (c : Except MachineError α) : Oblivious place (liftM c) := by
  intro flag m
  exact (Mirrors.check c).forget

lemma bind (hx : Oblivious place x) (hf : ∀ a, Oblivious place (f a)) :
    Oblivious place (x >>= f) := by
  intro flag m
  refine Mirrors.bind (hx flag m) ?_
  intro a t _
  exact hf a flag t

/-- What is answered has nothing to do with the machine. -/
lemma answer (hx : Oblivious place x) (g : α → β) :
    Oblivious place (x >>= fun a => Pure.pure (g a)) :=
  bind hx fun a => pure (g a)

/-- What is read of the machine has to be the same with another flag and place. -/
lemma get_bind {f : Machine → MachineM β} (hf : ∀ m, Oblivious place (f m))
    (same : ∀ flag m, f (Machine.disguised flag place m) = f m) :
    Oblivious place (get >>= f) := by
  intro flag m
  refine Mirrors.get_bind ?_
  rw [same flag m]
  exact hf m flag m

lemma update {p : Machine → Machine}
    (same : ∀ flag m, (p m).disguised flag place = p (m.disguised flag place)) :
    Oblivious place (modify p) := by
  intro flag m
  exact (Mirrors.update (same flag m)).forget

lemma ite {c : Prop} [Decidable c] {x y : MachineM α} (hx : Oblivious place x)
    (hy : Oblivious place y) : Oblivious place (if c then x else y) := by
  split
  · exact hx
  · exact hy

end Oblivious

namespace Machine

variable {place : Nat → Nat}

/-! ## The stack and its cells -/

lemma checked_oblivious (x : Int) : Oblivious place (checked x) :=
  Oblivious.ite (Oblivious.pure x) (Oblivious.throw _)

lemma load_oblivious (address : Int) : Oblivious place (load address) := by
  refine Oblivious.get_bind ?_ (fun _ _ => rfl)
  intro m
  exact Oblivious.check _

lemma store_oblivious (address : Int) (w : Word) : Oblivious place (store address w) := by
  refine Oblivious.get_bind ?_ (fun _ _ => rfl)
  intro m
  refine Oblivious.bind (Oblivious.check _) ?_
  intro memory
  exact Oblivious.update fun _ _ => rfl

lemma top_oblivious : Oblivious place top := by
  refine Oblivious.get_bind ?_ (fun _ _ => rfl)
  intro m
  exact Oblivious.ite (Oblivious.throw _) (load_oblivious _)

lemma push_oblivious (w : Word) : Oblivious place (push w) := by
  refine Oblivious.bind (Oblivious.update fun _ _ => rfl) ?_
  intro _
  refine Oblivious.get_bind ?_ (fun _ _ => rfl)
  intro m
  exact store_oblivious _ w

lemma pop_oblivious : Oblivious place pop := by
  refine Oblivious.bind top_oblivious ?_
  intro w
  refine Oblivious.get_bind ?_ (fun _ _ => rfl)
  intro m
  refine Oblivious.bind (store_oblivious _ _) ?_
  intro _
  exact Oblivious.answer (Oblivious.update fun _ _ => rfl) _

lemma popMany_oblivious (count : Nat) : Oblivious place (popMany count) := by
  induction count with
  | zero => exact Oblivious.pure _
  | succ count ih => exact Oblivious.bind pop_oblivious fun _ => ih

lemma localAddress_oblivious (i : Int) : Oblivious place (localAddress i) := by
  refine Oblivious.get_bind ?_ (fun _ _ => rfl)
  intro m
  refine Oblivious.bind (checked_oblivious _) ?_
  intro address
  exact checked_oblivious _

lemma slot_oblivious (address : Int) : Oblivious place (slot address) := by
  refine Oblivious.get_bind ?_ (fun _ _ => rfl)
  intro m
  exact checked_oblivious _

lemma loadGlobal_oblivious (i : Int) : Oblivious place (loadGlobal i) :=
  Oblivious.bind (slot_oblivious i) load_oblivious

lemma storeGlobal_oblivious (i : Int) (w : Word) : Oblivious place (storeGlobal i w) := by
  refine Oblivious.bind (slot_oblivious i) ?_
  intro address
  exact store_oblivious address w

lemma loadLocal_oblivious (i : Int) : Oblivious place (loadLocal i) :=
  Oblivious.bind (localAddress_oblivious i) loadGlobal_oblivious

lemma storeLocal_oblivious (i : Int) (w : Word) : Oblivious place (storeLocal i w) := by
  refine Oblivious.bind (localAddress_oblivious i) ?_
  intro address
  exact storeGlobal_oblivious address w

/-! ## Frames -/

lemma moveBase_oblivious (distance : Int) : Oblivious place (moveBase distance) := by
  refine Oblivious.get_bind ?_ (fun _ _ => rfl)
  intro m
  refine Oblivious.bind (checked_oblivious _) ?_
  intro base
  exact Oblivious.update fun _ _ => rfl

lemma openFrame_oblivious (size : Nat) : Oblivious place (openFrame size) :=
  Oblivious.bind (checked_oblivious _) moveBase_oblivious

lemma closeFrame_oblivious (size : Nat) : Oblivious place (closeFrame size) := by
  refine Oblivious.bind (checked_oblivious _) ?_
  intro distance
  exact moveBase_oblivious (-distance)

lemma depth_oblivious : Oblivious place depth := by
  refine Oblivious.get_bind ?_ (fun _ _ => rfl)
  intro m
  refine Oblivious.bind (checked_oblivious _) ?_
  intro above
  exact checked_oblivious (above + 1)

lemma moveDown_oblivious (distance : Int) (target count : Nat) :
    Oblivious place (moveDown distance target count) := by
  induction count generalizing target with
  | zero => exact Oblivious.pure _
  | succ count ih =>
      refine Oblivious.bind (checked_oblivious _) ?_
      intro source
      refine Oblivious.bind (loadLocal_oblivious source) ?_
      intro w
      refine Oblivious.bind (storeLocal_oblivious _ w) ?_
      intro _
      exact ih (target + 1)

lemma collapseFrame_oblivious (results : Nat) : Oblivious place (collapseFrame results) := by
  refine Oblivious.bind depth_oblivious ?_
  intro size
  refine Oblivious.bind (checked_oblivious _) ?_
  intro wanted
  refine Oblivious.bind (checked_oblivious _) ?_
  intro others
  refine Oblivious.ite ?_ (Oblivious.pure _)
  refine Oblivious.bind (moveDown_oblivious _ _ _) ?_
  intro _
  refine Oblivious.get_bind ?_ (fun _ _ => rfl)
  intro m
  refine Oblivious.bind (checked_oblivious _) ?_
  intro top
  exact Oblivious.update fun _ _ => rfl

lemma popReturn_oblivious : Oblivious place popReturn := by
  refine Oblivious.get_bind ?_ (fun _ _ => rfl)
  intro m
  split
  next => exact Oblivious.throw _
  next => exact Oblivious.answer (Oblivious.update fun _ _ => rfl) _

lemma enterRoutine_oblivious (frame : Nat) : Oblivious id (enterRoutine frame) := by
  refine Oblivious.bind pop_oblivious ?_
  intro w
  refine Oblivious.bind (Oblivious.check _) ?_
  intro target
  refine Oblivious.bind (Oblivious.update fun _ _ => rfl) ?_
  intro _
  exact Oblivious.answer (openFrame_oblivious frame) _

lemma leaveRoutine_oblivious (results : Nat) : Oblivious place (leaveRoutine results) := by
  refine Oblivious.bind (collapseFrame_oblivious results) ?_
  intro _
  refine Oblivious.bind popReturn_oblivious ?_
  intro point
  exact Oblivious.answer (closeFrame_oblivious _) _

/-! ## Instructions -/

/-- Something pushed, however it was found. -/
lemma push_next_oblivious {α : Type} {x : MachineM α} {g : α → Word} (hx : Oblivious place x) :
    Oblivious place (do push (g (← x)); return Flow.next) := by
  refine Oblivious.bind hx ?_
  intro a
  exact Oblivious.answer (push_oblivious (g a)) _

/-- **No instruction but a call** looks at the trace flag or at its place in what it does to the
machine, and a call does not look at the trace flag. -/
theorem execute_oblivious (program : Program) (ins : Instruction)
    (still : ∀ frame, ins = .call frame → place = id) :
    Oblivious place (execute program ins) := by
  cases ins with
  | nop => exact Oblivious.pure _
  | halt => exact Oblivious.pure _
  | literal w => exact push_next_oblivious (g := id) (Oblivious.pure w)
  | loadLocal i => exact push_next_oblivious (g := id) (loadLocal_oblivious _)
  | loadGlobal i => exact push_next_oblivious (g := id) (loadGlobal_oblivious _)
  | storeLocal i =>
      refine Oblivious.bind pop_oblivious ?_
      intro w
      exact Oblivious.answer (storeLocal_oblivious _ w) _
  | storeGlobal i =>
      refine Oblivious.bind pop_oblivious ?_
      intro w
      exact Oblivious.answer (storeGlobal_oblivious _ w) _
  | localAddress i => exact push_next_oblivious (localAddress_oblivious _)
  | globalAddress i => exact push_next_oblivious (g := id) (Oblivious.pure i)
  | unary op =>
      refine Oblivious.bind pop_oblivious ?_
      intro x
      exact push_next_oblivious (g := id) (Oblivious.check (op.apply x))
  | binary op =>
      refine Oblivious.bind pop_oblivious ?_
      intro right
      refine Oblivious.bind pop_oblivious ?_
      intro left
      exact push_next_oblivious (g := id) (Oblivious.check (op.apply left right))
  | pop count => exact Oblivious.answer (popMany_oblivious count) _
  | dup => exact push_next_oblivious (g := id) top_oblivious
  | swap =>
      refine Oblivious.bind pop_oblivious ?_
      intro first
      refine Oblivious.bind pop_oblivious ?_
      intro second
      refine Oblivious.bind (push_oblivious first) ?_
      intro _
      exact Oblivious.answer (push_oblivious second) _
  | call frame =>
      obtain rfl := still frame rfl
      exact enterRoutine_oblivious frame
  | ret results => exact leaveRoutine_oblivious results
  | goto label => exact Oblivious.answer (Oblivious.check _) _
  | branch yes no =>
      refine Oblivious.bind (Oblivious.check _) ?_
      intro yes
      refine Oblivious.bind (Oblivious.check _) ?_
      intro no
      exact Oblivious.answer pop_oblivious _
  | code label => exact push_next_oblivious (Oblivious.check (program.label label))
  | system service => exact Oblivious.pure _
  | unknown row => exact Oblivious.throw _

end Machine

end StackMachine

import StackMachine.Proofs.Run
import StackMachine.Proofs.Strict.Division

/-!
# The strict machine

The machine checks every sum with an operand, but it moves the stack top by one without a check,
goes on to the next instruction or behind a call without one, and makes words of places without one.
The strict machine is the same machine with a check at each of these too.  It stops where one fails.

* `StrictM` — strict operations.
* `Strict.push`, `Strict.pop`, `Strict.execute` and the like — the strict machine.
* `Strict.perform`, `Strict.step` — the same at the console, and a step of a run.
* `Agrees`, with `Agrees.bind` and the like — strict operations that do what the machine does.
-/

namespace StackMachine

/-- A strict operation. -/
abbrev StrictM (σ : Type) := EStateM Strict.Stop σ

/-- An operation of the machine as a strict one, which it is when all of it is checked. -/
def Strict.ofMachine {σ α : Type} (operation : EStateM MachineError σ α) : StrictM σ α := fun s =>
  match operation s with
  | .ok a t => .ok a t
  | .error e t => .error (.failed e) t

instance {σ : Type} : MonadLift (EStateM MachineError σ) (StrictM σ) := ⟨Strict.ofMachine⟩

/-- A strict computation, as part of an operation on a state. -/
instance {σ : Type} : MonadLift (Except Strict.Stop) (StrictM σ) where
  monadLift
    | .ok a => pure a
    | .error stop => throw stop

namespace Strict

/-! ## The stack -/

/-- Move the stack top, as far as its value fits. -/
def moveTop (distance : Int) : StrictM Machine Unit := do
  let str ← word ((← get).registers.str + distance)
  modify fun m => { m with registers.str := str.toInt }

/-- Put a word on the stack. -/
def push (w : Word) : StrictM Machine Unit := do
  moveTop 1
  Machine.store (← get).registers.str w

/-- Take the top word from the stack. -/
def pop : StrictM Machine Word := do
  let w ← Machine.top
  Machine.store (← get).registers.str Word.unset
  moveTop (-1)
  return w

/-- Drop words from the stack, one after the other. -/
def popMany : (count : Nat) → StrictM Machine Unit
  | 0 => pure ()
  | count + 1 => do
    let _ ← pop
    popMany count

/-! ## Instructions -/

/-- A place in a program, which has to fit 64 bits without a sign. -/
def place (index : Nat) : Except Stop Nat :=
  if index < 0x10000000000000000 then .ok index else .error .overran

/-- Go to the place on the top of the stack, with a new frame and a return point. -/
def enterRoutine (frame : Nat) : StrictM Machine Flow := do
  let target ← pop
  let target ← Memory.place target.toInt
  modify fun m => { m with returns := ⟨m.registers.ip, frame⟩ :: m.returns }
  Machine.openFrame frame
  return .enter target frame

/-- Go back behind the latest call with the results of the running frame. -/
def leaveRoutine (results : Nat) : StrictM Machine Flow := do
  Machine.collapseFrame results
  let point ← Machine.popReturn
  Machine.closeFrame point.frame
  return .leave (← place (point.callSite + 1)) point.frame

/-- What an instruction does to the strict machine. -/
def execute (program : Program) : Instruction → StrictM Machine Flow
  | .literal w => do
    push w
    return .next
  | .loadLocal i => do
    push (← Machine.loadLocal i.toInt)
    return .next
  | .loadGlobal i => do
    push (← Machine.loadGlobal i.toInt)
    return .next
  | .storeLocal i => do
    Machine.storeLocal i.toInt (← pop)
    return .next
  | .storeGlobal i => do
    Machine.storeGlobal i.toInt (← pop)
    return .next
  | .localAddress i => do
    push (← word (← Machine.localAddress i.toInt))
    return .next
  | .globalAddress i => do
    push i
    return .next
  | .unary op => do
    push (← op.apply (← pop))
    return .next
  | .binary op => do
    let right ← pop
    let left ← pop
    push (← apply op left right)
    return .next
  | .pop count => do
    popMany count
    return .next
  | .dup => do
    push (← Machine.top)
    return .next
  | .swap => do
    let first ← pop
    let second ← pop
    push first
    push second
    return .next
  | .call frame => enterRoutine frame
  | .ret results => leaveRoutine results
  | .branch yes no => do
    let yes ← program.label yes
    let no ← program.label no
    let condition ← pop
    return .jump (if condition.toInt = 0 then no else yes)
  | .code label => do
    push (← word (← program.label label))
    return .next
  | ins => Machine.execute program ins

/-! ## Steps -/

/-- An operation on the strict machine, which leaves the console as it is. -/
def onMachine {α : Type} (operation : StrictM Machine α) : StrictM System α := fun system =>
  match operation system.machine with
  | .ok a machine => .ok a { system with machine }
  | .error stop machine => .error stop { system with machine }

/-- What a system call does. -/
def call : SystemCall → StrictM System Unit
  | .readNumber => do
    let line ← Console.readLine
    onMachine (push (← numberOfLine line))
  | .readCharacter => do
    let line ← Console.readLine
    onMachine (push (← codeOfLine line))
  | .writeNumber => do
    let w ← onMachine pop
    Console.write w.text
  | .writeCharacter => do
    let code ← onMachine pop
    let c ← characterOfCode code
    Console.write c.toString
  | .endOfInput => onMachine (push 0)
  | service => service.perform

/-- What an instruction does at the console. -/
def serve : Instruction → StrictM System Unit
  | .system service => call service
  | _ => pure ()

/-- The whole of an instruction. -/
def perform (program : Program) (ins : Instruction) : StrictM System Flow := do
  showTrace ins
  serve ins
  onMachine (execute program ins)

/-- One instruction of a run.  The place behind the last instruction is reported as a word, and the
place that the run goes to has to fit. -/
def step (program : Program) (e : Execution) : Except Stop Execution :=
  match e.outcome with
  | some _ => .ok e
  | none =>
    let index := e.system.machine.registers.ip
    match program.instructions[index]? with
    | none => do
      let address ← word index
      return e.fail ⟨index, Execution.endOfProgram, .invalidAddress address.toInt⟩
    | some ins =>
      match perform program ins e.system with
      | .error .overran _ => .error .overran
      | .error (.failed error) system => .ok ({ e with system }.fail ⟨index, ins.text, error⟩)
      | .ok .halt system => .ok ({ e with system }.finish index ins)
      | .ok flow system => do
        let _ ← place (flow.target index)
        return { e with system }.follow index flow

end Strict

/-! ## Agreement -/

section Agreement

variable {σ α β : Type} {x : EStateM MachineError σ α} {y : StrictM σ α}
  {f : α → EStateM MachineError σ β} {g : α → StrictM σ β} {s t : σ}
  {done middle : α → σ → Prop} {failed early : MachineError → σ → Prop} {after : β → σ → Prop}

lemma strict_ok {a : α} (h : x s = .ok a t) : (liftM x : StrictM σ α) s = .ok a t := by
  show Strict.ofMachine x s = _
  rw [Strict.ofMachine, h]

lemma strict_error {e : MachineError} (h : x s = .error e t) :
    (liftM x : StrictM σ α) s = .error (.failed e) t := by
  show Strict.ofMachine x s = _
  rw [Strict.ofMachine, h]

/-- **A strict operation agrees with one of the machine** from a state on when it does the same and
never overruns.  With it stands what the operation ensures. -/
structure Agrees (y : StrictM σ α) (x : EStateM MachineError σ α) (s : σ) (done : α → σ → Prop)
    (failed : MachineError → σ → Prop) : Prop where
  run : y s = (liftM x : StrictM σ α) s
  ensures : Ensures x s done failed

namespace Agrees

/-- What the machine checks is strict. -/
lemma lift (h : Ensures x s done failed) : Agrees (liftM x) x s done failed := ⟨rfl, h⟩

lemma pure {a : α} (h : done a s) : Agrees (Pure.pure a) (Pure.pure a) s done failed :=
  ⟨rfl, Ensures.pure h⟩

lemma mono (h : Agrees y x s middle early) (hdone : ∀ a t, middle a t → done a t)
    (hfailed : ∀ e t, early e t → failed e t) : Agrees y x s done failed :=
  ⟨h.run, h.ensures.mono hdone hfailed⟩

/-- Only what the strict operation does from this state matters. -/
lemma congr {y' : StrictM σ α} (h : Agrees y x s done failed) (same : y' s = y s) :
    Agrees y' x s done failed :=
  ⟨same.trans h.run, h.ensures⟩

/-- Two operations in a row. -/
lemma bind (hx : Agrees y x s middle early) (hearly : ∀ e t, early e t → failed e t)
    (hf : ∀ a t, middle a t → Agrees (g a) (f a) t after failed) :
    Agrees (y >>= g) (x >>= f) s after failed where
  run := by
    cases hrun : x s with
    | error e t =>
        rw [strict_error (bind_error hrun)]
        exact bind_error (hx.run.trans (strict_error hrun))
    | ok a t =>
        rw [bind_ok (hx.run.trans (strict_ok hrun)), (hf a t (hx.ensures.ok hrun)).run]
        show Strict.ofMachine (f a) t = Strict.ofMachine (x >>= f) s
        rw [Strict.ofMachine, Strict.ofMachine, bind_ok hrun]
  ensures := hx.ensures.bind hearly fun a t h => (hf a t h).ensures

/-- What comes after a check starts from the same state. -/
lemma bind_check (c : Except MachineError α) {f : α → EStateM MachineError σ β}
    {g : α → StrictM σ β} (hfailed : ∀ e, c = .error e → failed e s)
    (hf : ∀ a, c = .ok a → Agrees (g a) (f a) s after failed) :
    Agrees (liftM (liftM c : EStateM MachineError σ α) >>= g) (liftM c >>= f) s after failed := by
  refine bind (lift (Ensures.check c)) ?_ ?_
  · rintro e t ⟨refused, rfl⟩
    exact hfailed e refused
  · rintro a t ⟨passed, rfl⟩
    exact hf a passed

/-- Looking at the state first. -/
lemma get_bind {f : σ → EStateM MachineError σ β} {g : σ → StrictM σ β}
    (h : Agrees (g s) (f s) s after failed) : Agrees (get >>= g) (get >>= f) s after failed :=
  ⟨h.run, Ensures.get_bind h.ensures⟩

/-- Changing the state first. -/
lemma modify_bind {p : σ → σ} {f : PUnit → EStateM MachineError σ β} {g : PUnit → StrictM σ β}
    (h : Agrees (g ⟨⟩) (f ⟨⟩) (p s) after failed) :
    Agrees (modify p >>= g) (modify p >>= f) s after failed :=
  ⟨h.run, Ensures.modify_bind h.ensures⟩

end Agrees

/-- A check that the machine makes is made the same way. -/
lemma lift_known (c : Except MachineError α) :
    (liftM (Strict.known c) : StrictM σ α) = liftM (liftM c : EStateM MachineError σ α) := by
  cases c <;> rfl

end Agreement

end StackMachine

import Mathlib.Logic.Relation
import StackMachine.Proofs.ListStack.Lockstep

/-!
# Step by step on the list

What a program does to a list can be computed instruction by instruction, and the machine does the
same as long as nothing is loaded from above the stack and the stack has room for one word more.  So
a run of the machine is found by going along the steps of the list, each with these two conditions,
without a word about memory.

* `ListExecution.Next` — a step of the list that the machine takes as well.
* `Execution.exists_run_of_next` — the run of the machine along such steps.
* `ListExecution.standing` — the list on its way, with the trace off.
* `ListExecution.next_literal`, `ListExecution.next_call` and the like — the single instructions.
-/

namespace StackMachine

/-! ## Steps that both take -/

/-- The cell from which an instruction loads. -/
def ListMachine.loads? (l : ListMachine) : Instruction → Option Int
  | .loadLocal i => some (l.base + i.toInt)
  | .loadGlobal i => some i.toInt
  | _ => none

/-- **A step that the machine takes as well**: there is room on the stack, and nothing is loaded
from above it. -/
structure ListExecution.Next (program : Program) (l l' : ListExecution) : Prop where
  step : l.step program = l'
  room : l.system.machine.stack.length < 0x8000000000000000
  within : ∀ ins, program.instructions[l.system.machine.ip]? = some ins →
    ∀ address ∈ l.system.machine.loads? ins, address < l.system.machine.stack.length

lemma Instruction.loads?_view {m : Machine} (h : m.Grounded) (ins : Instruction) :
    ∀ address ∈ ins.loads? m, address ∈ m.view.loads? ins := by
  intro address mem
  cases ins with
  | loadLocal i =>
      by_cases fits : Word.Fits (m.registers.lbr + i.toInt)
      · rw [Machine.loads_local i h fits] at mem
        exact mem
      · have error : ∃ e t, (Machine.localAddress i.toInt >>= Machine.slot) m = .error e t := by
          cases Machine.localAddress_ensures h.gbr i.toInt with
          | of_ok run holds => exact absurd holds.2.1 fits
          | of_error run _ => exact ⟨_, _, bind_error run⟩
        obtain ⟨e, t, error⟩ := error
        simp [loads?, loads?.resolved, error] at mem
  | loadGlobal i =>
      rw [Machine.loads_global i h] at mem
      exact mem
  | _ => simp [loads?] at mem

namespace Execution

variable {program : Program} {e : Execution}

/-- An address from which the next step loads is one from which its instruction does. -/
lemma exists_of_loads {address : Int} (mem : address ∈ e.loads? program) :
    ∃ ins, e.fetch? program = some ins ∧ address ∈ ins.loads? e.system.machine := by
  simp only [loads?] at mem
  split at mem
  next ins before fetched =>
    split at mem
    next t shown =>
      rw [(showTrace_ensures ins e.system).ok shown] at mem
      exact ⟨ins, fetched, mem⟩
    next => simp at mem
  next => simp at mem

/-- **The run of the machine along some steps of the list.** -/
theorem exists_run_of_next {l : ListExecution} (sound : Sound program e)
    (h : Relation.ReflTransGen (ListExecution.Next program) e.view l) :
    ∃ count, Sound program (run program count e) ∧ (run program count e).view = l := by
  induction h with
  | refl => exact ⟨0, sound, rfl⟩
  | tail _ next ih =>
      obtain ⟨count, sound, rfl⟩ := ih
      have length := Machine.length_stack sound.grounded
      have room : ((run program count e).system.machine.stack.length : Int) < 0x8000000000000000 :=
        Int.ofNat_lt.mpr next.room
      refine ⟨count + 1, ?_, ?_⟩
      · rw [run_succ]
        exact step_sound _ sound
      · rw [run_succ, view_step sound (by omega), next.step]
        intro address mem
        obtain ⟨ins, fetched, mem⟩ := exists_of_loads mem
        have inside : address < ((run program count e).system.machine.stack.length : Int) :=
          next.within ins fetched address (Instruction.loads?_view sound.grounded ins address mem)
        omega

end Execution

/-! ## Operations on a list that ends in some words -/

/-- As many words as fit on the stack can be counted. -/
lemma Word.fits_natCast {n : Nat} (h : n < 0x8000000000000000) : Word.Fits n := by
  simp only [Word.Fits]
  omega

namespace ListMachine

variable {ip : Nat} {base : Int} {stack : List Word} {returns : List ReturnPoint} {trace : Bool}
  {w : Word}

lemma pop_run : pop ⟨ip, base, stack ++ [w], returns, trace⟩ =
    .ok w ⟨ip, base, stack, returns, trace⟩ := by
  have last : top ⟨ip, base, stack ++ [w], returns, trace⟩ =
      .ok w ⟨ip, base, stack ++ [w], returns, trace⟩ := by
    refine bind_get.trans ?_
    simp only [List.getLast?_concat]
    rfl
  refine (bind_ok last).trans ?_
  show EStateM.Result.ok w (ListMachine.mk ip base (stack ++ [w]).dropLast returns trace) = _
  rw [List.dropLast_concat]

lemma checked_run {x : Int} {l : ListMachine} (h : Word.Fits x) : checked x l = .ok x l := by
  rw [checked, if_pos h]
  rfl

lemma loadLocal_run {i : Int} {place : Nat} (here : base + i = place) (fits : Word.Fits place)
    (found : stack[place]? = some w) :
    loadLocal i ⟨ip, base, stack, returns, trace⟩ = .ok w ⟨ip, base, stack, returns, trace⟩ := by
  have address : localAddress i ⟨ip, base, stack, returns, trace⟩ =
      .ok (place : Int) ⟨ip, base, stack, returns, trace⟩ := by
    show checked (base + i) _ = _
    rw [here]
    exact checked_run fits
  refine (bind_ok address).trans ?_
  rw [load, Memory.place_of_nonneg (Int.natCast_nonneg place)]
  show EStateM.Result.ok (stack.getD place Word.unset) _ = _
  rw [List.getD_eq_getElem?_getD, found, Option.getD_some]

/-- Dropping what lies between the base and the results. -/
lemma collapse_run {below dropped kept : List Word}
    (room : (below ++ dropped ++ kept).length < 0x8000000000000000) :
    collapse kept.length ⟨ip, below.length, below ++ dropped ++ kept, returns, trace⟩ =
      .ok ⟨⟩ ⟨ip, below.length, below ++ kept, returns, trace⟩ := by
  have length : (below ++ dropped ++ kept).length =
      below.length + dropped.length + kept.length := by
    simp only [List.length_append]
  have others : ((below ++ dropped ++ kept).length : Int) - below.length - kept.length =
      dropped.length := by omega
  refine (bind_ok (checked_run (Word.fits_natCast (by omega)))).trans (bind_get.trans ?_)
  show (checked (((below ++ dropped ++ kept).length : Int) - below.length - kept.length) >>= _)
    _ = _
  rw [others]
  refine (bind_ok (checked_run (Word.fits_natCast (by omega)))).trans ?_
  by_cases none : dropped = []
  · subst none
    rw [List.append_nil]
    rfl
  · have some : 0 < (dropped.length : Int) := by
      have := List.length_pos_iff.mpr none
      omega
    rw [if_pos some]
    have front : (below ++ dropped ++ kept).take below.length = below := by
      rw [List.append_assoc, List.take_left]
    have back : (below ++ dropped ++ kept).drop ((below ++ dropped ++ kept).length - kept.length) =
        kept := by
      rw [length, Nat.add_sub_cancel, ← List.length_append, List.drop_left]
    show EStateM.Result.ok PUnit.unit (ListMachine.mk ip below.length
      ((below ++ dropped ++ kept).take below.length ++
        (below ++ dropped ++ kept).drop ((below ++ dropped ++ kept).length - kept.length))
      returns trace) = _
    rw [front, back]

lemma moveBase_run {distance : Int} (fits : Word.Fits (base + distance)) :
    moveBase distance ⟨ip, base, stack, returns, trace⟩ =
      .ok ⟨⟩ ⟨ip, base + distance, stack, returns, trace⟩ :=
  bind_ok (checked_run fits)

end ListMachine

/-! ## The list on its way -/

namespace ListExecution

/-- **The list on its way**, with the trace off, at an instruction. -/
def standing (ip : Nat) (base : Int) (stack : List Word) (returns : List ReturnPoint)
    (console : Console) : ListExecution :=
  ⟨⟨⟨ip, base, stack, returns, false⟩, console⟩, none⟩

lemma flush_eq (c : Console) :
    Console.flush c = .ok ⟨⟩ c.flushed ∨ ∃ e, Console.flush c = .error e c.flushed := by
  by_cases failing : c.flushes.size ∈ c.failingFlushes
  · exact .inr ⟨_, Console.flush_run_of_failing failing⟩
  · exact .inl (Console.flush_run failing)

lemma fail_eq (l : ListExecution) (fault : Fault) :
    l.fail fault = ⟨⟨l.system.machine, l.system.console.flushed⟩, some (.faulted fault)⟩ := by
  rcases flush_eq l.system.console with flushed | ⟨e, flushed⟩ <;> simp only [fail, flushed]

lemma finish_eq (l : ListExecution) (index : Nat) (ins : Instruction)
    (unlimited : l.system.console.Open) :
    l.finish index ins = ⟨⟨l.system.machine, l.system.console.flushed⟩, some .halted⟩ := by
  simp only [finish, Console.flush_run unlimited.not_failing]

variable {program : Program} {ip : Nat} {base : Int} {stack : List Word}
  {returns : List ReturnPoint} {console : Console} {w : Word} {ins : Instruction}

/-- Instructions that are no system calls do nothing at the console. -/
lemma perform_run {l : ListMachine} (quiet : l.trace = false)
    (plain : ListSystem.serve ins = pure ()) :
    ListSystem.perform program ins ⟨l, console⟩ =
      ListAction.onMachine (ListMachine.execute program ins) ⟨l, console⟩ := by
  have shown : ListSystem.showTrace ins ⟨l, console⟩ = .ok ⟨⟩ ⟨l, console⟩ := by
    show (if l.trace = true then liftM (Console.write (l.traceLine ins)) else pure () :
      ListAction Unit) _ = _
    rw [quiet]
    rfl
  refine (bind_ok shown).trans ?_
  rw [plain, pure_bind]
  rfl

section Instructions

variable (fetched : program.instructions[ip]? = some ins)
  (room : stack.length < 0x8000000000000000)
  (within : ∀ address ∈ ListMachine.loads? ⟨ip, base, stack, returns, false⟩ ins,
    address < (stack.length : Int))
include fetched room within

lemma next_of_step {l : ListExecution}
    (step : (standing ip base stack returns console).step program = l) :
    Next program (standing ip base stack returns console) l where
  step := step
  room := room
  within ins' fetched' := by
    obtain rfl := Option.some.inj (fetched.symm.trans fetched')
    exact within

lemma next_of_perform {base' : Int} {stack' : List Word} {returns' : List ReturnPoint}
    {console' : Console} (flow : Flow) (goes : flow ≠ .halt)
    (performed : ListSystem.perform program ins ⟨⟨ip, base, stack, returns, false⟩, console⟩ =
      .ok flow ⟨⟨ip, base', stack', returns', false⟩, console'⟩) :
    Next program (standing ip base stack returns console)
      (standing (flow.target ip) base' stack' returns' console') := by
  refine next_of_step fetched room within ?_
  simp only [step, standing, fetched, performed]

/-- **An instruction that is carried out** and does not halt. -/
lemma next_of_execute {base' : Int} {stack' : List Word} {returns' : List ReturnPoint}
    (flow : Flow) (goes : flow ≠ .halt) (plain : ListSystem.serve ins = pure ())
    (executed : ListMachine.execute program ins ⟨ip, base, stack, returns, false⟩ =
      .ok flow ⟨ip, base', stack', returns', false⟩) :
    Next program (standing ip base stack returns console)
      (standing (flow.target ip) base' stack' returns' console) := by
  refine next_of_perform fetched room within flow goes ?_
  rw [perform_run rfl plain, ListAction.onMachine, executed]

/-- **An instruction that fails.** -/
lemma next_of_error {l : ListMachine} {error : MachineError}
    (plain : ListSystem.serve ins = pure ())
    (executed : ListMachine.execute program ins ⟨ip, base, stack, returns, false⟩ =
      .error error l) :
    Next program (standing ip base stack returns console)
      ⟨⟨l, console.flushed⟩, some (.faulted ⟨ip, ins.text, error⟩)⟩ := by
  have performed : ListSystem.perform program ins ⟨⟨ip, base, stack, returns, false⟩, console⟩ =
      .error error ⟨l, console⟩ := by
    rw [perform_run rfl plain, ListAction.onMachine, executed]
  refine next_of_step fetched room within ?_
  simp only [step, standing, fetched, performed, fail_eq]

end Instructions

/-! ## Instructions -/

lemma next_literal (fetched : program.instructions[ip]? = some (.literal w))
    (room : stack.length < 0x8000000000000000) :
    Next program (standing ip base stack returns console)
      (standing (ip + 1) base (stack ++ [w]) returns console) :=
  next_of_execute fetched room nofun .next nofun rfl rfl

lemma next_loadLocal {i : Word} {place : Nat}
    (fetched : program.instructions[ip]? = some (.loadLocal i))
    (room : stack.length < 0x8000000000000000) (here : base + i.toInt = place)
    (found : stack[place]? = some w) :
    Next program (standing ip base stack returns console)
      (standing (ip + 1) base (stack ++ [w]) returns console) := by
  have inside : place < stack.length := (List.getElem?_eq_some_iff.mp found).1
  have fits : Word.Fits (place : Int) := Word.fits_natCast (by omega)
  refine next_of_execute fetched room ?_ .next nofun rfl
    (bind_ok (ListMachine.loadLocal_run here fits found))
  intro address mem
  obtain rfl : base + i.toInt = address := Option.some.inj mem
  omega

lemma next_unary {op : UnaryOp} {x : Word} (fetched : program.instructions[ip]? = some (.unary op))
    (room : (stack ++ [x]).length < 0x8000000000000000) (applied : op.apply x = .ok w) :
    Next program (standing ip base (stack ++ [x]) returns console)
      (standing (ip + 1) base (stack ++ [w]) returns console) := by
  refine next_of_execute fetched room nofun .next nofun rfl ?_
  refine (bind_ok ListMachine.pop_run).trans ?_
  rw [applied]
  rfl

lemma next_binary {op : BinaryOp} {x y : Word}
    (fetched : program.instructions[ip]? = some (.binary op))
    (room : (stack ++ [x] ++ [y]).length < 0x8000000000000000) (applied : op.apply x y = .ok w) :
    Next program (standing ip base (stack ++ [x] ++ [y]) returns console)
      (standing (ip + 1) base (stack ++ [w]) returns console) := by
  refine next_of_execute fetched room nofun .next nofun rfl ?_
  refine (bind_ok ListMachine.pop_run).trans ((bind_ok ListMachine.pop_run).trans ?_)
  rw [applied]
  rfl

/-- An operator without a result ends the run, when its operands are gone. -/
lemma next_binary_error {op : BinaryOp} {x y : Word} {error : MachineError}
    (fetched : program.instructions[ip]? = some (.binary op))
    (room : (stack ++ [x] ++ [y]).length < 0x8000000000000000)
    (failed : op.apply x y = .error error) :
    Next program (standing ip base (stack ++ [x] ++ [y]) returns console)
      ⟨⟨⟨ip, base, stack, returns, false⟩, console.flushed⟩,
        some (.faulted ⟨ip, (Instruction.binary op).text, error⟩)⟩ := by
  refine next_of_error fetched room nofun rfl ?_
  refine (bind_ok ListMachine.pop_run).trans ((bind_ok ListMachine.pop_run).trans ?_)
  rw [failed]
  rfl

lemma next_branch {yes no : String} {first second : Nat}
    (fetched : program.instructions[ip]? = some (.branch yes no))
    (room : (stack ++ [w]).length < 0x8000000000000000)
    (boundYes : program.label yes = .ok first) (boundNo : program.label no = .ok second) :
    Next program (standing ip base (stack ++ [w]) returns console)
      (standing (if w.toInt = 0 then second else first) base stack returns console) := by
  refine next_of_execute fetched room nofun (.jump (if w.toInt = 0 then second else first))
    nofun rfl ?_
  show (do
    let yes ← program.label yes
    let no ← program.label no
    let condition ← ListMachine.pop
    return .jump (if condition.toInt = 0 then no else yes) : ListM Flow) _ = _
  rw [boundYes, boundNo]
  exact bind_ok ListMachine.pop_run

lemma next_code {label : String} {target : Nat}
    (fetched : program.instructions[ip]? = some (.code label))
    (room : stack.length < 0x8000000000000000) (bound : program.label label = .ok target) :
    Next program (standing ip base stack returns console)
      (standing (ip + 1) base (stack ++ [Word.wrap target]) returns console) := by
  refine next_of_execute fetched room nofun .next nofun rfl ?_
  show (do
    ListMachine.push (Word.wrap (← program.label label))
    return .next : ListM Flow) _ = _
  rw [bound]
  rfl

lemma next_call {frame target : Nat} (fetched : program.instructions[ip]? = some (.call frame))
    (room : (stack ++ [w]).length < 0x8000000000000000) (place : w.toInt = target)
    (frameFits : Word.Fits frame) (fits : Word.Fits (base + frame)) :
    Next program (standing ip base (stack ++ [w]) returns console)
      (standing target (base + frame) stack (⟨ip, frame⟩ :: returns) console) := by
  refine next_of_execute fetched room nofun (.enter target frame) nofun rfl ?_
  have placed : (liftM (Memory.place w.toInt) : ListM Nat) ⟨ip, base, stack, returns, false⟩ =
      .ok target ⟨ip, base, stack, returns, false⟩ := by
    rw [place, Memory.place_of_nonneg (Int.natCast_nonneg target), Int.toNat_natCast]
    rfl
  have pointed : (modify fun l => { l with returns := ⟨l.ip, frame⟩ :: l.returns } : ListM PUnit)
      ⟨ip, base, stack, returns, false⟩ =
      .ok ⟨⟩ ⟨ip, base, stack, ⟨ip, frame⟩ :: returns, false⟩ := rfl
  have opened : ListMachine.openFrame frame ⟨ip, base, stack, ⟨ip, frame⟩ :: returns, false⟩ =
      .ok ⟨⟩ ⟨ip, base + frame, stack, ⟨ip, frame⟩ :: returns, false⟩ :=
    (bind_ok (ListMachine.checked_run frameFits)).trans (ListMachine.moveBase_run fits)
  exact (bind_ok ListMachine.pop_run).trans
    ((bind_ok placed).trans ((bind_ok pointed).trans (bind_ok opened)))

/-- A return leaves the results where the frame began. -/
lemma next_ret {point : ReturnPoint} {below dropped kept : List Word}
    (fetched : program.instructions[ip]? = some (.ret kept.length))
    (room : (below ++ dropped ++ kept).length < 0x8000000000000000)
    (frame : point.frame ≤ below.length) :
    Next program
      (standing ip below.length (below ++ dropped ++ kept) (point :: returns) console)
      (standing (point.callSite + 1) (below.length - point.frame) (below ++ kept) returns
        console) := by
  have length : (below ++ dropped ++ kept).length =
      below.length + dropped.length + kept.length := by
    simp only [List.length_append]
  have frameFits : Word.Fits (point.frame : Int) := Word.fits_natCast (by omega)
  have fits : Word.Fits ((below.length : Int) + -(point.frame : Int)) := by
    simp only [Word.Fits]
    omega
  refine next_of_execute fetched room nofun (.leave (point.callSite + 1) point.frame) nofun rfl ?_
  have popped : ListMachine.popReturn ⟨ip, below.length, below ++ kept, point :: returns, false⟩ =
      .ok point ⟨ip, below.length, below ++ kept, returns, false⟩ := rfl
  have closed : ListMachine.closeFrame point.frame
      ⟨ip, below.length, below ++ kept, returns, false⟩ =
      .ok ⟨⟩ ⟨ip, below.length + -(point.frame : Int), below ++ kept, returns, false⟩ :=
    (bind_ok (ListMachine.checked_run frameFits)).trans (ListMachine.moveBase_run fits)
  exact (bind_ok (ListMachine.collapse_run room)).trans ((bind_ok popped).trans (bind_ok closed))

lemma next_writeNumber (fetched : program.instructions[ip]? = some (.system .writeNumber))
    (room : (stack ++ [w]).length < 0x8000000000000000) (unlimited : console.Open) :
    Next program (standing ip base (stack ++ [w]) returns console)
      (standing (ip + 1) base stack returns
        { console with output := console.output ++ w.text.toUTF8 }) := by
  refine next_of_perform fetched room nofun .next nofun ?_
  have shown : ListSystem.showTrace (.system .writeNumber)
      ⟨⟨ip, base, stack ++ [w], returns, false⟩, console⟩ =
      .ok ⟨⟩ ⟨⟨ip, base, stack ++ [w], returns, false⟩, console⟩ := rfl
  have popped : (liftM ListMachine.pop : ListAction Word)
      ⟨⟨ip, base, stack ++ [w], returns, false⟩, console⟩ =
      .ok w ⟨⟨ip, base, stack, returns, false⟩, console⟩ := by
    show ListAction.onMachine ListMachine.pop _ = _
    rw [ListAction.onMachine, ListMachine.pop_run]
  have wrote : (liftM (Console.write w.text) : ListAction Unit)
      ⟨⟨ip, base, stack, returns, false⟩, console⟩ = .ok ⟨⟩ ⟨⟨ip, base, stack, returns, false⟩,
        { console with output := console.output ++ w.text.toUTF8 }⟩ := by
    show ListAction.onConsole (Console.write w.text) _ = _
    rw [ListAction.onConsole, Console.write_run w.text unlimited.unlimited]
  have served : ListSystem.serve (.system .writeNumber)
      ⟨⟨ip, base, stack ++ [w], returns, false⟩, console⟩ = .ok ⟨⟩
        ⟨⟨ip, base, stack, returns, false⟩,
          { console with output := console.output ++ w.text.toUTF8 }⟩ :=
    (bind_ok popped).trans wrote
  exact (bind_ok shown).trans (bind_ok served)

lemma next_halt (fetched : program.instructions[ip]? = some .halt)
    (room : stack.length < 0x8000000000000000) (unlimited : console.Open) :
    Next program (standing ip base stack returns console)
      ⟨⟨⟨ip, base, stack, returns, false⟩, console.flushed⟩, some .halted⟩ := by
  refine next_of_step fetched room nofun ?_
  have performed : ListSystem.perform program .halt
      ⟨⟨ip, base, stack, returns, false⟩, console⟩ =
      .ok .halt ⟨⟨ip, base, stack, returns, false⟩, console⟩ := rfl
  simp only [step, standing, fetched, performed]
  exact finish_eq _ _ _ unlimited

end ListExecution

end StackMachine

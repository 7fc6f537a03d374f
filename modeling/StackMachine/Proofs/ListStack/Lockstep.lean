import StackMachine.Proofs.ListStack.Mirror

/-!
# The machine as a machine with a list

A program that loads only from cells of the stack cannot tell the memory from a list: the run of the
machine and the run of the machine with a list go in lockstep, to the same end and with the same
output.  So nothing that was left behind above the stack has any influence on such a run.

* `Instruction.loads?`, `Execution.loads?` — the cell from which the next instruction loads.
* `Machine.execute_mirrors`, `Instruction.perform_mirrors` — each instruction.
* `Execution.view`, `Execution.step_view` — one step.
* `run_lockstep` — runs.
-/

namespace StackMachine

/-! ## Loads -/

/-- The cell from which an instruction loads, if its address can be computed. -/
def Instruction.loads? (m : Machine) (ins : Instruction) : Option Int :=
  match ins with
  | .loadLocal i => resolved (do Machine.slot (← Machine.localAddress i.toInt))
  | .loadGlobal i => resolved (Machine.slot i.toInt)
  | _ => none
where
  /-- The address, if it can be computed. -/
  resolved (address : MachineM Int) : Option Int :=
    match address m with
    | .ok a _ => some a
    | .error _ _ => none

/-- The cell from which the next instruction loads, if it is a load and comes to that: the run goes
on, the instruction could be shown and its address can be computed. -/
def Execution.loads? (program : Program) (e : Execution) : Option Int :=
  match e.outcome, e.fetch? program with
  | none, some ins =>
    match showTrace ins e.system with
    | .ok _ system => ins.loads? system.machine
    | .error _ _ => none
  | _, _ => none

/-! ## Instructions -/

namespace Machine

variable {m : Machine}

lemma loads_local (i : Word) (h : Grounded m) (hfits : Word.Fits (m.registers.lbr + i.toInt)) :
    (Instruction.loadLocal i).loads? m = some (m.registers.lbr + i.toInt) := by
  have hrun : (localAddress i.toInt >>= slot) m = .ok (m.registers.lbr + i.toInt) m :=
    (bind_ok (localAddress_run h.gbr hfits)).trans (slot_run h.gbr hfits)
  simp only [Instruction.loads?, Instruction.loads?.resolved, hrun]

lemma loads_global (i : Word) (h : Grounded m) :
    (Instruction.loadGlobal i).loads? m = some i.toInt := by
  simp only [Instruction.loads?, Instruction.loads?.resolved, slot_run h.gbr i.fits]

/-- Something pushed, however it was found. -/
lemma push_next_mirrors {α : Type} {x : MachineM α} {y : ListM α} {g : α → Word}
    (h : Mirrors view x y m (fun _ t => Grounded t)) :
    Mirrors view (do push (g (← x)); return Flow.next)
      (do ListMachine.push (g (← y)); return Flow.next) m (fun _ _ => True) := by
  refine Mirrors.bind h ?_
  intro a t ht
  exact Mirrors.answer (push_mirrors (g a) ht) _

/-- Something looked up and pushed, which leaves the machine as it was until it is pushed. -/
lemma push_next_looked_up {α : Type} {x : MachineM α} {y : ListM α} {g : α → Word}
    (h : Grounded m) (hxy : Mirrors view x y m (fun _ t => t = m)) :
    Mirrors view (do push (g (← x)); return Flow.next)
      (do ListMachine.push (g (← y)); return Flow.next) m (fun _ _ => True) := by
  refine push_next_mirrors (hxy.mono ?_)
  rintro a t rfl
  exact h

/-- **Every instruction is mirrored** that does not load from above the stack. -/
theorem execute_mirrors (program : Program) (ins : Instruction) (h : Grounded m)
    (hbase : Word.Fits m.registers.lbr) (htop : m.registers.str + 1 < 0x8000000000000000)
    (within : ∀ address ∈ ins.loads? m, address ≤ m.registers.str) :
    Mirrors view (execute program ins) (ListMachine.execute program ins) m (fun _ _ => True) := by
  cases ins with
  | nop => exact Mirrors.pure trivial
  | halt => exact Mirrors.pure trivial
  | literal w => exact push_next_mirrors (g := id) (Mirrors.pure h)
  | loadLocal i =>
      have within' : Word.Fits (m.registers.lbr + i.toInt) →
          m.registers.lbr + i.toInt ≤ m.registers.str :=
        fun hfits => within _ (loads_local i h hfits)
      exact push_next_looked_up (g := id) h (loadLocal_mirrors i.toInt h within')
  | loadGlobal i =>
      have within' := within _ (loads_global i h)
      exact push_next_looked_up (g := id) h (loadGlobal_mirrors i h within')
  | storeLocal i =>
      refine Mirrors.bind (pop_mirrors h) ?_
      intro w t ht
      exact Mirrors.answer (storeLocal_mirrors i.toInt ht w) _
  | storeGlobal i =>
      refine Mirrors.bind (pop_mirrors h) ?_
      intro w t ht
      exact Mirrors.answer (storeGlobal_mirrors i w ht) _
  | localAddress i =>
      refine push_next_looked_up h ((localAddress_mirrors i.toInt h).mono ?_)
      rintro address t ⟨-, -, rfl⟩
      rfl
  | globalAddress i => exact push_next_mirrors (g := id) (Mirrors.pure h)
  | unary op =>
      refine Mirrors.bind (pop_mirrors h) ?_
      intro w t ht
      exact push_next_looked_up (g := id) ht (Mirrors.check _)
  | binary op =>
      refine Mirrors.bind (pop_mirrors h) ?_
      intro right t ht
      refine Mirrors.bind (pop_mirrors ht) ?_
      intro left u hu
      exact push_next_looked_up (g := id) hu (Mirrors.check _)
  | pop count => exact Mirrors.answer (popMany_mirrors count h) _
  | dup =>
      refine push_next_looked_up (g := id) h ((top_mirrors h).mono ?_)
      rintro w t ⟨rfl, -⟩
      rfl
  | swap =>
      refine Mirrors.bind (pop_mirrors h) ?_
      intro first t ht
      refine Mirrors.bind (pop_mirrors ht) ?_
      intro second u hu
      refine Mirrors.bind (push_mirrors first hu) ?_
      intro _ v hv
      exact push_next_mirrors (g := id) (Mirrors.pure hv)
  | call frame => exact enterRoutine_mirrors frame h
  | ret results => exact leaveRoutine_mirrors results h hbase htop
  | goto label => exact Mirrors.answer (Mirrors.check _) _
  | branch yes no =>
      refine Mirrors.bind_check _ ?_
      intro yes _
      refine Mirrors.bind_check _ ?_
      intro no _
      exact Mirrors.answer (pop_mirrors h) _
  | code label => exact push_next_looked_up h (Mirrors.check _)
  | system _ => exact Mirrors.pure trivial
  | unknown row => exact Mirrors.throw _

end Machine

/-! ## At the console

The console is the same on either side, and what is shown of the machine there is what the list
shows.
-/

/-- The system with a list for a stack that a system shows. -/
def System.view (s : System) : ListSystem := ⟨s.machine.view, s.console⟩

namespace Mirrors

variable {α : Type} {s : System} {done : α → Machine → Prop}

lemma onMachine {x : MachineM α} {y : ListM α} (h : Mirrors Machine.view x y s.machine done) :
    Mirrors System.view (liftM x : Action α) (liftM y : ListAction α) s
      (fun a t => done a t.machine) := by
  cases h with
  | of_ok run image holds =>
      refine Mirrors.of_ok (t := { s with machine := _ }) ?_ ?_ holds
      · show Action.onMachine x s = _
        rw [Action.onMachine, run]
      · show ListAction.onMachine y s.view = _
        rw [ListAction.onMachine, System.view, image]
        rfl
  | @of_error e t run image =>
      refine Mirrors.of_error (e := e) (t := { s with machine := t }) ?_ ?_
      · show Action.onMachine x s = _
        rw [Action.onMachine, run]
      · show ListAction.onMachine y s.view = _
        rw [ListAction.onMachine, System.view, image]
        rfl

lemma onConsole (x : ConsoleM α) :
    Mirrors System.view (liftM x : Action α) (liftM x : ListAction α) s
      (fun _ t => t.machine = s.machine) := by
  cases hx : x s.console with
  | ok a console =>
      refine Mirrors.of_ok (a := a) (t := { s with console }) ?_ ?_ rfl
      · show Action.onConsole x s = _
        rw [Action.onConsole, hx]
      · show ListAction.onConsole x s.view = _
        rw [ListAction.onConsole, System.view, hx]
        rfl
  | error e console =>
      refine Mirrors.of_error (e := e) (t := { s with console }) ?_ ?_
      · show Action.onConsole x s = _
        rw [Action.onConsole, hx]
      · show ListAction.onConsole x s.view = _
        rw [ListAction.onConsole, System.view, hx]
        rfl

end Mirrors

open Machine

lemma showTrace_mirrors (ins : Instruction) (s : System) :
    Mirrors System.view (showTrace ins) (ListSystem.showTrace ins) s
      (fun _ t => t.machine = s.machine) := by
  refine Mirrors.get_bind ?_
  show Mirrors System.view (if s.machine.trace = true then _ else pure ())
    (if s.machine.trace = true then _ else pure ()) s _
  split
  next => exact Mirrors.onConsole (Console.write (s.machine.traceLine ins))
  next => exact Mirrors.pure rfl

lemma dumpLine_view {m : Machine} (h : Grounded m) : m.view.dumpLine = m.dumpLine := by
  have htop : (m.view.stack.length : Int) - 1 = m.registers.str := by
    show (m.stack.length : Int) - 1 = _
    rw [length_stack h]
    omega
  rw [ListMachine.dumpLine, htop]
  rfl

lemma answer_mirrors (service : SystemCall) (s : System) (h : Grounded s.machine) :
    Mirrors System.view service.perform (ListSystem.answer service) s (fun _ _ => True) := by
  have hread : ∀ word : String → Except MachineError Word,
      Mirrors System.view (do push (← word (← Console.readLine)) : Action Unit)
        (do ListMachine.push (← word (← Console.readLine))) s (fun _ _ => True) := by
    intro word
    refine Mirrors.bind (Mirrors.onConsole Console.readLine) ?_
    intro line t ht
    rw [← ht] at h
    refine Mirrors.bind_check (word line) ?_
    intro w _
    exact (Mirrors.onMachine (push_mirrors w h)).forget
  have hpop := Mirrors.onMachine (pop_mirrors h)
  cases service with
  | toggleTrace => exact Mirrors.forget (Mirrors.update rfl)
  | dumpMemory =>
      refine Mirrors.get_bind ?_
      show Mirrors System.view _ (liftM (Console.write s.machine.view.dumpLine)) s _
      rw [dumpLine_view h]
      exact (Mirrors.onConsole _).forget
  | readNumber => exact hread numberOfLine
  | readCharacter => exact hread codeOfLine
  | writeNumber =>
      refine Mirrors.bind hpop ?_
      intro w t _
      exact (Mirrors.onConsole (Console.write w.text)).forget
  | writeCharacter =>
      refine Mirrors.bind hpop ?_
      intro w t _
      refine Mirrors.bind_check (characterOfCode w) ?_
      intro c _
      exact (Mirrors.onConsole (Console.write c.toString)).forget
  | newLine => exact (Mirrors.onConsole _).forget
  | endOfInput => exact (Mirrors.onMachine (push_mirrors 0 h)).forget

/-- **The whole of an instruction is mirrored** if it does not come to load from above the stack. -/
theorem Instruction.perform_mirrors (program : Program) (ins : Instruction) (s : System)
    (h : Grounded s.machine) (hbase : Word.Fits s.machine.registers.lbr)
    (htop : s.machine.registers.str + 1 < 0x8000000000000000)
    (within : ∀ t, showTrace ins s = .ok ⟨⟩ t →
      ∀ address ∈ ins.loads? t.machine, address ≤ t.machine.registers.str) :
    Mirrors System.view (ins.perform program) (ListSystem.perform program ins) s
      (fun _ _ => True) := by
  refine Mirrors.bind (showTrace_mirrors ins s).known ?_
  rintro _ t ⟨shown, ht⟩
  have within' := within t shown
  rw [← ht] at h hbase htop
  -- A system call has all its effect at the console, and the other instructions have none there.
  by_cases hsystem : ∃ service, ins = .system service
  · obtain ⟨service, rfl⟩ := hsystem
    exact Mirrors.answer (answer_mirrors service t h) _
  · have hserve : ins.serve = pure () ∧ ListSystem.serve ins = pure () := by
      cases ins with
      | system service => exact absurd ⟨service, rfl⟩ hsystem
      | _ => exact ⟨rfl, rfl⟩
    rw [hserve.1, hserve.2, pure_bind, pure_bind]
    exact (Mirrors.onMachine (execute_mirrors program ins h hbase htop within')).forget

/-! ## Steps -/

namespace Execution

/-- The run of a machine with a list that a run shows.  The log is not part of it. -/
def view (e : Execution) : ListExecution := ⟨e.system.view, e.outcome⟩

lemma view_fail (e : Execution) (fault : Fault) : (e.fail fault).view = e.view.fail fault := by
  cases flushed : Console.flush e.system.console with
  | ok _ console =>
      have image : Console.flush e.view.system.console = .ok _ console := flushed
      simp only [fail, ListExecution.fail, flushed, image]
      rfl
  | error _ console =>
      have image : Console.flush e.view.system.console = .error _ console := flushed
      simp only [fail, ListExecution.fail, flushed, image]
      rfl

lemma view_finish (e : Execution) (index : Nat) (ins : Instruction) :
    (e.finish index ins).view = e.view.finish index ins := by
  cases flushed : Console.flush e.system.console with
  | ok _ console =>
      have image : Console.flush e.view.system.console = .ok _ console := flushed
      have noted : Console.flush (e.note (.halted index)).system.console = .ok _ console := flushed
      simp only [finish, ListExecution.finish, noted, image]
      rfl
  | error _ console =>
      have image : Console.flush e.view.system.console = .error _ console := flushed
      have noted : Console.flush (e.note (.halted index)).system.console = .error _ console :=
        flushed
      simp only [finish, ListExecution.finish, noted, image]
      rfl

lemma view_follow (e : Execution) (index : Nat) (flow : Flow) :
    (e.follow index flow).view = { e.view with system.machine.ip := flow.target index } := by
  simp only [follow]
  cases flow <;> rfl

variable {program : Program} {e : Execution}

/-- A load that the next instruction comes to is one of the next step. -/
lemma loads_of_shown {ins : Instruction} {t : System} (before : e.outcome = none)
    (fetched : e.fetch? program = some ins) (shown : showTrace ins e.system = .ok ⟨⟩ t) :
    e.loads? program = ins.loads? t.machine := by
  simp only [loads?, before, fetched, shown]

/-- **One step in lockstep.**  What is shown after it is what the list makes of what was shown. -/
theorem view_step (h : Sound program e)
    (htop : e.system.machine.registers.str + 1 < 0x8000000000000000)
    (within : ∀ address ∈ e.loads? program, address ≤ e.system.machine.registers.str) :
    (e.step program).view = e.view.step program := by
  cases before : e.outcome with
  | some outcome =>
      have image : e.view.outcome = some outcome := before
      rw [step_of_ended (by simp [before])]
      simp only [ListExecution.step, image]
  | none =>
      have image : e.view.outcome = none := before
      cases fetched : e.fetch? program with
      | none =>
          have image' : program.instructions[e.view.system.machine.ip]? = none := fetched
          rw [step_of_end before fetched, view_fail]
          simp only [ListExecution.step, image, image']
          rfl
      | some ins =>
          have image' : program.instructions[e.view.system.machine.ip]? = some ins := fetched
          have within' : ∀ t, showTrace ins e.system = .ok ⟨⟩ t →
              ∀ address ∈ ins.loads? t.machine, address ≤ t.machine.registers.str := by
            intro t shown address haddress
            rw [← loads_of_shown before fetched shown] at haddress
            rw [(showTrace_ensures ins e.system).ok shown]
            exact within address haddress
          have hbase := (h.running before).fits
          -- The instruction ends alike on both sides, and so does what the step makes of its end.
          cases ins.perform_mirrors program e.system h.grounded hbase htop within' with
          | of_error run performed =>
              have performed : ListSystem.perform program ins e.view.system = _ := performed
              rw [step_of_error before fetched run, view_fail]
              simp only [ListExecution.step, image, image', performed]
              rfl
          | @of_ok flow t run performed _ =>
              have performed : ListSystem.perform program ins e.view.system = _ := performed
              by_cases halts : flow = .halt
              · subst halts
                rw [step_of_halt before fetched run, view_finish]
                simp only [ListExecution.step, image, image', performed]
                rfl
              · rw [step_of_flow before fetched run halts, view_follow]
                cases flow with
                | halt => exact absurd rfl halts
                | _ =>
                    simp only [ListExecution.step, image, image', performed]
                    simp only [view, before]
                    rfl

lemma view_fresh (program : Program) (trace : Bool) (console : Console) :
    (fresh program trace console).view = ListExecution.fresh trace console := rfl

end Execution

/-! ## Runs -/

lemma ListExecution.run_succ (program : Program) (count : Nat) (l : ListExecution) :
    run program (count + 1) l = (run program count l).step program := by
  induction count generalizing l with
  | zero => rfl
  | succ count ih => exact ih (l.step program)

open Execution in
/-- What a run shows is the run of what was shown at its beginning. -/
lemma view_run (program : Program) (trace : Bool) (console : Console) (count : Nat)
    (hcount : count < 0x8000000000000000)
    (within : ∀ i < count, ∀ address ∈ (run program i (fresh program trace console)).loads? program,
      address ≤ (run program i (fresh program trace console)).system.machine.registers.str) :
    (run program count (fresh program trace console)).view =
      ListExecution.run program count (ListExecution.fresh trace console) := by
  induction count with
  | zero => exact view_fresh program trace console
  | succ count ih =>
      have shown := ih (by omega) fun i hi => within i (Nat.lt_succ_of_lt hi)
      have hrise := run_str_lt program trace console count
      have hstep := view_step (run_sound program trace console count) (by omega)
        (within count (Nat.lt_succ_self count))
      rw [run_succ, ListExecution.run_succ, hstep, shown]

/-- **A run and its list.**  Take any number of steps of a new machine, none of which loads from a
cell above the stack top.  After them the machine with a list has the same stack, instruction
pointer, local base, return stack, trace flag and console, and it has ended in the same way if the
machine has.  It does not matter where the run stores. -/
theorem run_lockstep (program : Program) (trace : Bool) (console : Console) (count : Nat)
    (hcount : count < 0x8000000000000000)
    (within : ∀ i < count,
      let e := Execution.run program i (Execution.fresh program trace console)
      ∀ address ∈ e.loads? program, address ≤ e.system.machine.registers.str) :
    let e := Execution.run program count (Execution.fresh program trace console)
    let l := ListExecution.run program count (ListExecution.fresh trace console)
    let m := e.system.machine
    m.stack = l.system.machine.stack ∧
    m.registers.str + 1 = l.system.machine.stack.length ∧
    m.registers.ip = l.system.machine.ip ∧
    m.registers.lbr = l.system.machine.base ∧
    m.returns = l.system.machine.returns ∧
    m.trace = l.system.machine.trace ∧
    e.system.console = l.system.console ∧
    e.outcome = l.outcome := by
  intro e l m
  have shown : e.view = l := view_run program trace console count hcount within
  have hground := (Execution.run_sound program trace console count).grounded
  rw [← shown]
  exact ⟨rfl, (length_stack hground).symm, rfl, rfl, rfl, rfl, rfl, rfl⟩

/-- A routine that reads the cell of its argument. -/
def doublingProgram : Program where
  instructions := #[.literal 4, .literal 21, .literal 5, .call 1, .halt, .loadLocal 0, .loadLocal 0,
    .binary .plus, .system .writeNumber, .ret 0]
  labels := ∅

/-- All loads of the routine are from the words on the stack. -/
theorem run_lockstep_doubling :
    let e := Execution.run doublingProgram 10
      (Execution.fresh doublingProgram true (Console.ofInput []))
    let l := ListExecution.run doublingProgram 10 (ListExecution.fresh true (Console.ofInput []))
    let m := e.system.machine
    m.stack = l.system.machine.stack ∧
    m.registers.str + 1 = l.system.machine.stack.length ∧
    m.registers.ip = l.system.machine.ip ∧
    m.registers.lbr = l.system.machine.base ∧
    m.returns = l.system.machine.returns ∧
    m.trace = l.system.machine.trace ∧
    e.system.console = l.system.console ∧
    e.outcome = l.outcome :=
  run_lockstep doublingProgram true (Console.ofInput []) 10 (by decide) (by decide +kernel)

end StackMachine

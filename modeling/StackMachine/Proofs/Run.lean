import StackMachine.Execution.Basic
import StackMachine.Proofs.Console

/-!
# Steps and runs

What one step of an execution makes of its instruction, and how steps add up to runs.

An instruction that fails ends the run with the state in which it failed, a halt ends it where it
stands, and any other instruction only moves the instruction pointer on.  `Execution.step_ensures`
says this once, so that whatever an instruction ensures is known of the step as well.

* `Execution.fetch?`, `Execution.fresh` — the next instruction, and the run of a new machine.
* `Execution.reached?` — the next instruction, if the run comes to carry it out.
* `Instruction.Sends`, `Instruction.perform_sends` — where an instruction can send the run.
* `Execution.step_of_ended`, `Execution.step_of_end` — the steps without an instruction.
* `Execution.step_ensures`, `Execution.step_console` — from an instruction to its step.
* `Execution.run_succ`, `Execution.run_induction` — from a step to a run.
* `Execution.exists_last_step` — where a run has ended.
-/

namespace StackMachine

/-! ## Where instructions send the run -/

/-- **Where an instruction can send the run.** -/
def Instruction.Sends : (ins : Instruction) → Flow → Prop
  | .halt, flow => flow = .halt
  | .goto _, flow | .branch _ _, flow => ∃ target, flow = .jump target
  | .call frame, flow => ∃ target, flow = .enter target frame
  | .ret _, flow => ∃ target frame, flow = .leave target frame
  | _, flow => flow = .next

/-- Only a halt halts. -/
lemma Instruction.Sends.halts_iff {ins : Instruction} {flow : Flow} (h : ins.Sends flow) :
    flow = .halt ↔ ins = .halt := by
  cases ins with
  | halt => exact ⟨fun _ => rfl, fun _ => h⟩
  | goto _ | branch _ _ | call _ =>
      obtain ⟨target, rfl⟩ := h
      simp
  | ret _ =>
      obtain ⟨target, frame, rfl⟩ := h
      simp
  | _ =>
      obtain rfl : flow = .next := h
      simp

namespace Machine

variable {m : Machine}

lemma enterRoutine_sends (frame : Nat) :
    Ensures (enterRoutine frame) m (fun flow _ => ∃ target, flow = .enter target frame)
      (fun _ _ => True) := by
  refine Ensures.last ?_
  intro w t
  refine Ensures.last ?_
  intro target u
  refine Ensures.last ?_
  intro _ v
  exact Ensures.answer fun _ => ⟨target, rfl⟩

lemma leaveRoutine_sends (results : Nat) :
    Ensures (leaveRoutine results) m
      (fun flow _ => ∃ target frame, flow = .leave target frame) (fun _ _ => True) := by
  refine Ensures.last ?_
  intro _ t
  refine Ensures.last ?_
  intro point u
  exact Ensures.answer fun _ => ⟨_, point.frame, rfl⟩

/-- Something pushed, however it was found. -/
lemma push_next_sends {α : Type} (x : MachineM α) (g : α → Word) :
    Ensures (do push (g (← x)); return Flow.next) m (fun flow _ => flow = .next)
      (fun _ _ => True) := by
  refine Ensures.last ?_
  intro a t
  exact Ensures.answer fun _ => rfl

lemma execute_sends (program : Program) (ins : Instruction) (m : Machine) :
    Ensures (execute program ins) m (fun flow _ => ins.Sends flow) (fun _ _ => True) := by
  cases ins with
  | nop => exact Ensures.pure rfl
  | halt => exact Ensures.pure rfl
  | literal w => exact Ensures.answer fun _ => rfl
  | loadLocal i => exact push_next_sends _ id
  | loadGlobal i => exact push_next_sends _ id
  | storeLocal i =>
      refine Ensures.last ?_
      intro w t
      exact Ensures.answer fun _ => rfl
  | storeGlobal i =>
      refine Ensures.last ?_
      intro w t
      exact Ensures.answer fun _ => rfl
  | localAddress i => exact push_next_sends _ Word.wrap
  | globalAddress i => exact Ensures.answer fun _ => rfl
  | unary op =>
      refine Ensures.last ?_
      intro w t
      exact push_next_sends _ id
  | binary op =>
      refine Ensures.last ?_
      intro right t
      refine Ensures.last ?_
      intro left u
      exact push_next_sends _ id
  | pop count => exact Ensures.answer fun _ => rfl
  | dup => exact push_next_sends _ id
  | swap =>
      refine Ensures.last ?_
      intro first t
      refine Ensures.last ?_
      intro second u
      refine Ensures.last ?_
      intro _ v
      exact Ensures.answer fun _ => rfl
  | call frame => exact enterRoutine_sends frame
  | ret results => exact leaveRoutine_sends results
  | goto label => exact Ensures.answer fun target => ⟨target, rfl⟩
  | branch yes no =>
      refine Ensures.last ?_
      intro first t
      refine Ensures.last ?_
      intro second u
      exact Ensures.answer fun condition => ⟨_, rfl⟩
  | code label => exact push_next_sends _ fun target : Nat => Word.wrap target
  | system service => exact Ensures.pure rfl
  | unknown row => exact Ensures.throw trivial

end Machine

lemma Instruction.perform_sends (program : Program) (ins : Instruction) (s : System) :
    Ensures (ins.perform program) s (fun flow _ => ins.Sends flow) (fun _ _ => True) := by
  refine Ensures.last ?_
  intro _ t
  refine Ensures.last ?_
  intro _ u
  refine (Ensures.onMachine (Machine.execute_sends program ins u.machine)).mono ?_
    (fun _ _ _ => trivial)
  rintro flow v ⟨sends, -⟩
  exact sends

/-- **Only a halt halts.** -/
lemma Instruction.perform_halts (program : Program) (ins : Instruction) (s : System) :
    Ensures (ins.perform program) s (fun flow _ => flow = .halt ↔ ins = .halt)
      (fun _ _ => True) :=
  (ins.perform_sends program s).mono (fun _ _ sends => sends.halts_iff) fun _ _ _ => trivial

namespace Execution

/-- The instruction that comes next. -/
def fetch? (program : Program) (e : Execution) : Option Instruction :=
  program.instructions[e.system.machine.registers.ip]?

/-- A run on a machine that has not run, with the trace on or off. -/
def fresh (program : Program) (trace : Bool) (console : Console) : Execution :=
  start program { Machine.initial with trace } console

/-- The instruction that the next step comes to carry out: the run goes on, there is an instruction,
and the line that shows it, if the trace is on, can be written. -/
def reached? (program : Program) (e : Execution) : Option Instruction :=
  match e.outcome, e.fetch? program with
  | none, some ins =>
    match showTrace ins e.system with
    | .ok _ _ => some ins
    | .error _ _ => none
  | _, _ => none

/-! ## Ends of a run

Delivering the output at either end concerns the console only.
-/

@[simp]
lemma machine_fail (e : Execution) (fault : Fault) :
    (e.fail fault).system.machine = e.system.machine := by
  simp only [fail]
  split <;> rfl

@[simp]
lemma outcome_fail (e : Execution) (fault : Fault) :
    (e.fail fault).outcome = some (.faulted fault) := by
  simp only [fail]
  split <;> rfl

@[simp]
lemma machine_finish (e : Execution) (index : Nat) (ins : Instruction) :
    (e.finish index ins).system.machine = e.system.machine := by
  simp only [finish]
  split <;> rfl

/-- A halt is good unless its flush fails. -/
lemma outcome_finish (e : Execution) (index : Nat) (ins : Instruction) :
    (e.finish index ins).outcome = some .halted ∨
      ∃ error, (e.finish index ins).outcome = some (.faulted ⟨index, ins.text, error⟩) := by
  simp only [finish]
  split
  next => exact .inl rfl
  next error _ _ => exact .inr ⟨error, rfl⟩

@[simp]
lemma console_fail (e : Execution) (fault : Fault) :
    (e.fail fault).system.console = e.system.console.flushed := by
  by_cases failing : e.system.console.flushes.size ∈ e.system.console.failingFlushes
  · simp only [fail, Console.flush_run_of_failing failing, note]
  · simp only [fail, Console.flush_run failing]

@[simp]
lemma console_finish (e : Execution) (index : Nat) (ins : Instruction) :
    (e.finish index ins).system.console = e.system.console.flushed := by
  by_cases failing : e.system.console.flushes.size ∈ e.system.console.failingFlushes
  · simp only [finish, note, Console.flush_run_of_failing failing]
  · simp only [finish, note, Console.flush_run failing]

lemma system_fail (e : Execution) (fault : Fault) :
    (e.fail fault).system = ⟨e.system.machine, e.system.console.flushed⟩ := by
  rw [← machine_fail e fault, ← console_fail e fault]

lemma system_finish (e : Execution) (index : Nat) (ins : Instruction) :
    (e.finish index ins).system = ⟨e.system.machine, e.system.console.flushed⟩ := by
  rw [← machine_finish e index ins, ← console_finish e index ins]

lemma system_follow (e : Execution) (index : Nat) (flow : Flow) :
    (e.follow index flow).system =
      { e.system with machine.registers.ip := flow.target index } := by
  simp only [follow]
  cases flow <;> rfl

@[simp]
lemma machine_follow (e : Execution) (index : Nat) (flow : Flow) :
    (e.follow index flow).system.machine =
      { e.system.machine with registers.ip := flow.target index } := by
  simp only [follow]
  cases flow <;> rfl

@[simp]
lemma outcome_follow (e : Execution) (index : Nat) (flow : Flow) :
    (e.follow index flow).outcome = e.outcome := by
  simp only [follow]
  cases flow <;> rfl

@[simp]
lemma console_follow (e : Execution) (index : Nat) (flow : Flow) :
    (e.follow index flow).system.console = e.system.console := by
  simp only [follow]
  cases flow <;> rfl

/-! ## One step -/

section Step

variable {program : Program} {e : Execution} {ins : Instruction}

lemma step_of_ended (h : e.outcome ≠ none) : e.step program = e := by
  simp only [step]
  cases ho : e.outcome with
  | none => exact absurd ho h
  | some outcome => rfl

/-- A run that still goes on after a step went on before it. -/
lemma running_of_step (after : (e.step program).outcome = none) : e.outcome = none := by
  by_cases ended : e.outcome ≠ none
  · rw [step_of_ended ended] at after
    exact absurd after ended
  · exact Decidable.of_not_not ended

lemma reached?_of_ended (h : e.outcome ≠ none) : e.reached? program = none := by
  cases ended : e.outcome with
  | none => exact absurd ended h
  | some outcome => simp only [reached?, ended]

lemma reached?_of_end (fetched : e.fetch? program = none) : e.reached? program = none := by
  cases before : e.outcome <;> simp only [reached?, before, fetched]

lemma reached?_of_shown {t : System} (before : e.outcome = none)
    (fetched : e.fetch? program = some ins) (shown : showTrace ins e.system = .ok ⟨⟩ t) :
    e.reached? program = some ins := by
  simp only [reached?, before, fetched, shown]

lemma reached?_of_not_shown {error : MachineError} {t : System}
    (fetched : e.fetch? program = some ins) (hidden : showTrace ins e.system = .error error t) :
    e.reached? program = none := by
  cases before : e.outcome <;> simp only [reached?, before, fetched, hidden]

lemma exists_of_reached (h : e.reached? program = some ins) :
    e.outcome = none ∧ e.fetch? program = some ins ∧ ∃ t, showTrace ins e.system = .ok ⟨⟩ t := by
  by_cases before : e.outcome = none
  · cases fetched : e.fetch? program with
    | none => simp [reached?_of_end fetched] at h
    | some next =>
        cases shown : showTrace next e.system with
        | error error t => simp [reached?_of_not_shown fetched shown] at h
        | ok a t =>
            obtain rfl := Option.some.inj ((reached?_of_shown before fetched shown).symm.trans h)
            exact ⟨before, rfl, t, shown⟩
  · simp [reached?_of_ended before] at h

lemma step_of_end (before : e.outcome = none) (fetched : e.fetch? program = none) :
    e.step program = e.fail ⟨e.system.machine.registers.ip, endOfProgram,
      .invalidAddress e.system.machine.registers.ip⟩ := by
  simp only [fetch?] at fetched
  simp only [step, before, fetched]

lemma step_of_error {error : MachineError} {system : System} (before : e.outcome = none)
    (fetched : e.fetch? program = some ins)
    (h : ins.perform program e.system = .error error system) :
    e.step program =
      { e with system }.fail ⟨e.system.machine.registers.ip, ins.text, error⟩ := by
  simp only [fetch?] at fetched
  simp only [step, before, fetched, h]

lemma step_of_halt {system : System} (before : e.outcome = none)
    (fetched : e.fetch? program = some ins)
    (h : ins.perform program e.system = .ok .halt system) :
    e.step program = { e with system }.finish e.system.machine.registers.ip ins := by
  simp only [fetch?] at fetched
  simp only [step, before, fetched, h]

lemma step_of_flow {flow : Flow} {system : System} (before : e.outcome = none)
    (fetched : e.fetch? program = some ins)
    (h : ins.perform program e.system = .ok flow system) (hflow : flow ≠ .halt) :
    e.step program = { e with system }.follow e.system.machine.registers.ip flow := by
  simp only [fetch?] at fetched
  cases flow with
  | halt => exact absurd rfl hflow
  | next => simp only [step, before, fetched, h]
  | jump target => simp only [step, before, fetched, h]
  | enter target frame => simp only [step, before, fetched, h]
  | leave target frame => simp only [step, before, fetched, h]

/-- **What an instruction ensures, its step ensures.**  The step faults in the state in which the
instruction failed, ends in the state in which it halted, or goes on where it sends the run. -/
theorem step_ensures {done : Flow → System → Prop} {failed : MachineError → System → Prop}
    (before : e.outcome = none) (fetched : e.fetch? program = some ins)
    (h : Ensures (ins.perform program) e.system done failed) :
    (∃ error system, failed error system ∧ (e.step program).system.machine = system.machine ∧
      (e.step program).outcome =
        some (.faulted ⟨e.system.machine.registers.ip, ins.text, error⟩)) ∨
    (∃ system, done .halt system ∧ (e.step program).system.machine = system.machine ∧
      (e.step program).outcome ≠ none) ∨
    (∃ flow system, flow ≠ .halt ∧ done flow system ∧
      (e.step program).system.machine =
        { system.machine with registers.ip := flow.target e.system.machine.registers.ip } ∧
      (e.step program).outcome = none) := by
  cases hp : ins.perform program e.system with
  | error error system =>
      refine .inl ⟨error, system, h.error hp, ?_, ?_⟩ <;>
        simp only [step_of_error before fetched hp, machine_fail, outcome_fail]
  | ok flow system =>
      by_cases hflow : flow = .halt
      · subst hflow
        refine .inr (.inl ⟨system, h.ok hp, ?_, ?_⟩)
        · simp only [step_of_halt before fetched hp, machine_finish]
        · rw [step_of_halt before fetched hp]
          rcases outcome_finish { e with system } e.system.machine.registers.ip ins with
            ho | ⟨error, ho⟩ <;> simp [ho]
      · refine .inr (.inr ⟨flow, system, hflow, h.ok hp, ?_, ?_⟩)
        · simp only [step_of_flow before fetched hp hflow, machine_follow]
        · simp only [step_of_flow before fetched hp hflow, outcome_follow, before]

/-- What an instruction ensures of the console holds of it before the flush at the end of the run,
if the step ends it. -/
lemma exists_console_of_step {P : Console → Prop} (before : e.outcome = none)
    (fetched : e.fetch? program = some ins)
    (h : Leaves (ins.perform program) e.system (fun t => P t.console)) :
    ∃ c, P c ∧ (e.step program).system.console =
      if (e.step program).outcome = none then c else c.flushed := by
  cases performed : ins.perform program e.system with
  | error error t =>
      refine ⟨t.console, h.error performed, ?_⟩
      simp only [step_of_error before fetched performed, console_fail, outcome_fail, reduceCtorEq,
        if_false]
  | ok flow t =>
      refine ⟨t.console, h.ok performed, ?_⟩
      by_cases halts : flow = .halt
      · subst halts
        rw [step_of_halt before fetched performed, console_finish, if_neg]
        rcases outcome_finish { e with system := t } e.system.machine.registers.ip ins with
          ended | ⟨error, ended⟩ <;> simp [ended]
      · simp only [step_of_flow before fetched performed halts, console_follow, outcome_follow,
          before, if_true]

/-- What an instruction ensures of the console, its step ensures as well, up to a flush. -/
lemma step_console {P : Console → Prop} (flush : ∀ c, P c → P c.flushed)
    (before : e.outcome = none) (fetched : e.fetch? program = some ins)
    (h : Leaves (ins.perform program) e.system (fun t => P t.console)) :
    P (e.step program).system.console := by
  obtain ⟨c, holds, same⟩ := exists_console_of_step before fetched h
  rw [same]
  split
  next => exact holds
  next => exact flush c holds

end Step

/-! ## Runs -/

section Run

variable {program : Program}

lemma run_succ (count : Nat) (e : Execution) :
    run program (count + 1) e = (run program count e).step program := by
  induction count generalizing e with
  | zero => rfl
  | succ count ih => exact ih (e.step program)

lemma run_add (first second : Nat) (e : Execution) :
    run program (first + second) e = run program second (run program first e) := by
  induction second with
  | zero => rfl
  | succ second ih => rw [Nat.add_succ, run_succ, run_succ, ih]

lemma run_of_ended {e : Execution} (ended : e.outcome ≠ none) (count : Nat) :
    run program count e = e := by
  induction count with
  | zero => rfl
  | succ count ih => rw [run_succ, ih, step_of_ended ended]

/-- A run that has ended did so in one of its steps, and has not changed since. -/
lemma exists_last_step {count : Nat} {e : Execution} (before : e.outcome = none)
    (ended : (run program count e).outcome ≠ none) :
    ∃ last < count, (run program last e).outcome = none ∧
      run program count e = (run program last e).step program := by
  induction count with
  | zero => exact absurd before ended
  | succ count ih =>
      by_cases running : (run program count e).outcome = none
      · exact ⟨count, Nat.lt_succ_self count, running, run_succ count e⟩
      · obtain ⟨last, hlast, hrunning, hsame⟩ := ih running
        refine ⟨last, Nat.lt_succ_of_lt hlast, hrunning, ?_⟩
        rw [run_succ, step_of_ended running, hsame]

/-- A run that goes on after a number of steps went on all the time. -/
lemma running_of_run {first last : Nat} {e : Execution} (h : first ≤ last)
    (running : (run program last e).outcome = none) : (run program first e).outcome = none := by
  induction h with
  | refl => exact running
  | step _ ih =>
      rw [run_succ] at running
      exact ih (running_of_step running)

/-- What holds at the start and after every step holds after every number of steps. -/
lemma run_induction {P : Execution → Prop} {e : Execution} (start : P e)
    (step : ∀ e, P e → P (e.step program)) (count : Nat) : P (run program count e) := by
  induction count with
  | zero => exact start
  | succ count ih =>
      rw [run_succ]
      exact step _ ih

end Run

end Execution

end StackMachine

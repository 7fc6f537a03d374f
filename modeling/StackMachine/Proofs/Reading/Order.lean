import StackMachine.Proofs.Cells
import StackMachine.Proofs.Delivery.Discipline
import StackMachine.Proofs.Reading.Forms

/-!
# The order of reads

Whatever a run does between two reads, the second takes the line behind the one that the first has
taken.  For no step but a read takes any input, and a read takes the first of the lines that are
left, also when it then faults.  So the number of a read among the reads of its run is the number of
its line among the lines of the input.

What a read makes of its line is a matter of the line alone, as long as its flush does not fail, up
to the word that the line holds.  That word is then pushed like any other.

* `Instruction.perform_of_heard_ok`, `Instruction.perform_of_heard_error` — a read.
* `Execution.Reading`, `Execution.step_reading` — the step of a read, by what its line is.
* `Execution.lines_of_run` — the lines that are left after a run.
* `read_takes_its_line` — the reads of a run, by their number.
-/

namespace StackMachine

/-! ## One read -/

namespace Machine

variable {m : Machine}

/-- A push fails on a machine whose stack has gone below the origin of memory. -/
lemma push_run_of_neg (w : Word) (h : m.registers.str < -1) :
    push w m = .error (.invalidAddress (m.registers.str + 1))
      { m with registers.str := m.registers.str + 1 } :=
  store_run_of_neg (show m.registers.str + 1 < 0 by omega) w

lemma push_ensures (w : Word) (m : Machine) :
    Ensures (push w) m (fun _ t => -1 ≤ m.registers.str ∧ t = m.pushed w)
      (fun error _ => ∃ address, error = .invalidAddress address) := by
  rcases Int.lt_or_le m.registers.str (-1) with below | above
  · exact Ensures.of_error (push_run_of_neg w below) ⟨_, rfl⟩
  · exact Ensures.of_ok (push_run w above) ⟨above, rfl⟩

end Machine

namespace Instruction

variable {ins : Instruction} {s t : System} {w : Word} {error : MachineError}

/-- The machine itself has no part in a read but the push. -/
lemma execute_of_reads (program : Program) (reads : ins.reads = true) :
    (liftM (Machine.execute program ins) : Action Flow) = pure .next := by
  rcases eq_of_reads reads with rfl | rfl <;> rfl

section Heard

variable (program : Program) (reads : ins.reads = true) (shown : showTrace ins s = .ok ⟨⟩ t)
  (goes : t.console.flushes.size ∉ t.console.failingFlushes)
include reads shown goes

/-- A read hears what there is on its line, and then pushes it. -/
lemma perform_of_heard : ins.perform program s =
    (do Machine.push (← ins.heard t.console.input); pure .next : Action Flow)
      { t with console := t.console.advanced } := by
  have run := Console.readLine_run goes
  rw [perform_of_shown shown, serve_of_reads reads, execute_of_reads program reads, heard]
  cases line : Console.line t.console.input with
  | error error =>
      rw [line] at run
      exact bind_error (bind_error (onConsole_error run))
  | ok text =>
      rw [line] at run
      simp only [bind_assoc]
      exact bind_ok (onConsole_ok run)

lemma perform_of_heard_error (heard : ins.heard t.console.input = .error error) :
    ins.perform program s = .error error { t with console := t.console.advanced } := by
  rw [perform_of_heard program reads shown goes, heard]
  exact bind_error liftM_error

lemma perform_of_heard_ok (heard : ins.heard t.console.input = .ok w) : ins.perform program s =
    (do Machine.push w; pure .next : Action Flow) { t with console := t.console.advanced } := by
  rw [perform_of_heard program reads shown goes, heard]
  exact bind_ok liftM_ok

end Heard

end Instruction

namespace Execution

variable {program : Program} {e : Execution} {ins : Instruction} {w : Word} {error : MachineError}

/-- How a run ends at an instruction with an error. -/
def faultAt (e : Execution) (ins : Instruction) (error : MachineError) : Outcome :=
  .faulted ⟨e.system.machine.registers.ip, ins.text, error⟩

section Read

variable (reached : e.reached? program = some ins) (reads : ins.reads = true)
  (reliable : e.system.console.failingFlushes = [])
include reached reads reliable

omit reads in
/-- The line that shows an instruction changes neither the machine nor the input. -/
lemma exists_shown : ∃ t, e.outcome = none ∧ e.fetch? program = some ins ∧
    showTrace ins e.system = .ok ⟨⟩ t ∧ t.machine = e.system.machine ∧
    t.console.input = e.system.console.input ∧
    t.console.flushes.size ∉ t.console.failingFlushes := by
  obtain ⟨before, fetched, t, shown⟩ := exists_of_reached reached
  have quiet := (showTrace_quiet ins e.system).ok shown
  refine ⟨t, before, fetched, shown, (showTrace_ensures ins e.system).ok shown, quiet.input, ?_⟩
  simp [quiet.failing, reliable]

/-- **A read that hears no word** faults, and the machine stays as it is. -/
lemma step_of_heard_error (heard : ins.heard e.system.console.input = .error error) :
    (e.step program).outcome = some (e.faultAt ins error) ∧
      (e.step program).system.machine = e.system.machine := by
  obtain ⟨t, before, fetched, shown, machine, input, goes⟩ := exists_shown reached reliable
  rw [← input] at heard
  have performed := Instruction.perform_of_heard_error program reads shown goes heard
  rw [step_of_error before fetched performed, outcome_fail, machine_fail]
  exact ⟨rfl, machine⟩

section Word

variable (heard : ins.heard e.system.console.input = .ok w)
include heard

/-- **A read that hears a word** pushes it, and the run goes on. -/
lemma step_of_pushed {m : Machine} (pushed : Machine.push w e.system.machine = .ok ⟨⟩ m) :
    (e.step program).outcome = none ∧ (e.step program).system.machine =
      { m with registers.ip := e.system.machine.registers.ip + 1 } := by
  obtain ⟨t, before, fetched, shown, machine, input, goes⟩ := exists_shown reached reliable
  rw [← input] at heard
  rw [← machine] at pushed
  have performed : ins.perform program e.system = .ok .next ⟨m, t.console.advanced⟩ := by
    rw [Instruction.perform_of_heard_ok program reads shown goes heard]
    exact bind_ok (onMachine_ok pushed)
  rw [step_of_flow before fetched performed (by simp), outcome_follow, machine_follow]
  exact ⟨before, rfl⟩

lemma step_of_not_pushed {m : Machine}
    (failed : Machine.push w e.system.machine = .error error m) :
    (e.step program).outcome = some (e.faultAt ins error) ∧
      (e.step program).system.machine = m := by
  obtain ⟨t, before, fetched, shown, machine, input, goes⟩ := exists_shown reached reliable
  rw [← input] at heard
  rw [← machine] at failed
  have performed : ins.perform program e.system = .error error ⟨m, t.console.advanced⟩ := by
    rw [Instruction.perform_of_heard_ok program reads shown goes heard]
    exact bind_error (onMachine_error failed)
  rw [step_of_error before fetched performed, outcome_fail, machine_fail]
  exact ⟨rfl, rfl⟩

end Word

/-- The fault of a read is what was wrong with its line, unless the push has failed. -/
lemma outcome_step_eq_faultAt_iff (line : ∀ address, error ≠ .invalidAddress address) :
    (e.step program).outcome = some (e.faultAt ins error) ↔
      ins.heard e.system.console.input = .error error := by
  refine ⟨fun ended => ?_, fun heard => (step_of_heard_error reached reads reliable heard).1⟩
  cases heard : ins.heard e.system.console.input with
  | error other =>
      rw [(step_of_heard_error reached reads reliable heard).1] at ended
      simp only [faultAt, Option.some.injEq, Outcome.faulted.injEq, Fault.mk.injEq] at ended
      rw [ended.2.2]
  | ok w =>
      cases push : Machine.push w e.system.machine with
      | ok a m =>
          rw [(step_of_pushed reached reads reliable heard push).1] at ended
          cases ended
      | error other m =>
          -- A push that fails names an address, and no line is refused in this way.
          obtain ⟨address, rfl⟩ := (Machine.push_ensures w e.system.machine).error push
          rw [(step_of_not_pushed reached reads reliable heard push).1] at ended
          simp only [faultAt, Option.some.injEq, Outcome.faulted.injEq, Fault.mk.injEq] at ended
          exact absurd ended.2.2.symm (line address)

/-- A word is on top of the stack after the read if it was heard. -/
lemma pushed_iff_heard (grounded : -1 ≤ e.system.machine.registers.str) :
    ((e.step program).outcome = none ∧
      (e.step program).system.machine.stack = e.system.machine.stack ++ [w]) ↔
        ins.heard e.system.console.input = .ok w := by
  have pushes : ∀ {v}, ins.heard e.system.console.input = .ok v →
      (e.step program).outcome = none ∧
        (e.step program).system.machine.stack = e.system.machine.stack ++ [v] := by
    intro v heard
    obtain ⟨running, machine⟩ := step_of_pushed reached reads reliable heard
      (Machine.push_run v grounded)
    refine ⟨running, ?_⟩
    rw [machine, ← Machine.stack_pushed v grounded]
    rfl
  refine ⟨fun ⟨running, stack⟩ => ?_, pushes⟩
  cases heard : ins.heard e.system.console.input with
  | error error =>
      rw [(step_of_heard_error reached reads reliable heard).1] at running
      cases running
  | ok v =>
      rw [(pushes heard).2, List.append_cancel_left_eq, List.singleton_inj] at stack
      rw [stack]

end Read

/-- **What the step of a read makes of its line**, if there is one. -/
structure Reading (program : Program) (e : Execution) (ins : Instruction)
    (line? : Option (List UInt8)) : Prop where
  /-- It faults at the end of the input. -/
  ended : (e.step program).outcome = some (e.faultAt ins .endOfInput) ↔ line? = none
  /-- It faults at bytes that are not those of a text. -/
  garbled : (e.step program).outcome = some (e.faultAt ins .inputNotUtf8) ↔
    ∃ line, line? = some line ∧ ∀ text, utf8 text ≠ line
  /-- It faults at a text that has not the form asked for. -/
  refused : ∀ line text, line? = some line → Console.Bears line text →
    ((e.step program).outcome = some (e.faultAt ins (.invalidInput (String.ofList text))) ↔
      ∀ w, ¬ ins.Accepts text w)
  /-- It puts the word on the stack that a text of this form holds, and no other.  The stack top is
  lower than this only behind a return from a call that had failed. -/
  pushed : ∀ line text, line? = some line → Console.Bears line text →
    -1 ≤ e.system.machine.registers.str → ∀ w,
      ((e.step program).outcome = none ∧
        (e.step program).system.machine.stack = e.system.machine.stack ++ [w]) ↔
          ins.Accepts text w
  /-- The machine does what it does to push that word, whatever state it is in. -/
  pushes : ∀ line text w, line? = some line → Console.Bears line text → ins.Accepts text w →
    match Machine.push w e.system.machine with
    | .ok _ m => (e.step program).outcome = none ∧
        (e.step program).system.machine =
          { m with registers.ip := e.system.machine.registers.ip + 1 }
    | .error error m => (e.step program).outcome = some (e.faultAt ins error) ∧
        (e.step program).system.machine = m
  /-- Without a word, nothing happens to the machine. -/
  kept : (∀ line text w, line? = some line → Console.Bears line text → ¬ ins.Accepts text w) →
    (e.step program).system.machine = e.system.machine

/-- **A read makes of the first line what its form says.** -/
theorem step_reading (reached : e.reached? program = some ins) (reads : ins.reads = true)
    (reliable : e.system.console.failingFlushes = []) :
    e.Reading program ins (Console.lines e.system.console.input).head? where
  ended := by
    rw [outcome_step_eq_faultAt_iff reached reads reliable (by simp),
      Instruction.heard_eq_endOfInput_iff]
  garbled := by
    rw [outcome_step_eq_faultAt_iff reached reads reliable (by simp),
      Instruction.heard_eq_inputNotUtf8_iff]
  refused line text first bears := by
    rw [outcome_step_eq_faultAt_iff reached reads reliable (by simp),
      Instruction.heard_eq_invalidInput_iff first bears reads]
  pushed line text first bears grounded w := by
    rw [pushed_iff_heard reached reads reliable grounded,
      Instruction.heard_eq_ok_iff first bears reads]
  pushes line text w first bears accepts := by
    have heard := (Instruction.heard_eq_ok_iff first bears reads).mpr accepts
    split
    next push => exact step_of_pushed reached reads reliable heard push
    next push => exact step_of_not_pushed reached reads reliable heard push
  kept none := by
    cases heard : ins.heard e.system.console.input with
    | error error => exact (step_of_heard_error reached reads reliable heard).2
    | ok w =>
        obtain ⟨line, text, first, bears⟩ := Instruction.exists_text_of_heard heard
        exact absurd ((Instruction.heard_eq_ok_iff first bears reads).mp heard)
          (none line text w first bears)

/-! ## All reads of a run -/

/-- A step takes the first line that is left if it reads, and none if it does not. -/
lemma lines_of_step (program : Program) (reliable : e.system.console.failingFlushes = []) :
    Console.lines (e.step program).system.console.input =
      (Console.lines e.system.console.input).drop (if e.reads program = true then 1 else 0) := by
  cases reads : e.reads program with
  | false => simp [input_of_quiet program reads]
  | true =>
      obtain ⟨ins, t, before, fetched, reading, shown, -⟩ := exists_of_reads reads
      have quiet := (showTrace_quiet ins e.system).ok shown
      have goes : t.console.flushes.size ∉ t.console.failingFlushes := by
        simp [quiet.failing, reliable]
      have taken : (e.step program).system.console.input =
          (Console.firstLine e.system.console.input).2 := by
        rw [← quiet.input]
        refine step_console (P := fun c => c.input = (Console.firstLine t.console.input).2)
          (fun _ h => h) before fetched ?_
        exact (Instruction.perform_of_read reading shown goes).relax fun _ h => by rw [h]; rfl
      rw [taken, Console.lines_rest]
      simp

/-- **A run has taken as many lines as there were reads in it.** -/
lemma lines_of_run (program : Program) (reliable : e.system.console.failingFlushes = [])
    (count : Nat) :
    Console.lines (run program count e).system.console.input =
      (Console.lines e.system.console.input).drop
        ((List.range count).countP fun i => (run program i e).reads program) := by
  -- By induction on the steps: whether the last of them takes a line is said by `lines_of_step`.
  induction count with
  | zero => rfl
  | succ count ih =>
      have limits : (run program count e).system.console.failingFlushes = [] :=
        (failing_of_run program e count).trans reliable
      rw [run_succ, lines_of_step program limits, ih, List.drop_drop, List.range_succ,
        List.countP_append, List.countP_singleton]

end Execution

/-- **A read takes the line that has its number.**  A program is run on a machine, whatever that has
done before, at a console at which every flush succeeds.  When an instruction that reads is reached
after some steps, and a number of them were reads, then that number of lines has been taken from the
input, and this read takes the next one.  It is that line which decides what becomes of the read, in
the way that `Execution.Reading` says. -/
theorem read_takes_its_line {program : Program} {m : Machine} {console : Console} {count : Nat}
    {ins : Instruction} (reliable : console.failingFlushes = [])
    (reached : (Execution.run program count (Execution.start program m console)).reached? program =
      some ins)
    (reads : ins.reads = true) :
    let run := fun i => Execution.run program i (Execution.start program m console)
    let number := (List.range count).countP fun i => (run i).reads program
    (run count).system.console.input = ((Console.lines console.input).drop number).flatten ∧
    (run (count + 1)).system.console.input =
      ((Console.lines console.input).drop (number + 1)).flatten ∧
    (run count).Reading program ins (Console.lines console.input)[number]? := by
  intro run number
  have left : ∀ count, (run count).system.console.input = ((Console.lines console.input).drop
      ((List.range count).countP fun i => (run i).reads program)).flatten := by
    intro count
    have lines := Execution.lines_of_run (e := Execution.start program m console) program reliable
      count
    rw [← Console.flatten_lines (run count).system.console.input]
    exact congrArg List.flatten lines
  have next : (List.range (count + 1)).countP (fun i => (run i).reads program) = number + 1 := by
    have counted : (run count).reads program = true := by
      rw [Execution.reads, reached, Option.any_some, reads]
    rw [List.range_succ, List.countP_append, List.countP_singleton, if_pos counted]
  have limits : (run count).system.console.failingFlushes = [] :=
    (Execution.failing_of_run program _ count).trans reliable
  have reading := Execution.step_reading reached reads limits
  rw [Execution.lines_of_run (e := Execution.start program m console) program reliable count,
    List.head?_drop] at reading
  have rest := left (count + 1)
  rw [next] at rest
  exact ⟨left count, rest, reading⟩

/-- The second read takes the second line, though that has no end, and pushes its only character
behind the number that the first read has taken from between its blanks. -/
theorem read_takes_its_line_unended :
    let program : Program := ⟨#[.system .readNumber, .system .readCharacter, .halt], ∅⟩
    let console := Console.ofInput (utf8 [' ', '+', '0', '7', '\u00a0', '\r', '\n', 'é'])
    let e := Execution.run program 1 (Execution.start program Machine.initial console)
    console.failingFlushes = [] ∧ e.reached? program = some (.system .readCharacter) ∧
      Instruction.reads (.system .readCharacter) = true ∧
      e.system.console.input = utf8 ['é'] ∧ (e.step program).system.console.input = [] ∧
      e.system.machine.stack = [7] ∧ (e.step program).system.machine.stack = [7, 233] := by
  intro program console e
  have reached : e.reached? program = some (.system .readCharacter) := by decide +kernel
  obtain ⟨before, after, reading⟩ :=
    @read_takes_its_line program Machine.initial console 1 _ rfl reached rfl
  have first : e.system.machine.stack = [7] := by decide +kernel
  have bears : Console.Bears (utf8 ['é']) ['é'] := ⟨[], rfl, by simp, by simp [Console.isLineEnd]⟩
  have pushed := (reading.pushed (utf8 ['é']) ['é'] (by decide +kernel) bears (by decide +kernel)
    233).mpr (.character (by decide +kernel))
  rw [first] at pushed
  exact ⟨rfl, reached, rfl, before.trans (by decide +kernel), after.trans (by decide +kernel),
    first, pushed.2⟩

end StackMachine

import StackMachine.Proofs.Run
import StackMachine.Proofs.Source.Utf8
import StackMachine.Proofs.Tracing.Past

/-!
# The trace changes nothing but the output

Two runs on machines that differ only in whether the trace is on stay side by side: whatever the
program does, and however often it switches the trace itself, they differ in the flag and in the
trace lines on the output, and in nothing else.

A step is one step of the untraced run, seen behind the past with at most a trace line more.  So
what the step writes after that line is what the untraced run writes.

* `Execution.shown`, `Execution.step_behind` — one step.
* `Execution.untraced_run`, `Execution.output_run` — what stays the same, and what is written.
* `Execution.trace_transparent` — two runs.
-/

namespace StackMachine

/-! ## Steps -/

namespace Execution

variable {program : Program} {e : Execution}

/-- A run that went on behind a past. -/
def behind (past : Past) (e : Execution) : Execution :=
  { e with system := e.system.behind past }

/-- The run with the trace off and nothing written yet. -/
def untraced (e : Execution) : Execution := { e with system := e.system.untraced }

/-- What the next step shows before its instruction runs. -/
def shown (program : Program) (e : Execution) : String :=
  match e.outcome, e.fetch? program with
  | none, some ins => ins.shown e.system.machine
  | _, _ => ""

lemma untraced_behind (h : e.system.console.Open) :
    e.untraced.behind e.system.past = e := by
  show { e with system := e.system.untraced.behind e.system.past } = e
  rw [System.untraced_behind h]

section End

variable (past : Past) (h : e.system.console.Open)
include h

lemma fail_run (fault : Fault) :
    e.fail fault = { e with
      system.console := e.system.console.flushed
      outcome := some (.faulted fault) } := by
  simp only [fail, Console.flush_run h.not_failing]

lemma finish_run (index : Nat) (ins : Instruction) :
    e.finish index ins = { e with
      system.console := e.system.console.flushed
      log := e.log.push (.halted index)
      outcome := some .halted } := by
  simp only [finish, note, Console.flush_run h.not_failing]

lemma fail_behind (fault : Fault) : (e.behind past).fail fault = (e.fail fault).behind past := by
  have image : (e.behind past).system.console.Open := h.behind past
  rw [fail_run image, fail_run h]
  simp only [behind, System.behind, Console.flushed_behind]

lemma finish_behind (index : Nat) (ins : Instruction) :
    (e.behind past).finish index ins = (e.finish index ins).behind past := by
  have image : (e.behind past).system.console.Open := h.behind past
  rw [finish_run image, finish_run h]
  simp only [behind, System.behind, Console.flushed_behind]

end End

lemma follow_behind (past : Past) (index : Nat) (flow : Flow) :
    (e.behind past).follow index flow = (e.follow index flow).behind past := by
  simp only [follow]
  cases flow <;> rfl

/-- **One step is one step of the untraced run**, seen behind the same past and what is shown. -/
theorem step_behind (h : e.system.console.Open) :
    e.step program = (e.untraced.step program).behind (e.system.past.wrote (e.shown program)) := by
  have core := System.open_untraced e.system
  cases before : e.outcome with
  | some outcome =>
      have ended : e.outcome ≠ none := by simp [before]
      have hshown : e.shown program = "" := by simp only [shown, before]
      rw [step_of_ended ended, step_of_ended (e := e.untraced) ended, hshown, Past.wrote_empty,
        untraced_behind h]
  | none =>
      cases fetched : e.fetch? program with
      | none =>
          have hshown : e.shown program = "" := by simp only [shown, before, fetched]
          rw [step_of_end before fetched, step_of_end (e := e.untraced) before fetched, hshown,
            Past.wrote_empty, ← fail_behind _ core, untraced_behind h]
          rfl
      | some ins =>
          have hshown : e.shown program = ins.shown e.system.machine := by
            simp only [shown, before, fetched]
          have hrun := ins.perform_run program h
          rw [← hshown] at hrun
          have hopen := ins.work_open program core
          -- The instruction ends alike on both sides, and so does what the step makes of its end.
          cases ins.work_mirrors (e.system.past.wrote (e.shown program)) program core with
          | @of_error error t run image =>
              rw [step_of_error before fetched (hrun.trans image),
                step_of_error (e := e.untraced) before fetched run]
              exact fail_behind (e := { e with system := t }) _ (hopen.error run) _
          | @of_ok flow t run image holds =>
              by_cases halts : flow = .halt
              · subst halts
                rw [step_of_halt before fetched (hrun.trans image),
                  step_of_halt (e := e.untraced) before fetched run]
                exact finish_behind (e := { e with system := t }) _ holds _ ins
              · rw [step_of_flow before fetched (hrun.trans image) halts,
                  step_of_flow (e := e.untraced) before fetched run halts]
                exact follow_behind (e := { e with system := t }) _ _ flow

lemma open_step (h : e.system.console.Open) : (e.step program).system.console.Open := by
  cases before : e.outcome with
  | some outcome =>
      rw [step_of_ended (by simp [before])]
      exact h
  | none =>
      cases fetched : e.fetch? program with
      | none =>
          rw [step_of_end before fetched, fail_run h]
          exact h.flushed
      | some ins =>
          have steady := ins.perform_steady program e.system
          cases performed : ins.perform program e.system with
          | error error t =>
              have ht := h.of_limits (steady.error performed)
              rw [step_of_error before fetched performed, fail_run (e := { e with system := t }) ht]
              exact ht.flushed
          | ok flow t =>
              have ht := h.of_limits (steady.ok performed)
              by_cases halts : flow = .halt
              · subst halts
                rw [step_of_halt before fetched performed,
                  finish_run (e := { e with system := t }) ht]
                exact ht.flushed
              · rw [step_of_flow before fetched performed halts, follow]
                cases flow <;> exact ht

lemma open_run (h : e.system.console.Open) (count : Nat) :
    (run program count e).system.console.Open :=
  run_induction (P := fun e => e.system.console.Open) h (fun _ => open_step) count

/-! ## Runs -/

/-- What the untraced run writes in the next step. -/
def chunk (program : Program) (e : Execution) : List UInt8 :=
  (e.untraced.step program).system.console.output.toList

section Step

variable (h : e.system.console.Open)
include h

lemma untraced_step : (e.step program).untraced = (e.untraced.step program).untraced := by
  rw [step_behind h]
  rfl

lemma trace_step : (e.step program).system.machine.trace =
    (e.system.machine.trace ^^ (e.untraced.step program).system.machine.trace) := by
  rw [step_behind h]
  rfl

lemma output_step : (e.step program).system.console.output.toList =
    e.system.console.output.toList ++
      ((e.shown program).toUTF8.toList ++ e.chunk program) := by
  rw [step_behind h]
  show ((e.system.console.output ++ (e.shown program).toUTF8) ++
    (e.untraced.step program).system.console.output).toList = _
  simp only [chunk, toList_eq_data, ByteArray.toList_data_append, List.append_assoc]

lemma output_run (count : Nat) : (run program count e).system.console.output.toList =
    e.system.console.output.toList ++ (List.range count).flatMap fun i =>
      ((run program i e).shown program).toUTF8.toList ++ (run program i e).chunk program := by
  induction count with
  | zero => simp [run]
  | succ count ih =>
      rw [run_succ, output_step (open_run h count), ih, List.range_succ, List.flatMap_append,
        List.flatMap_singleton, List.append_assoc]

end Step

/-- Runs with the same untraced run keep it, and their flags differ as they did. -/
lemma untraced_run {e' : Execution} (h : e.system.console.Open) (h' : e'.system.console.Open)
    (same : e.untraced = e'.untraced) (count : Nat) :
    (run program count e).untraced = (run program count e').untraced ∧
      ((run program count e).system.machine.trace ^^ (run program count e').system.machine.trace) =
        (e.system.machine.trace ^^ e'.system.machine.trace) := by
  induction count with
  | zero => exact ⟨same, rfl⟩
  | succ count ih =>
      obtain ⟨ihsame, ihtrace⟩ := ih
      rw [run_succ, run_succ]
      have hopen : (run program count e).system.console.Open := open_run h count
      have hopen' : (run program count e').system.console.Open := open_run h' count
      refine ⟨by rw [untraced_step hopen, untraced_step hopen', ihsame], ?_⟩
      -- Both flags are switched in the same steps.
      rw [trace_step hopen, trace_step hopen', ihsame, ← ihtrace]
      cases (run program count e).system.machine.trace <;>
        cases (run program count e').system.machine.trace <;> simp

/-- What is seen of a run besides its trace flag and its output is seen of its untraced run. -/
lemma same_of_untraced {e' : Execution} (same : e.untraced = e'.untraced) :
    e.system.machine.registers = e'.system.machine.registers ∧
      e.system.machine.memory = e'.system.machine.memory ∧
      e.system.machine.returns = e'.system.machine.returns ∧
      e.system.console.input = e'.system.console.input ∧ e.outcome = e'.outcome := by
  simp only [untraced, System.untraced, Console.ofInput, Execution.mk.injEq, System.mk.injEq,
    Machine.mk.injEq, Console.mk.injEq] at same
  obtain ⟨⟨⟨registers, memory, returns, -⟩, input, -⟩, -, outcome⟩ := same
  exact ⟨registers, memory, returns, input, outcome⟩

/-- A run before its first instruction, on a machine with the trace on or off. -/
def ready (program : Program) (m : Machine) (input : List UInt8) (trace : Bool) : Execution :=
  start program { m with trace } (Console.ofInput input)

/-- A run on a machine with the trace on or off. -/
def traced (program : Program) (m : Machine) (input : List UInt8) (trace : Bool) (count : Nat) :
    Execution :=
  run program count (ready program m input trace)

lemma open_ready (program : Program) (m : Machine) (input : List UInt8) (trace : Bool) :
    (ready program m input trace).system.console.Open :=
  ⟨rfl, rfl⟩

lemma traced_untraced (program : Program) (m : Machine) (input : List UInt8)
    (trace trace' : Bool) (count : Nat) :
    let e := traced program m input trace count
    let e' := traced program m input trace' count
    e.untraced = e'.untraced ∧
      (e.system.machine.trace ^^ e'.system.machine.trace) = (trace ^^ trace') :=
  untraced_run (open_ready program m input trace) (open_ready program m input trace') rfl count

/-- **Tracing is transparent.**  Two runs of a program on the same machine and input, with the trace
on or off in either, have the same registers, memory, return points and input left after every
number of steps, and the same end or none.  Their flags differ as they did at the start, whatever
the program switches.  And each output is made of the same chunks, one for each step, with a trace
line in front of a chunk where the own flag of the run was on when the step began. -/
theorem trace_transparent (program : Program) (m : Machine) (input : List UInt8) :
    ∃ chunk : Nat → List UInt8, ∀ (trace trace' : Bool) (count : Nat),
      let e := traced program m input trace count
      let e' := traced program m input trace' count
      e.system.machine.registers = e'.system.machine.registers ∧
      e.system.machine.memory = e'.system.machine.memory ∧
      e.system.machine.returns = e'.system.machine.returns ∧
      e.system.console.input = e'.system.console.input ∧
      e.outcome = e'.outcome ∧
      (e.system.machine.trace ^^ e'.system.machine.trace) = (trace ^^ trace') ∧
      e.system.console.output.toList = (List.range count).flatMap fun i =>
        ((traced program m input trace i).shown program).toUTF8.toList ++ chunk i := by
  refine ⟨fun i => (traced program m input false i).chunk program, fun trace trace' count => ?_⟩
  obtain ⟨same, flags⟩ := traced_untraced program m input trace trace' count
  obtain ⟨registers, memory, returns, input', outcome⟩ := same_of_untraced same
  refine ⟨registers, memory, returns, input', outcome, flags, ?_⟩
  have chunks : ∀ i, (traced program m input trace i).chunk program =
      (traced program m input false i).chunk program := by
    intro i
    rw [chunk, chunk, (traced_untraced program m input trace false i).1]
  have nothing : (ready program m input trace).system.console.output.toList = [] :=
    toList_eq_data ByteArray.empty
  have houtput : (traced program m input trace count).system.console.output.toList = _ :=
    output_run (open_ready program m input trace) count
  rw [nothing, List.nil_append] at houtput
  refine houtput.trans (congrArg (List.flatMap · _) (funext fun i => ?_))
  exact congrArg (_ ++ ·) (chunks i)

end Execution

end StackMachine

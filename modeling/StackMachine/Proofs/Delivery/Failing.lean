import StackMachine.Proofs.Delivery.Loss

/-!
# Flushes that fail

A flush that fails does not mask a fault and loses nothing of the machine.  A run at a console where
some flushes fail is the run at a reliable console up to the first of them, and ends there as its
step says.  The log tells of the loss if the failing flush is the one after a fault, and only then.

* `Execution.Faults`, `Execution.outputLost_mem_log_step` — when the loss is logged.
* `Execution.run_unreliable` — a run without a failing flush.
* `run_of_failing_flushes` — the two runs.
-/

namespace StackMachine

namespace Execution

variable {program : Program} {e : Execution} {failing : List Nat}

/-! ## The loss in the log -/

/-- The next step ends the run with a fault, though it does not come to a halt. -/
structure Faults (program : Program) (e : Execution) : Prop where
  running : e.outcome = none
  faulted : ∃ fault, (e.step program).outcome = some (.faulted fault)
  reached : e.reached? program ≠ some .halt

lemma outputLost_mem_log_fail {x : Execution} (fault : Fault) :
    .outputLost ∈ (x.fail fault).log ↔
      .outputLost ∈ x.log ∨ x.made ∈ x.system.console.failingFlushes := by
  rw [log_fail]
  split
  next fails => simp [fails]
  next goes => simp [goes]

lemma outputLost_mem_log_follow {x : Execution} (index : Nat) (flow : Flow) :
    .outputLost ∈ (x.follow index flow).log ↔ .outputLost ∈ x.log := by
  cases flow <;> simp [follow, goTo, Flow.event?, note]

/-- A halt that is reached does not fail before its flush. -/
lemma performed_of_reached (reached : e.reached? program = some .halt) :
    ∃ t, Instruction.halt.perform program e.system = .ok .halt t := by
  obtain ⟨-, -, t, shown⟩ := exists_of_reached reached
  exact ⟨t, bind_ok shown⟩

/-- A step that faults in the state `x` logs the loss if its last flush fails. -/
lemma outputLost_mem_log_of_fail {x : Execution} {fault : Fault}
    (run : e.step program = x.fail fault) (log : x.log = e.log)
    (failing : x.system.console.failingFlushes = e.system.console.failingFlushes)
    (faults : e.Faults program) :
    .outputLost ∈ (e.step program).log ↔ .outputLost ∈ e.log ∨
      (e.Faults program ∧ (e.step program).made - 1 ∈ e.system.console.failingFlushes) := by
  have number : (e.step program).made - 1 = x.made := by
    rw [made, run, console_fail]
    simp [Console.flushed, made]
  rw [number, run, outputLost_mem_log_fail, log, failing]
  simp [faults]

/-- **The loss is logged by a step that faults and whose last flush fails.** -/
lemma outputLost_mem_log_step (program : Program) (e : Execution) :
    .outputLost ∈ (e.step program).log ↔ .outputLost ∈ e.log ∨
      (e.Faults program ∧ (e.step program).made - 1 ∈ e.system.console.failingFlushes) := by
  by_cases before : e.outcome = none
  · cases fetched : e.fetch? program with
    | none =>
        have run := step_of_end before fetched
        refine outputLost_mem_log_of_fail run rfl rfl ⟨before, ⟨_, by rw [run, outcome_fail]⟩, ?_⟩
        simp [reached?_of_end fetched]
    | some ins =>
        cases performed : ins.perform program e.system with
        | error error t =>
            have run := step_of_error before fetched performed
            refine outputLost_mem_log_of_fail run rfl ?_
              ⟨before, ⟨_, by rw [run, outcome_fail]⟩, ?_⟩
            · exact congrArg Prod.snd ((ins.perform_steady program e.system).error performed)
            · intro reached
              obtain ⟨-, fetched', -⟩ := exists_of_reached reached
              obtain rfl := Option.some.inj (fetched'.symm.trans fetched)
              obtain ⟨u, halted⟩ := performed_of_reached reached
              exact nomatch performed.symm.trans halted
        | ok flow t =>
            by_cases halts : flow = .halt
            · subst halts
              have quiet : ¬ e.Faults program := fun faults =>
                faults.reached (reached?_of_halt before fetched performed)
              rw [step_of_halt before fetched performed]
              simp [quiet, log_finish]
            · have run := step_of_flow before fetched performed halts
              have quiet : ¬ e.Faults program := by
                intro faults
                obtain ⟨fault, after⟩ := faults.faulted
                rw [run, outcome_follow, before] at after
                exact nomatch after
              rw [run, outputLost_mem_log_follow]
              simp [quiet]
  · have quiet : ¬ e.Faults program := fun faults => before faults.running
    rw [step_of_ended before]
    simp [quiet]

/-! ## Runs -/

/-- **A run at which no flush fails** is the run at a reliable console. -/
theorem run_unreliable (reliable : e.system.console.failingFlushes = []) {count : Nat}
    (goes : ∀ number, e.made ≤ number → number < (run program count e).made →
      number ∉ failing) :
    run program count (e.unreliable failing) = (run program count e).unreliable failing := by
  induction count with
  | zero => rfl
  | succ count ih =>
      have grows := made_le_of_run (Nat.le_succ count) program e
      have limits : (run program count e).system.console.failingFlushes = [] :=
        (failing_of_run program e count).trans reliable
      have before := ih fun number first last => goes number first (Nat.lt_of_lt_of_le last grows)
      rw [run_succ, run_succ, before]
      rw [run_succ] at goes
      cases step_unreliable program limits with
      | same _ same => exact same
      | loss number first _ =>
          have start := made_le_of_run (Nat.zero_le count) program e
          exact absurd first.fails
            (goes number (Nat.le_trans start first.start_le) first.lt_stop)

lemma outputLost_mem_log_run {count : Nat} (before : .outputLost ∉ e.log) :
    .outputLost ∈ (run program count e).log ↔ ∃ last < count,
      (run program last e).Faults program ∧
        (run program (last + 1) e).made - 1 ∈ e.system.console.failingFlushes := by
  induction count with
  | zero => simpa [run] using before
  | succ count ih =>
      rw [run_succ, outputLost_mem_log_step, failing_of_run, ih, ← run_succ]
      constructor
      · rintro (⟨last, hlast, lost⟩ | lost)
        · exact ⟨last, Nat.lt_succ_of_lt hlast, lost⟩
        · exact ⟨count, Nat.lt_succ_self count, lost⟩
      · rintro ⟨last, hlast, lost⟩
        rcases Nat.lt_succ_iff_lt_or_eq.mp hlast with h | rfl
        · exact Or.inl ⟨last, h, lost⟩
        · exact Or.inr lost

end Execution

/-- **Flushes that fail mask no fault and lose nothing of the machine.**  A program is run on a
machine at a console where all flushes are good, and the same run is made at a console where some
fail.

The two are the same as long as no flush that is made fails.  The first one that does ends the run,
in the way that `Execution.Loss` says: a read faults and leaves the machine and the input as they
were, a halt faults with everything else as without the failure, and a fault stays as it is.  The
loss of output is logged exactly where the last flush of a run that faults fails, unless the fault
is that of a halt. -/
theorem run_of_failing_flushes (program : Program) (m : Machine) (input : List UInt8)
    (capacity : Option Nat) (failing : List Nat) :
    let console := { Console.ofInput input with capacity }
    let full := fun i => Execution.run program i (Execution.start program m console)
    let run := fun i =>
      Execution.run program i (Execution.start program m (console.unreliable failing))
    (∀ count, (∀ number < (full count).made, number ∉ failing) →
      run count = (full count).unreliable failing) ∧
    (∀ count, ∀ number < (full count).made, number ∈ failing →
      (∀ earlier < number, earlier ∉ failing) →
        ∃ last < count, (full last).made ≤ number ∧ number < (full (last + 1)).made ∧
          (∀ i ≤ last, run i = (full i).unreliable failing) ∧
          Execution.Loss program failing number (full last) (run (last + 1)) ∧
          ∀ i > last, run i = run (last + 1)) ∧
    ∀ count, .outputLost ∈ (run count).log ↔
      ∃ last < count, (run last).Faults program ∧ (run (last + 1)).made - 1 ∈ failing := by
  intro console full run
  have same : ∀ count, (∀ number < (full count).made, number ∉ failing) →
      run count = (full count).unreliable failing := by
    intro count goes
    exact Execution.run_unreliable (e := Execution.start program m console) rfl
      fun number _ last => goes number last
  refine ⟨same, ?_, ?_⟩
  · intro count number hnumber fails first
    obtain ⟨last, hlast, start, stop⟩ := Execution.exists_step_of_flush
      (e := Execution.start program m console) (Nat.zero_le number) hnumber
    have before : ∀ i ≤ last, run i = (full i).unreliable failing := by
      intro i hi
      refine same i ?_
      intro earlier hearlier
      refine first earlier ?_
      exact Nat.lt_of_lt_of_le hearlier
        (Nat.le_trans (Execution.made_le_of_run hi program _) start)
    have next : run (last + 1) = ((full last).unreliable failing).step program := by
      rw [← before last (Nat.le_refl last)]
      exact Execution.run_succ last _
    have reliable : (full last).system.console.failingFlushes = [] :=
      Execution.failing_of_run program _ last
    have loss : Execution.Loss program failing number (full last) (run (last + 1)) := by
      have inside := stop
      rw [Execution.run_succ] at inside
      rw [next]
      exact (Execution.step_unreliable program reliable).loss_of_first
        ⟨start, inside, fails, fun other _ hother => first other hother⟩
    refine ⟨last, hlast, start, stop, before, loss, ?_⟩
    intro i hi
    have stays : Execution.run program (i - (last + 1)) (run (last + 1)) = run (last + 1) :=
      Execution.run_of_ended loss.ended _
    rwa [← Execution.run_add, Nat.add_sub_cancel' hi] at stays
  · intro count
    exact Execution.outputLost_mem_log_run (by simp [Execution.start])

/-- A read whose flush fails leaves its line on the input, and there is one flush more. -/
example :
    let program : Program := ⟨#[.system .readNumber, .halt], ∅⟩
    let e := Execution.run program 1
      (Execution.start program Machine.initial ((Console.ofInput [0x37, 0x0a]).unreliable [0]))
    e.outcome = some (.faulted ⟨0, "SOS INPUT", .outputClosed⟩) ∧
      e.system.console.input = [0x37, 0x0a] ∧ e.system.console.flushes = #[0, 0] := by
  decide +kernel

end StackMachine

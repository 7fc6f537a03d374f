import StackMachine.Proofs.Padding.Basic

/-!
# The run of a padded program

The padded program runs beside the other one.  When it comes to the idle instruction it makes a step
that the other one does not make, and then they go on together, from places that face each other, to
the same end.

* `Outcome.Agrees`, `Execution.EndsAlike` — ends that differ in places only.
* `Execution.Beside` — a run beside the run of the other program.
* `Execution.Beside.step` — both runs make a step, after one over the idle instruction if need be.
* `Execution.Beside.run`, `Execution.Beside.ends` — whole runs.
-/

namespace StackMachine

/-- **Two outcomes that differ in places only**: where an instruction failed, and where the end of
the program was reached. -/
inductive Outcome.Agrees : Outcome → Outcome → Prop where
  | halted : Agrees .halted .halted
  | faulted (i i' : Nat) (instruction : String) (error : MachineError) :
    Agrees (.faulted ⟨i, instruction, error⟩) (.faulted ⟨i', instruction, error⟩)
  | ranOff (i i' : Nat) :
    Agrees (.faulted ⟨i, Execution.endOfProgram, .invalidAddress i⟩)
      (.faulted ⟨i', Execution.endOfProgram, .invalidAddress i'⟩)

namespace Execution

/-- **Two runs end alike**: with outcomes that differ in places only, and in systems that differ in
the place of the next instruction only. -/
structure EndsAlike (e e' : Execution) : Prop where
  outcomes : ∃ outcome outcome', e.outcome = some outcome ∧ e'.outcome = some outcome' ∧
    outcome.Agrees outcome'
  systems : ∃ place, e'.system = { e.system with machine.registers.ip := place }

/-- **A run beside another one**, both of which go on from places that face each other. -/
structure Beside (spot : Nat) (e e' : Execution) : Prop where
  running : e.outcome = none
  running' : e'.outcome = none
  faces : Faces spot e.system.machine.registers.ip e'.system.machine.registers.ip
  same : e'.system =
    { e.system with machine.registers.ip := e'.system.machine.registers.ip }
  quiet : e.system.machine.trace = false
  bare : e.system.machine.returns = []

variable {spot : Nat} {padded plain : Program} {e e' : Execution}

lemma beside_fresh (spot : Nat) (padded plain : Program) (console : Console) :
    Beside spot (fresh plain false console) (fresh padded false console) where
  running := rfl
  running' := rfl
  faces := .before (Nat.zero_le spot)
  same := rfl
  quiet := rfl
  bare := rfl

/-! ## Ends -/

/-- Runs that fail in systems that differ in places only. -/
lemma endsAlike_of_fail {fault fault' : Fault} {place : Nat}
    (agrees : Outcome.Agrees (.faulted fault) (.faulted fault'))
    (systems : e'.system = { e.system with machine.registers.ip := place }) :
    EndsAlike (e.fail fault) (e'.fail fault') where
  outcomes := ⟨_, _, outcome_fail e fault, outcome_fail e' fault', agrees⟩
  systems := ⟨place, by rw [system_fail, system_fail, systems]⟩

/-- Runs that halt there.  The flush of either one fails or that of neither. -/
lemma endsAlike_of_finish {i i' place : Nat} {ins : Instruction}
    (systems : e'.system = { e.system with machine.registers.ip := place }) :
    EndsAlike (e.finish i ins) (e'.finish i' ins) where
  outcomes := by
    have consoles : e'.system.console = e.system.console := by rw [systems]
    by_cases failing : e.system.console.flushes.size ∈ e.system.console.failingFlushes
    · refine ⟨_, _, ?_, ?_, .faulted i i' ins.text .outputClosed⟩ <;>
        simp only [finish, note, consoles, Console.flush_run_of_failing failing]
    · refine ⟨_, _, ?_, ?_, .halted⟩ <;>
        simp only [finish, note, consoles, Console.flush_run failing]
  systems := ⟨place, by rw [system_finish, system_finish, systems]⟩

/-! ## Steps -/

/-- Without calls there is nothing to return to. -/
lemma bare_step (bare : e.system.machine.returns = [])
    (calls : ∀ frame, e.fetch? plain ≠ some (.call frame)) :
    (e.step plain).system.machine.returns = [] := by
  cases step_moves plain e with
  | ended before same => rw [same, bare]
  | settled before plain settled => rw [settled.returns, bare]
  | opened frame before fetched after opened => exact absurd fetched (calls frame)
  | orphaned frame before fetched after orphaned => exact absurd fetched (calls frame)
  | closed results point before fetched after resumed closed =>
      exact nomatch bare.symm.trans closed.returns
  | unclosed results point before fetched after unclosed =>
      exact nomatch bare.symm.trans unclosed.returns

namespace Beside

variable (h : padded.PaddedAt spot plain)

section Step

variable (beside : Beside spot e e')
include beside h

/-- The padded program passes the idle instruction, and the other one stays. -/
lemma pass (here : e'.system.machine.registers.ip = spot) :
    Beside spot e (e'.step padded) ∧ (e'.step padded).system.machine.registers.ip ≠ spot := by
  obtain ⟨ins, fetched, idle⟩ := h.idle
  have quiet : e'.system.machine.trace = false := by rw [beside.same, beside.quiet]
  have fetched : e'.fetch? padded = some ins := by rw [fetch?, here, fetched]
  have step := step_of_flow beside.running' fetched (idle.perform quiet padded) (by simp)
  have place : (e'.step padded).system.machine.registers.ip = spot + 1 := by
    rw [step, machine_follow, here]
    rfl
  refine ⟨⟨beside.running, ?_, ?_, ?_, beside.quiet, beside.bare⟩, by omega⟩
  · rw [step, outcome_follow, beside.running']
  · have faces := beside.faces
    rw [here] at faces
    rw [place]
    exact faces.pass
  · have system : (e'.step padded).system =
        { e'.system with machine.registers.ip := spot + 1 } := by
      rw [step, system_follow, here]
      rfl
    rw [place, system, beside.same]

omit h in
/-- An instruction that ends neither run sends them to places that face each other. -/
lemma go_on {ins : Instruction} {flow flow' : Flow} {t : System}
    (elsewhere : e'.system.machine.registers.ip ≠ spot)
    (fetched : e.fetch? plain = some ins) (fetched' : e'.fetch? padded = some ins)
    (plainly : ins.sensitive = false) (run : ins.perform plain e.system = .ok flow t)
    (run' : ins.perform padded e'.system =
      .ok flow' (t.placed e'.system.machine.registers.ip))
    (faces : flow.Faces spot flow') (quiet : t.machine.trace = false) (goes : flow ≠ .halt) :
    Beside spot (e.step plain) (e'.step padded) := by
  have goes' : flow' ≠ .halt := fun halts => goes (faces.halt_iff.mp halts)
  have step := step_of_flow beside.running fetched run goes
  have step' := step_of_flow beside.running' fetched' run' goes'
  have calls : ∀ frame, e.fetch? plain ≠ some (.call frame) := by
    rintro frame call
    obtain rfl := Option.some.inj (fetched.symm.trans call)
    exact absurd plainly (by simp [Instruction.sensitive])
  refine ⟨?_, ?_, ?_, ?_, ?_, bare_step beside.bare calls⟩
  · rw [step, outcome_follow, beside.running]
  · rw [step', outcome_follow, beside.running']
  · rw [step, step', machine_follow, machine_follow]
    exact faces.target goes beside.faces elsewhere
  · rw [step, step', system_follow, system_follow, System.placed_of_quiet quiet]
  · rw [step, machine_follow]
    exact quiet

/-- **Both programs make a step**, away from the idle instruction, and end alike if one of them
ends. -/
lemma step_together (elsewhere : e'.system.machine.registers.ip ≠ spot)
    (plainly : ∀ ins, e.fetch? plain = some ins → ins.sensitive = false) :
    Beside spot (e.step plain) (e'.step padded) ∨ EndsAlike (e.step plain) (e'.step padded) := by
  have fetch : e'.fetch? padded = e.fetch? plain := h.others beside.faces elsewhere
  cases fetched : e.fetch? plain with
  | none =>
      rw [step_of_end beside.running fetched,
        step_of_end beside.running' (fetch.trans fetched)]
      exact .inr (endsAlike_of_fail (.ranOff _ _) beside.same)
  | some ins =>
      have plainly := plainly ins fetched
      have fetched' := fetch.trans fetched
      -- The other run does the same from the same system at its own place.
      have here : e.system.placed e'.system.machine.registers.ip = e'.system :=
        (System.placed_of_quiet beside.quiet _).trans beside.same.symm
      have both := ins.perform_beside h e'.system.machine.registers.ip beside.quiet beside.bare
        plainly
      rw [here] at both
      rcases both with ⟨flow, flow', t, run, run', faces, quiet⟩ | ⟨error, t, run, run', quiet⟩
      · by_cases halts : flow = .halt
        · obtain rfl := halts
          obtain rfl := faces.halt_iff.mpr rfl
          rw [step_of_halt beside.running fetched run, step_of_halt beside.running' fetched' run']
          exact .inr (endsAlike_of_finish (System.placed_of_quiet quiet _))
        · exact .inl (beside.go_on elsewhere fetched fetched' plainly run run' faces quiet halts)
      · rw [step_of_error beside.running fetched run, step_of_error beside.running' fetched' run']
        exact .inr (endsAlike_of_fail (.faulted _ _ _ _) (System.placed_of_quiet quiet _))

end Step

section Run

variable (plainly : ∀ ins ∈ plain.instructions, ins.sensitive = false)
include h plainly

/-- **The other program makes a step**, and the padded one follows in one or two. -/
lemma step (beside : Beside spot e e') :
    ∃ count, 0 < count ∧ (Beside spot (e.step plain) (Execution.run padded count e') ∨
      EndsAlike (e.step plain) (Execution.run padded count e')) := by
  have plainly : ∀ ins, e.fetch? plain = some ins → ins.sensitive = false :=
    fun ins fetched => plainly ins (Array.mem_of_getElem? fetched)
  by_cases here : e'.system.machine.registers.ip = spot
  · obtain ⟨passed, elsewhere⟩ := beside.pass h here
    exact ⟨2, Nat.two_pos, passed.step_together h elsewhere plainly⟩
  · exact ⟨1, Nat.one_pos, beside.step_together h here plainly⟩

/-- **As long as the other program runs**, the padded one runs beside it. -/
lemma run (beside : Beside spot e e') {count : Nat}
    (running : (Execution.run plain count e).outcome = none) :
    ∃ count', count ≤ count' ∧
      Beside spot (Execution.run plain count e) (Execution.run padded count' e') := by
  induction count with
  | zero => exact ⟨0, Nat.le_refl 0, beside⟩
  | succ count ih =>
      rw [run_succ] at running ⊢
      obtain ⟨count', ahead, beside⟩ := ih (running_of_step running)
      obtain ⟨more, pos, after⟩ := beside.step h plainly
      rw [← run_add] at after
      rcases after with beside | alike
      · exact ⟨count' + more, by omega, beside⟩
      · obtain ⟨outcome, _, ended, -, -⟩ := alike.outcomes
        exact nomatch running.symm.trans ended

/-- **Both runs end alike**, or neither of them ends. -/
theorem ends (beside : Beside spot e e') :
    ((∀ count, (Execution.run plain count e).outcome = none) ∧
      ∀ count, (Execution.run padded count e').outcome = none) ∨
    ∃ count count', EndsAlike (Execution.run plain count e) (Execution.run padded count' e') := by
  by_cases forever : ∀ count, (Execution.run plain count e).outcome = none
  · refine .inl ⟨forever, fun count => ?_⟩
    obtain ⟨count', ahead, beside⟩ := beside.run h plainly (forever count)
    exact running_of_run ahead beside.running'
  · obtain ⟨count, ended⟩ := Classical.not_forall.mp forever
    obtain ⟨last, -, running, same⟩ := exists_last_step beside.running ended
    obtain ⟨count', -, beside⟩ := beside.run h plainly running
    obtain ⟨more, -, after⟩ := beside.step h plainly
    rw [← run_add, ← same] at after
    rcases after with beside | alike
    · exact absurd beside.running ended
    · exact .inr ⟨count, count' + more, alike⟩

end Run

end Beside

end Execution

end StackMachine

import StackMachine.Proofs.Output.Limited
import StackMachine.Proofs.Run

/-!
# A full output only truncates

A run whose output is limited goes on as it would without the limit, until an instruction writes a
byte that is not taken.  There it faults, with the beginning of the output written and with the
machine as it was before that instruction, but for a word that it may have taken to write it.

* `Execution.limited` — a run with a limit.
* `Execution.step_limited`, `Execution.run_limited` — steps that write no more than fits.
* `Execution.Closed` — a step that is cut short.
* `run_truncated` — a run with a limit and the same run without.
-/

namespace StackMachine

namespace Execution

variable {program : Program} {e : Execution} {capacity : Nat}

/-- The run with an output that takes only so many bytes. -/
def limited (capacity : Nat) (e : Execution) : Execution :=
  { e with system := e.system.limited capacity }

/-! ## Ends of a run -/

lemma fail_limited (fault : Fault) :
    (e.limited capacity).fail fault = (e.fail fault).limited capacity := by
  by_cases failing : e.system.console.flushes.size ∈ e.system.console.failingFlushes
  · have image := Console.flush_run_of_failing (c := e.system.console.limited capacity) failing
    simp only [fail, limited, System.limited, Console.flush_run_of_failing failing, image]
    rfl
  · have image := Console.flush_run (c := e.system.console.limited capacity) failing
    simp only [fail, limited, System.limited, Console.flush_run failing, image]
    rfl

lemma finish_limited (index : Nat) (ins : Instruction) :
    (e.limited capacity).finish index ins = (e.finish index ins).limited capacity := by
  by_cases failing : e.system.console.flushes.size ∈ e.system.console.failingFlushes
  · have image := Console.flush_run_of_failing (c := e.system.console.limited capacity) failing
    simp only [finish, note, limited, System.limited, Console.flush_run_of_failing failing, image]
    rfl
  · have image := Console.flush_run (c := e.system.console.limited capacity) failing
    simp only [finish, note, limited, System.limited, Console.flush_run failing, image]
    rfl

lemma follow_limited (index : Nat) (flow : Flow) :
    (e.limited capacity).follow index flow = (e.follow index flow).limited capacity := by
  simp only [follow]
  cases flow <;> rfl

/-! ## What is written stays -/

lemma flushed_grows (c : Console) : Console.Grows c c.flushed := Console.grows_of_same rfl rfl

lemma step_grows (program : Program) (e : Execution) :
    Console.Grows e.system.console (e.step program).system.console := by
  cases before : e.outcome with
  | some outcome =>
      rw [step_of_ended (by simp [before])]
      exact Console.grows_stable.refl _
  | none =>
      cases fetched : e.fetch? program with
      | none =>
          rw [step_of_end before fetched, console_fail]
          exact flushed_grows _
      | some ins =>
          exact step_console (fun c h => Console.grows_stable.trans h (flushed_grows c)) before
            fetched (ins.perform_keeps Console.grows_stable program e.system)

lemma run_grows {first last : Nat} (h : first ≤ last) (program : Program) (e : Execution) :
    Console.Grows (run program first e).system.console (run program last e).system.console := by
  induction h with
  | refl => exact Console.grows_stable.refl _
  | step _ ih =>
      rw [run_succ]
      exact Console.grows_stable.trans ih (step_grows program _)

/-! ## One step -/

/-- **A step of a limited run is cut short.**  It faults at its instruction because the output takes
no more, and its output holds the beginning of what the step without a limit has written. -/
structure Closed (program : Program) (capacity : Nat) (ins : Instruction) (e l : Execution) :
    Prop where
  before : e.outcome = none
  fetched : e.fetch? program = some ins
  after : l.outcome =
    some (.faulted ⟨e.system.machine.registers.ip, ins.text, .outputClosed⟩)
  cut : (e.step program).system.console.Cut capacity l.system.console
  taken : ins.Outputs ∧
    (e.system.console.output ++ (ins.shown e.system.machine).toUTF8).size ≤ capacity →
      l.system.machine = e.system.machine.popped
  whole : ¬ (ins.Outputs ∧
    (e.system.console.output ++ (ins.shown e.system.machine).toUTF8).size ≤ capacity) →
      l.system.machine = e.system.machine

/-- **A step of a limited run** is a step without a limit, if what it writes fits, and else it is
cut short. -/
theorem step_limited (program : Program) (within : e.system.console.Within capacity) :
    ((e.step program).system.console.Within capacity ∧
      (e.limited capacity).step program = (e.step program).limited capacity) ∨
    ∃ ins, Closed program capacity ins e ((e.limited capacity).step program) := by
  cases before : e.outcome with
  | some outcome =>
      rw [step_of_ended (by simp [before]), step_of_ended (e := e.limited capacity)
        (by simp [limited, before])]
      exact .inl ⟨within, rfl⟩
  | none =>
      cases fetched : e.fetch? program with
      | none =>
          rw [step_of_end before fetched, step_of_end (e := e.limited capacity) before fetched,
            console_fail, ← fail_limited]
          exact .inl ⟨⟨within.unlimited, within.fits⟩, rfl⟩
      | some ins =>
          cases ins.perform_truncates within program with
          | @of_error error t run image hwithin =>
              rw [step_of_error before fetched run,
                step_of_error (e := e.limited capacity) before fetched image, console_fail,
                ← fail_limited]
              exact .inl ⟨⟨hwithin.unlimited, hwithin.fits⟩, rfl⟩
          | @of_ok flow t run image hwithin =>
              by_cases halts : flow = .halt
              · subst halts
                rw [step_of_halt before fetched run,
                  step_of_halt (e := e.limited capacity) before fetched image, console_finish,
                  ← finish_limited]
                exact .inl ⟨⟨hwithin.unlimited, hwithin.fits⟩, rfl⟩
              · rw [step_of_flow before fetched run halts,
                  step_of_flow (e := e.limited capacity) before fetched image halts, console_follow,
                  ← follow_limited]
                exact .inl ⟨hwithin, rfl⟩
          | @of_closed u image left cut =>
              have hstep := step_of_error (e := e.limited capacity) before fetched image
              refine .inr ⟨ins, before, fetched, ?_, ?_, ?_, ?_⟩
              · rw [hstep, outcome_fail]
                rfl
              · rw [hstep, console_fail]
                refine step_console (P := fun c => c.Cut capacity u.console.flushed)
                  (fun c h => h.grows (flushed_grows c)) before fetched ?_
                exact cut.relax fun _ h => ⟨h.unlimited, h.excess, h.output⟩
              · rw [hstep, machine_fail]
                exact left.1
              · rw [hstep, machine_fail]
                exact left.2

/-! ## Runs -/

/-- **A limited run** is the run without a limit as long as what that writes fits. -/
theorem run_limited {count : Nat}
    (within : ∀ i ≤ count, (run program i e).system.console.Within capacity) :
    run program count (e.limited capacity) = (run program count e).limited capacity := by
  induction count with
  | zero => rfl
  | succ count ih =>
      have hnext := within (count + 1) (Nat.le_refl _)
      rw [run_succ] at hnext
      rw [run_succ, run_succ, ih fun i hi => within i (Nat.le_succ_of_le hi)]
      rcases step_limited program (within count (Nat.le_succ count)) with
        ⟨-, same⟩ | ⟨ins, closed⟩
      · exact same
      · exact absurd closed.cut.excess (Nat.not_lt.mpr hnext.fits)

/-- The output of a run that has written too much has grown too large in one of its steps. -/
lemma exists_last_within {count : Nat} (within : e.system.console.Within capacity)
    (excess : capacity < (run program count e).system.console.output.size) :
    ∃ last < count, (∀ i ≤ last, (run program i e).system.console.Within capacity) ∧
      capacity < (run program (last + 1) e).system.console.output.size := by
  induction count with
  | zero => exact absurd excess (Nat.not_lt.mpr within.fits)
  | succ count ih =>
      rcases Nat.lt_or_ge capacity (run program count e).system.console.output.size with
        before | fits
      · obtain ⟨last, hlast, h⟩ := ih before
        exact ⟨last, Nat.lt_succ_of_lt hlast, h⟩
      · refine ⟨count, Nat.lt_succ_self count, fun i hi => ?_, excess⟩
        obtain ⟨unlimited, -⟩ := run_grows (Nat.zero_le i) program e within.unlimited
        obtain ⟨-, more, hmore⟩ := run_grows hi program e unlimited
        refine ⟨unlimited, ?_⟩
        rw [hmore, ByteArray.size_append] at fits
        omega

/-- A run that was cut short has ended, and what it has written stays the beginning of what the run
without a limit writes. -/
lemma Closed.later {l : Execution} {ins : Instruction} {last : Nat}
    (h : Closed program capacity ins (run program last e) l) {count : Nat} (hlast : last < count) :
    run program (count - (last + 1)) l = l ∧
      l.system.console.output = (run program count e).system.console.output.extract 0 capacity := by
  refine ⟨run_of_ended (by simp [h.after]) _, ?_⟩
  have hcut := h.cut
  rw [← run_succ] at hcut
  exact (hcut.grows (run_grows hlast program e)).output

end Execution

/-- **A full output only truncates.**  A program is run on a machine with an output that takes
everything, and the same run is made with an output that takes only so many bytes.  When all that is
written fits, the two are the same.  Otherwise they are the same up to the instruction at which too
much was written for the first time.  There the limited run faults, since its output is closed, and
its output is the beginning of what the other run has written and of all that it writes later.  The
machine is as before that instruction but for the cell and the stack top of a word that was taken to
be written: the stack top is lower by one exactly if the instruction is one that writes a word from
the stack, and the line that shows it did still fit. -/
theorem run_truncated (program : Program) (m : Machine) (input : List UInt8) (failing : List Nat)
    (capacity : Nat) :
    let console := { Console.ofInput input with failingFlushes := failing }
    let full := fun i => Execution.run program i (Execution.start program m console)
    let cut := fun i =>
      Execution.run program i (Execution.start program m (console.limited capacity))
    let written := fun i => (full i).system.console.output
    ((∀ i, (written i).size ≤ capacity) → ∀ i, cut i = (full i).limited capacity) ∧
    ∀ count, capacity < (written count).size → ∃ last < count, ∃ ins : Instruction,
      (∀ i ≤ last, (written i).size ≤ capacity ∧ cut i = (full i).limited capacity) ∧
      capacity < (written (last + 1)).size ∧
      (full last).outcome = none ∧ (full last).fetch? program = some ins ∧
      (cut (last + 1)).outcome = some (.faulted
        ⟨(full last).system.machine.registers.ip, ins.text, .outputClosed⟩) ∧
      (∀ i > last, cut i = cut (last + 1) ∧
        (cut i).system.console.output = (written i).extract 0 capacity) ∧
      let before := (full last).system.machine
      let after := (cut (last + 1)).system.machine
      let own := ins.Outputs ∧
        (written last ++ (ins.shown before).toUTF8).size ≤ capacity
      after.registers.ip = before.registers.ip ∧
      after.registers.gbr = before.registers.gbr ∧
      after.registers.lbr = before.registers.lbr ∧
      after.returns = before.returns ∧ after.trace = before.trace ∧
      (own → after.registers.str = before.registers.str - 1) ∧
      (¬ own → after.registers.str = before.registers.str) := by
  intro console full cut written
  have start_within : (Execution.start program m console).system.console.Within capacity :=
    ⟨rfl, Nat.zero_le capacity⟩
  have within : ∀ i, (written i).size ≤ capacity → (full i).system.console.Within capacity :=
    fun i fits => ⟨(Execution.run_grows (Nat.zero_le i) program _ start_within.unlimited).1, fits⟩
  refine ⟨fun fits i => Execution.run_limited fun j _ => within j (fits j), ?_⟩
  intro count excess
  obtain ⟨last, hlast, fits, hexcess⟩ := Execution.exists_last_within start_within excess
  have same : ∀ i ≤ last, cut i = (full i).limited capacity := fun i hi =>
    Execution.run_limited fun j hj => fits j (Nat.le_trans hj hi)
  have hcut : cut (last + 1) = ((full last).limited capacity).step program := by
    rw [← same last (Nat.le_refl last)]
    exact Execution.run_succ last _
  rcases Execution.step_limited program (fits last (Nat.le_refl last)) with
    ⟨inside, -⟩ | ⟨ins, closed⟩
  · rw [← Execution.run_succ] at inside
    exact absurd hexcess (Nat.not_lt.mpr inside.fits)
  have closed : Execution.Closed program capacity ins (full last) (cut (last + 1)) := by
    rw [hcut]
    exact closed
  refine ⟨last, hlast, ins, fun i hi => ⟨(fits i hi).fits, same i hi⟩, hexcess, closed.before,
    closed.fetched, closed.after, ?_, ?_⟩
  · intro i hi
    obtain ⟨stays, output⟩ := closed.later hi
    have stopped : cut i = cut (last + 1) := by
      rw [← stays, ← Execution.run_add, Nat.add_sub_cancel' hi]
    rw [stopped]
    exact ⟨rfl, output⟩
  intro before after own
  by_cases h : own
  · have machine : after = before.popped := closed.taken h
    rw [machine]
    exact ⟨rfl, rfl, rfl, rfl, rfl, fun _ => rfl, fun hn => absurd h hn⟩
  · have machine : after = before := closed.whole h
    rw [machine]
    exact ⟨rfl, rfl, rfl, rfl, rfl, fun hn => absurd hn h, fun _ => rfl⟩

/-- The limit may lie inside a character. -/
example :
    let program : Program := ⟨#[.literal 233, .system .writeCharacter, .halt], ∅⟩
    let e := Execution.run program 2
      (Execution.start program Machine.initial ((Console.ofInput []).limited 1))
    e.outcome = some (.faulted ⟨1, "SOS OUTPUTC", .outputClosed⟩) ∧
      e.system.console.output = ⟨#[0xc3]⟩ ∧ e.system.machine.registers.str = -1 := by
  decide +kernel

end StackMachine

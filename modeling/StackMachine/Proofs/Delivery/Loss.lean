import StackMachine.Proofs.Delivery.Discipline

/-!
# A step at which a flush fails

A step at a console where some flushes fail is the step at a reliable console, unless one of its own
flushes fails.  Then it ends the run, in one of three ways: a read faults before it has done
anything, a halt faults where it stands, and a step that faults anyway faults in the same way, and
only the loss is logged.

* `Execution.unreliable` — a run at a console where some flushes fail.
* `Execution.Loss` — a step at which a flush fails.
* `Execution.Twin`, `Execution.step_unreliable` — one step with and without failing flushes.
-/

namespace StackMachine

/-- The console with some flushes that fail. -/
def Console.unreliable (failing : List Nat) (c : Console) : Console :=
  { c with failingFlushes := failing }

lemma Console.aside_unreliable (failing : List Nat) : Console.Aside (unreliable failing) where
  capacity _ := rfl
  output _ := rfl
  written _ _ := rfl

lemma Console.readLine_mirrors_unreliable {failing : List Nat} {c : Console}
    (reliable : c.failingFlushes = []) (goes : c.flushes.size ∉ failing) :
    Mirrors (unreliable failing) readLine readLine c (fun _ _ => True) := by
  have flushes : c.flushes.size ∉ c.failingFlushes := by simp [reliable]
  exact (readLine_mirrors_of_good flushes goes rfl rfl).forget

namespace Execution

variable {program : Program} {e : Execution} {ins : Instruction} {failing : List Nat}

/-- The run at a console where some flushes fail. -/
def unreliable (failing : List Nat) (e : Execution) : Execution :=
  { e with system := e.system.beside (Console.unreliable failing) }

/-! ## Ends of a run -/

section Ends

variable (reliable : e.system.console.failingFlushes = [])
include reliable

/-- Where the flush after a fault fails, the loss is logged. -/
lemma fail_unreliable (fault : Fault) :
    (e.unreliable failing).fail fault =
      if e.made ∈ failing then ((e.fail fault).unreliable failing).note .outputLost
      else (e.fail fault).unreliable failing := by
  have run := Console.flush_run (c := e.system.console) (by simp [reliable])
  split
  next fails =>
      have image := Console.flush_run_of_failing (c := e.system.console.unreliable failing) fails
      simp only [fail, unreliable, System.beside, run, image]
      rfl
  next goes =>
      have image := Console.flush_run (c := e.system.console.unreliable failing) goes
      simp only [fail, unreliable, System.beside, run, image]
      rfl

/-- Where the flush of a halt fails, the halt faults. -/
lemma finish_unreliable (index : Nat) :
    (e.unreliable failing).finish index ins =
      if e.made ∈ failing then
        { (e.finish index ins).unreliable failing with
          outcome := some (.faulted ⟨index, ins.text, .outputClosed⟩) }
      else (e.finish index ins).unreliable failing := by
  have run := Console.flush_run (c := e.system.console) (by simp [reliable])
  split
  next fails =>
      have image := Console.flush_run_of_failing (c := e.system.console.unreliable failing) fails
      simp only [finish, note, unreliable, System.beside, run, image]
      rfl
  next goes =>
      have image := Console.flush_run (c := e.system.console.unreliable failing) goes
      simp only [finish, note, unreliable, System.beside, run, image]
      rfl

lemma outcome_finish_of_reliable (index : Nat) :
    (e.finish index ins).outcome = some .halted := by
  have run := Console.flush_run (c := e.system.console) (by simp [reliable])
  simp only [finish, note, run]

end Ends

lemma follow_unreliable (index : Nat) (flow : Flow) :
    (e.unreliable failing).follow index flow = (e.follow index flow).unreliable failing := by
  simp only [follow]
  cases flow <;> rfl

/-- What is logged when a run ends with a fault. -/
lemma log_fail (e : Execution) (fault : Fault) :
    (e.fail fault).log =
      if e.made ∈ e.system.console.failingFlushes then e.log.push .outputLost else e.log := by
  split
  next fails => simp only [fail, Console.flush_run_of_failing fails, note]
  next goes => simp only [fail, Console.flush_run goes]

lemma log_finish (e : Execution) (index : Nat) (ins : Instruction) :
    (e.finish index ins).log = e.log.push (.halted index) := by
  simp only [finish]
  split <;> rfl

/-! ## One step -/

/-- **A step at which flush `number` fails**, from `e` to `l`.  The flush comes before a read, at a
halt, or after a fault. -/
inductive Loss (program : Program) (failing : List Nat) (number : Nat) (e l : Execution) :
    Prop where
  /-- The read faults and has done nothing.  The line that shows it may have been written, and is
  flushed once more; if that fails too, the loss is logged. -/
  | read (ins : Instruction) (reached : e.reached? program = some ins) (reads : ins.reads = true)
      (first : number = e.made)
      (after : l.outcome =
        some (.faulted ⟨e.system.machine.registers.ip, ins.text, .outputClosed⟩))
      (machine : l.system.machine = e.system.machine)
      (input : l.system.console.input = e.system.console.input)
      (output : l.system.console.output = (e.step program).system.console.output)
      (flushes : l.system.console.flushes =
        (e.system.console.flushes.push l.system.console.output.size).push
          l.system.console.output.size)
      (log : l.log = if number + 1 ∈ failing then e.log.push .outputLost else e.log)
  /-- The halt faults, and all else is as if it had not. -/
  | halt (reached : e.reached? program = some .halt)
      (without : (e.step program).outcome = some .halted)
      (last : number + 1 = (e.step program).made)
      (same : l = { (e.step program).unreliable failing with
        outcome := some (.faulted
          ⟨e.system.machine.registers.ip, Instruction.halt.text, .outputClosed⟩) })
  /-- The fault stays, and the loss is logged.  A read before the fault has been flushed well. -/
  | fault (fault : Fault) (without : (e.step program).outcome = some (.faulted fault))
      (behind : e.reads program = true → e.made < number)
      (last : number + 1 = (e.step program).made)
      (same : l = ((e.step program).unreliable failing).note .outputLost)

/-- **A read whose flush fails.** -/
lemma loss_of_read (reads : e.reads program = true) (fails : e.made ∈ failing)
    (reliable : e.system.console.failingFlushes = []) :
    Loss program failing e.made e ((e.unreliable failing).step program) := by
  obtain ⟨ins, t, before, fetched, hreads, shown, reached⟩ := exists_of_reads reads
  have quiet := (showTrace_quiet ins e.system).ok shown
  have limits : t.console.failingFlushes = [] := quiet.failing.trans reliable
  have image : showTrace ins (e.unreliable failing).system =
      .ok ⟨⟩ (t.beside (Console.unreliable failing)) := by
    cases showTrace_mirrors_beside (Console.aside_unreliable failing) ins e.system with
    | of_ok run image _ =>
        obtain rfl := (EStateM.Result.ok.inj (run.symm.trans shown)).2
        exact image
    | of_error run _ => exact nomatch run.symm.trans shown
  have failed := Instruction.perform_of_failing_read program hreads image
    (by rwa [show (t.beside (Console.unreliable failing)).console.flushes = _ from quiet.flushes])
  have step := step_of_error (e := e.unreliable failing) before fetched failed
  have without : (e.step program).system.console.output = t.console.output := by
    refine step_console (P := fun c => c.output = t.console.output) (fun _ h => h) before fetched ?_
    refine (Instruction.perform_of_read hreads shown (by simp [limits])).relax ?_
    intro u hu
    rw [hu]
    rfl
  refine Loss.read ins reached hreads rfl ?_ ?_ ?_ ?_ ?_ ?_
  · rw [step, outcome_fail]
    rfl
  · rw [step, machine_fail]
    show t.machine = e.system.machine
    exact (showTrace_ensures ins e.system).ok shown
  · rw [step, console_fail]
    exact quiet.input
  · rw [step, console_fail, without]
    rfl
  · rw [step, console_fail]
    exact congrArg (fun flushes => (flushes.push t.console.output.size).push t.console.output.size)
      quiet.flushes
  · have number : (t.beside (Console.unreliable failing)).console.flushed.flushes.size =
        e.made + 1 := by
      rw [made, ← quiet.flushes]
      exact Array.size_push _
    rw [step, log_fail, made, number]
    rfl

/-- **An instruction does the same where flushes fail**, unless it comes to a read whose flush
fails. -/
lemma perform_unreliable (program : Program) (reliable : e.system.console.failingFlushes = [])
    (before : e.outcome = none) (fetched : e.fetch? program = some ins)
    (goes : e.reads program = true → e.made ∉ failing) :
    Mirrors (System.beside (Console.unreliable failing)) (ins.perform program)
      (ins.perform program) e.system (fun _ _ => True) := by
  refine ins.perform_mirrors_aside (Console.aside_unreliable failing) program ?_
  intro reads t shown
  have quiet := (showTrace_quiet ins e.system).ok shown
  have limits : t.console.failingFlushes = [] := quiet.failing.trans reliable
  refine Console.readLine_mirrors_unreliable limits ?_
  rw [quiet.flushes]
  exact goes ((reads_of_shown before fetched shown).trans reads)

/-- The first flush that fails, of those with numbers from `start` on and below `stop`. -/
structure First (failing : List Nat) (start stop number : Nat) : Prop where
  start_le : start ≤ number
  lt_stop : number < stop
  fails : number ∈ failing
  earlier : ∀ other, start ≤ other → other < number → other ∉ failing

/-- **A step where flushes fail**, from the run `e` without failing flushes to `l`: the same step,
if no flush of it fails, and else a loss. -/
inductive Twin (program : Program) (failing : List Nat) (e l : Execution) : Prop where
  | same (goes : ∀ number, e.made ≤ number → number < (e.step program).made → number ∉ failing)
      (same : l = (e.step program).unreliable failing)
  | loss (number : Nat) (first : First failing e.made (e.step program).made number)
      (loss : Loss program failing number e l)

lemma First.unique {start stop number other : Nat} (h : First failing start stop number)
    (h' : First failing start stop other) : number = other := by
  rcases Nat.lt_trichotomy number other with hlt | same | hgt
  · exact absurd h.fails (h'.earlier number h.start_le hlt)
  · exact same
  · exact absurd h'.fails (h.earlier other h'.start_le hgt)

lemma Twin.loss_of_first {l : Execution} {number : Nat} (h : Twin program failing e l)
    (first : First failing e.made (e.step program).made number) :
    Loss program failing number e l := by
  cases h with
  | same goes _ => exact absurd first.fails (goes number first.start_le first.lt_stop)
  | loss other hother loss =>
      rw [First.unique first hother]
      exact loss

lemma Loss.ended {l : Execution} {number : Nat} (h : Loss program failing number e l) :
    l.outcome ≠ none := by
  cases h with
  | read _ _ _ _ after => simp [after]
  | halt _ _ _ same => simp [same]
  | fault _ without _ _ same => simp [same, note, unreliable, without]

/-- A step that ends the run, with one flush more than the state `x` in which it does. -/
lemma twin_of_end {x l : Execution} (goes : e.reads program = true → e.made ∉ failing)
    (before : e.outcome = none) (after : (e.step program).outcome ≠ none)
    (size : (e.step program).made = x.made + 1)
    (reliable : x.made ∉ failing → l = (e.step program).unreliable failing)
    (loss : x.made ∈ failing → Loss program failing x.made e l) : Twin program failing e l := by
  have count := made_of_end before after
  -- The only flush before the last one is that of a read.
  have early : ∀ number, e.made ≤ number → number < x.made → number ∉ failing := by
    intro number first last
    split at count
    next reads =>
        obtain rfl : number = e.made := by omega
        exact goes reads
    next => omega
  by_cases fails : x.made ∈ failing
  · exact Twin.loss x.made ⟨by omega, by omega, fails, early⟩ (loss fails)
  · refine Twin.same ?_ (reliable fails)
    intro number first last
    rcases Nat.lt_or_ge number x.made with h | h
    · exact early number first h
    · rwa [show number = x.made by omega]

/-- A step that faults otherwise than by a halt. -/
lemma twin_of_fail {x : Execution} {fault : Fault}
    (goes : e.reads program = true → e.made ∉ failing) (before : e.outcome = none)
    (reliable : x.system.console.failingFlushes = []) (run : e.step program = x.fail fault)
    (image : (e.unreliable failing).step program = (x.unreliable failing).fail fault) :
    Twin program failing e ((e.unreliable failing).step program) := by
  have size : (e.step program).made = x.made + 1 := by
    rw [made, run, console_fail]
    exact Array.size_push _
  refine twin_of_end goes before (by simp [run]) size ?_ ?_
  · intro h
    rw [image, fail_unreliable reliable, if_neg h, run]
  · intro h
    have ended : (e.step program).outcome ≠ none := by simp [run]
    have count := made_of_end before ended
    refine Loss.fault fault (by rw [run, outcome_fail]) ?_ size.symm ?_
    · intro reads
      rw [if_pos reads] at count
      omega
    · rw [image, fail_unreliable reliable, if_pos h, run]

/-- A step that halts. -/
lemma twin_of_finish {x : Execution} {index : Nat}
    (goes : e.reads program = true → e.made ∉ failing) (before : e.outcome = none)
    (reached : e.reached? program = some .halt) (place : e.system.machine.registers.ip = index)
    (reliable : x.system.console.failingFlushes = [])
    (run : e.step program = x.finish index .halt)
    (image : (e.unreliable failing).step program = (x.unreliable failing).finish index .halt) :
    Twin program failing e ((e.unreliable failing).step program) := by
  have halts : (e.step program).outcome = some .halted := by
    rw [run, outcome_finish_of_reliable reliable]
  have size : (e.step program).made = x.made + 1 := by
    rw [made, run, console_finish]
    exact Array.size_push _
  refine twin_of_end goes before (by simp [halts]) size ?_ ?_
  · intro h
    rw [image, finish_unreliable reliable, if_neg h, run]
  · intro h
    refine Loss.halt reached halts size.symm ?_
    rw [image, finish_unreliable reliable, if_pos h, run, place]

/-- A step that comes to carry out a halt has shown it, and nothing else is done. -/
lemma reached?_of_halt {t : System} (before : e.outcome = none)
    (fetched : e.fetch? program = some ins)
    (performed : ins.perform program e.system = .ok .halt t) :
    e.reached? program = some .halt := by
  obtain rfl := ((ins.perform_halts program e.system).ok performed).mp rfl
  cases shown : showTrace .halt e.system with
  | ok a u => exact reached?_of_shown before fetched shown
  | error error u => exact nomatch (bind_error shown).symm.trans performed

/-- **One step with and without failing flushes.** -/
theorem step_unreliable (program : Program) (reliable : e.system.console.failingFlushes = []) :
    Twin program failing e ((e.unreliable failing).step program) := by
  by_cases ended : e.outcome ≠ none
  · rw [step_of_ended (e := e.unreliable failing) ended]
    refine Twin.same ?_ (by rw [step_of_ended ended])
    intro number first last
    rw [step_of_ended ended] at last
    exact absurd first (Nat.not_le.mpr last)
  have before : e.outcome = none := Decidable.of_not_not ended
  by_cases fails : e.reads program = true ∧ e.made ∈ failing
  · obtain ⟨reads, fails⟩ := fails
    refine Twin.loss e.made ⟨Nat.le_refl _, made_of_reads reads, fails, ?_⟩
      (loss_of_read reads fails reliable)
    intro other first last
    exact absurd first (Nat.not_le.mpr last)
  have goes : e.reads program = true → e.made ∉ failing := fun reads h => fails ⟨reads, h⟩
  cases fetched : e.fetch? program with
  | none =>
      exact twin_of_fail goes before reliable (step_of_end before fetched)
        (step_of_end (e := e.unreliable failing) before fetched)
  | some ins =>
      have steady : Leaves (ins.perform program) e.system
          (fun t => t.console.failingFlushes = []) :=
        (ins.perform_steady program e.system).relax
          fun _ h => (congrArg Prod.snd h).trans reliable
      cases perform_unreliable program reliable before fetched goes with
      | @of_error error t run image =>
          exact twin_of_fail (x := { e with system := t }) goes before (steady.error run)
            (step_of_error before fetched run)
            (step_of_error (e := e.unreliable failing) before fetched image)
      | @of_ok flow t run image _ =>
          by_cases halts : flow = .halt
          · subst halts
            obtain rfl := ((ins.perform_halts program e.system).ok run).mp rfl
            exact twin_of_finish (x := { e with system := t }) goes before
              (reached?_of_halt before fetched run) rfl (steady.ok run)
              (step_of_halt before fetched run)
              (step_of_halt (e := e.unreliable failing) before fetched image)
          · have step := step_of_flow before fetched run halts
            refine Twin.same ?_ ?_
            · intro number first last
              have count := made_of_running before (by rw [step, outcome_follow, before])
              split at count
              next reads =>
                  obtain rfl : number = e.made := by omega
                  exact goes reads
              next => omega
            · rw [step, step_of_flow (e := e.unreliable failing) before fetched image halts,
                ← follow_unreliable]
              rfl

end Execution

end StackMachine

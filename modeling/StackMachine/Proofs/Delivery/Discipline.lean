import StackMachine.Proofs.Delivery.Reads

/-!
# When output is delivered

Output is delivered before every read and once at the end, and at no other time.  So a run that has
ended has flushed once more than it has read, its last flush has delivered everything that it wrote,
and whenever a line is taken off the input, nothing that was written before is still pending.

* `Console.Orderly` — flushes that deliver more and more of the output.
* `Execution.made` — the number of flushes.
* `Execution.Served` — what a step does at the console, short of the flush at the end of a run.
* `flushes_of_run` — the flushes of a run.
-/

namespace StackMachine

/-! ## Flushes in order -/

namespace Console

variable {c d : Console}

/-- **The flushes of a console are in order**: none delivers less than one before it, or more than
what was written.  What was written is within the limit, so that no write can cut it back. -/
structure Orderly (c : Console) : Prop where
  within : ∀ capacity, c.capacity = some capacity → c.output.size ≤ capacity
  ascending : c.flushes.toList.Pairwise (· ≤ ·)
  written : ∀ size ∈ c.flushes.toList, size ≤ c.output.size

lemma Orderly.flushed (h : c.Orderly) : c.flushed.Orderly where
  within := h.within
  ascending := by
    rw [Console.flushed, Array.toList_push, List.pairwise_append]
    refine ⟨h.ascending, List.pairwise_singleton _ _, ?_⟩
    intro size mem last hlast
    rw [List.mem_singleton.mp hlast]
    exact h.written size mem
  written := by
    intro size mem
    rw [Console.flushed, Array.toList_push, List.mem_append, List.mem_singleton] at mem
    rcases mem with mem | rfl
    · exact h.written size mem
    · exact Nat.le_refl _

/-- More output leaves the flushes in order, as long as it is within the limit. -/
lemma Orderly.grown (h : c.Orderly) {output : ByteArray} (more : c.output.size ≤ output.size)
    (within : ∀ capacity, c.capacity = some capacity → output.size ≤ capacity) :
    Orderly { c with output } where
  within := within
  ascending := h.ascending
  written size mem := Nat.le_trans (h.written size mem) more

lemma orderly_stable : Stable fun c d => c.Orderly → d.Orderly where
  refl _ h := h
  trans h h' hc := h' (h hc)
  write text c := by
    by_cases excess : ∃ capacity, c.capacity = some capacity ∧
        capacity < (c.output ++ text.toUTF8).size
    · obtain ⟨capacity, limit, excess⟩ := excess
      have taken : ((c.output ++ text.toUTF8).extract 0 capacity).size = capacity := by
        rw [ByteArray.size_extract]
        omega
      refine Ensures.of_error (write_run_of_excess text limit excess) fun h => h.grown ?_ ?_
      · rw [taken]
        exact h.within capacity limit
      · intro other hother
        obtain rfl := Option.some.inj (limit.symm.trans hother)
        exact Nat.le_of_eq taken
    · have fits : ∀ capacity, c.capacity = some capacity →
          (c.output ++ text.toUTF8).size ≤ capacity := by
        intro capacity limit
        exact Nat.not_lt.mp fun h => excess ⟨capacity, limit, h⟩
      refine Ensures.of_ok (write_run_of_fits text fits) fun h => h.grown ?_ fits
      rw [ByteArray.size_append]
      exact Nat.le_add_right _ _
  readLine c := by
    refine readLine_leaves Orderly.flushed ?_
    intro h
    exact ⟨h.flushed.within, h.flushed.ascending, h.flushed.written⟩

end Console

/-! ## Runs in order -/

namespace Execution

variable {program : Program} {e : Execution} {ins : Instruction}

lemma step_orderly (program : Program) (h : e.system.console.Orderly) :
    (e.step program).system.console.Orderly := by
  cases before : e.outcome with
  | some outcome => rwa [step_of_ended (by simp [before])]
  | none =>
      cases fetched : e.fetch? program with
      | none =>
          rw [step_of_end before fetched, console_fail]
          exact h.flushed
      | some ins =>
          refine step_console (fun _ => Console.Orderly.flushed) before fetched ?_
          exact (ins.perform_keeps Console.orderly_stable program e.system).relax
            fun _ keeps => keeps h

/-! ## One step -/

/-- How many flushes a run has made. -/
def made (e : Execution) : Nat := e.system.console.flushes.size

/-- **What a step does at the console**, short of the flush at the end of a run.  Without a read it
neither takes input nor flushes.  With a read it flushes once, and writes nothing more; the input is
taken behind that flush, and only if the flush has not failed. -/
structure Served (program : Program) (e : Execution) (c : Console) : Prop where
  quiet : e.reads program = false → e.system.console.Quiet c
  flushes : e.reads program = true →
    c.flushes = e.system.console.flushes.push c.output.size
  input : e.reads program = true →
    e.system.console.flushes.size ∈ e.system.console.failingFlushes →
      c.input = e.system.console.input

/-- A step without a read is quiet at the console. -/
lemma served_of_quiet {c : Console} (reads : e.reads program = false)
    (quiet : e.system.console.Quiet c) : Served program e c where
  quiet _ := quiet
  flushes h := nomatch reads.symm.trans h
  input h := nomatch reads.symm.trans h

lemma perform_served (program : Program) (before : e.outcome = none)
    (fetched : e.fetch? program = some ins) :
    Leaves (ins.perform program) e.system (fun t => Served program e t.console) := by
  cases reads : e.reads program with
  | false =>
      have quiet := ins.perform_quiet program e.system fun t shown =>
        (reads_of_shown before fetched shown).symm.trans reads
      exact quiet.relax fun _ h => served_of_quiet reads h
  | true =>
      obtain ⟨ins', t, -, fetched', hreads, shown, -⟩ := exists_of_reads reads
      obtain rfl := Option.some.inj (fetched.symm.trans fetched')
      have quiet := (showTrace_quiet ins e.system).ok shown
      have number : t.console.flushes.size ∈ t.console.failingFlushes ↔
          e.system.console.flushes.size ∈ e.system.console.failingFlushes := by
        rw [quiet.flushes, quiet.failing]
      by_cases failing : t.console.flushes.size ∈ t.console.failingFlushes
      · have failed := Instruction.perform_of_failing_read program hreads shown failing
        refine Ensures.of_error failed ⟨?_, ?_, ?_⟩
        · intro h
          exact nomatch reads.symm.trans h
        · intro _
          exact congrArg (fun flushes => flushes.push t.console.output.size) quiet.flushes
        · intro _ _
          exact quiet.input
      · have served : Served program e t.console.advanced := by
          refine ⟨?_, ?_, ?_⟩
          · intro h
            exact nomatch reads.symm.trans h
          · intro _
            exact congrArg (fun flushes => flushes.push t.console.output.size) quiet.flushes
          · intro _ h
            exact absurd (number.mpr h) failing
        refine (Instruction.perform_of_read hreads shown failing).relax ?_
        intro u advanced
        rw [advanced]
        exact served

/-- **What a step of a run that goes on does at the console.**  The flush at the end of the run
comes after everything else. -/
lemma step_served (program : Program) (before : e.outcome = none) :
    ∃ c, Served program e c ∧ (e.step program).system.console =
      if (e.step program).outcome = none then c else c.flushed := by
  cases fetched : e.fetch? program with
  | none =>
      refine ⟨e.system.console, served_of_quiet (reads_of_end fetched) ⟨rfl, rfl, rfl⟩, ?_⟩
      simp only [step_of_end before fetched, console_fail, outcome_fail, reduceCtorEq, if_false]
  | some ins => exact exists_console_of_step before fetched (perform_served program before fetched)

/-- A halt ends the run. -/
lemma ended_of_halt (before : e.outcome = none) (fetched : e.fetch? program = some .halt) :
    (e.step program).outcome ≠ none := by
  rcases step_ensures before fetched (Instruction.perform_halts program .halt e.system) with
    ⟨error, t, -, -, after⟩ | ⟨t, -, -, after⟩ | ⟨flow, t, goes, halts, -, -⟩
  · simp [after]
  · exact after
  · exact absurd (halts.mpr rfl) goes

/-- A step that does not end the run makes a flush if it reads. -/
lemma made_of_running (before : e.outcome = none) (after : (e.step program).outcome = none) :
    (e.step program).made = e.made + if e.reads program = true then 1 else 0 := by
  obtain ⟨c, served, same⟩ := step_served program before
  rw [made, same, if_pos after, made]
  cases reads : e.reads program with
  | false => simp [(served.quiet reads).flushes]
  | true => simp [served.flushes reads]

/-- A step that ends the run makes a flush more. -/
lemma made_of_end (before : e.outcome = none) (after : (e.step program).outcome ≠ none) :
    (e.step program).made = e.made + (if e.reads program = true then 1 else 0) + 1 := by
  obtain ⟨c, served, same⟩ := step_served program before
  rw [made, same, if_neg after, made]
  cases reads : e.reads program with
  | false => simp [Console.flushed, (served.quiet reads).flushes]
  | true => simp [Console.flushed, served.flushes reads]

/-- A read is a flush. -/
lemma made_of_reads (reads : e.reads program = true) : e.made < (e.step program).made := by
  obtain ⟨-, -, before, -⟩ := exists_of_reads reads
  by_cases after : (e.step program).outcome = none
  · rw [made_of_running before after, if_pos reads]
    exact Nat.lt_succ_self _
  · rw [made_of_end before after, if_pos reads]
    omega

/-- The flush at the end of a run comes after the last write. -/
lemma back_flushes_of_step (before : e.outcome = none) (after : (e.step program).outcome ≠ none) :
    (e.step program).system.console.flushes.back? =
      some (e.step program).system.console.output.size := by
  obtain ⟨c, -, same⟩ := step_served program before
  rw [same, if_neg after]
  exact Array.back?_push

/-- The flush of a read has delivered all that is written when the read is over. -/
lemma flush_of_read (reads : e.reads program = true) :
    (e.step program).system.console.flushes[e.system.console.flushes.size]? =
        some (e.step program).system.console.output.size ∧
      (e.system.console.flushes.size ∈ e.system.console.failingFlushes →
        (e.step program).system.console.input = e.system.console.input) := by
  obtain ⟨-, -, before, -⟩ := exists_of_reads reads
  obtain ⟨c, served, same⟩ := step_served program before
  have asked : c.flushes[e.system.console.flushes.size]? = some c.output.size := by
    rw [served.flushes reads, Array.getElem?_push_size]
  rw [same]
  split
  next => exact ⟨asked, served.input reads⟩
  next =>
    -- The flush that ends the program comes after the one this read asks for.
    have inside : e.system.console.flushes.size ≠ c.flushes.size := by
      rw [served.flushes reads, Array.size_push]
      omega
    refine ⟨?_, served.input reads⟩
    rw [Console.flushed, Array.getElem?_push, if_neg inside]
    exact asked

/-- A step without a read takes no input. -/
lemma input_of_quiet (program : Program) (quiet : e.reads program = false) :
    (e.step program).system.console.input = e.system.console.input := by
  by_cases before : e.outcome = none
  · obtain ⟨c, served, same⟩ := step_served program before
    rw [same]
    split
    next => exact (served.quiet quiet).input
    next => exact (served.quiet quiet).input
  · rw [step_of_ended before]

lemma step_limits (program : Program) (e : Execution) :
    (e.step program).system.console.limits = e.system.console.limits := by
  cases before : e.outcome with
  | some outcome => rw [step_of_ended (by simp [before])]
  | none =>
      cases fetched : e.fetch? program with
      | none =>
          rw [step_of_end before fetched, console_fail]
          rfl
      | some ins =>
          exact step_console (P := fun c => c.limits = e.system.console.limits) (fun _ h => h)
            before fetched (ins.perform_steady program e.system)

/-! ## Runs -/

lemma made_le_of_step (program : Program) (e : Execution) : e.made ≤ (e.step program).made := by
  by_cases before : e.outcome = none
  · by_cases after : (e.step program).outcome = none
    · rw [made_of_running before after]
      omega
    · rw [made_of_end before after]
      omega
  · exact Nat.le_of_eq (by rw [step_of_ended before])

lemma made_le_of_run {first last : Nat} (h : first ≤ last) (program : Program) (e : Execution) :
    (run program first e).made ≤ (run program last e).made := by
  induction h with
  | refl => exact Nat.le_refl _
  | step _ ih =>
      rw [run_succ]
      exact Nat.le_trans ih (made_le_of_step program _)

lemma limits_of_run (program : Program) (e : Execution) (count : Nat) :
    (run program count e).system.console.limits = e.system.console.limits :=
  run_induction (P := fun l => l.system.console.limits = e.system.console.limits) rfl
    (fun l h => (step_limits program l).trans h) count

/-- The same flushes are set to fail all along a run. -/
lemma failing_of_run (program : Program) (e : Execution) (count : Nat) :
    (run program count e).system.console.failingFlushes = e.system.console.failingFlushes :=
  congrArg Prod.snd (limits_of_run program e count)

/-- Each flush of a run is made by one of its steps. -/
lemma exists_step_of_flush {count number : Nat} (first : e.made ≤ number)
    (h : number < (run program count e).made) :
    ∃ last < count, (run program last e).made ≤ number ∧
      number < (run program (last + 1) e).made := by
  induction count with
  | zero => exact absurd first (Nat.not_le.mpr h)
  | succ count ih =>
      rcases Nat.lt_or_ge number (run program count e).made with before | here
      · obtain ⟨last, hlast, hmade⟩ := ih before
        exact ⟨last, Nat.lt_succ_of_lt hlast, hmade⟩
      · exact ⟨count, Nat.lt_succ_self count, here, h⟩

/-- A run has flushed once for every read, and once more when it has ended. -/
lemma made_of_run (program : Program) (before : e.outcome = none) (count : Nat) :
    (run program count e).made =
      e.made + (List.range count).countP (fun i => (run program i e).reads program) +
        if (run program count e).outcome = none then 0 else 1 := by
  induction count with
  | zero => simp [run, before]
  | succ count ih =>
      rw [List.range_succ, List.countP_append, List.countP_singleton, run_succ]
      by_cases running : (run program count e).outcome = none
      · rw [if_pos running] at ih
        by_cases after : ((run program count e).step program).outcome = none
        · rw [made_of_running running after, ih, if_pos after]
          omega
        · rw [made_of_end running after, ih, if_neg after]
          omega
      · rw [step_of_ended running, ih, reads_of_ended running]
        simp

end Execution

/-- **When a run delivers its output.**  A program is run on a machine, at a console that may be
limited and at which flushes may fail.  After any number of steps there has been one flush for every
step that came to a read, and one more if the run has ended, however it did.  The flushes deliver
more and more of the output, and the last flush of a run that has ended delivers all of it.

A read begins with its flush, and writes nothing behind it.  It takes input only if the flush has
not failed, and no other step takes any.  So nothing that was written is pending when input is
taken.  A halt is one flush, whether that fails or not. -/
theorem flushes_of_run (program : Program) (m : Machine) (input : List UInt8)
    (capacity : Option Nat) (failing : List Nat) :
    let start := { Console.ofInput input with capacity, failingFlushes := failing }
    let run := fun i => Execution.run program i (Execution.start program m start)
    let console := fun i => (run i).system.console
    let reads := fun i => (run i).reads program
    ∀ count,
      ((console count).flushes.size =
        (List.range count).countP reads + if (run count).outcome = none then 0 else 1) ∧
      (console count).flushes.toList.Pairwise (· ≤ ·) ∧
      ((run count).outcome ≠ none →
        (console count).flushes.back? = some (console count).output.size) ∧
      (reads count = true →
        (console (count + 1)).flushes[(console count).flushes.size]? =
            some (console (count + 1)).output.size ∧
          ((console count).flushes.size ∈ failing →
            (console (count + 1)).input = (console count).input)) ∧
      (reads count = false → (console (count + 1)).input = (console count).input) ∧
      ((run count).outcome = none → (run count).fetch? program = some .halt →
        (run (count + 1)).outcome ≠ none ∧
          (console (count + 1)).flushes.size = (console count).flushes.size + 1) := by
  intro start run console reads count
  have next : run (count + 1) = (run count).step program := Execution.run_succ count _
  refine ⟨?_, ?_, ?_, ?_, ?_, ?_⟩
  · have size := Execution.made_of_run (e := Execution.start program m start) program rfl count
    rwa [show (Execution.start program m start).made = 0 from rfl, Nat.zero_add] at size
  · have orderly : (console count).Orderly :=
      Execution.run_induction (P := fun e => e.system.console.Orderly)
        ⟨fun _ _ => Nat.zero_le _, .nil, fun _ mem => absurd mem List.not_mem_nil⟩
        (fun _ => Execution.step_orderly program) count
    exact orderly.ascending
  · intro ended
    obtain ⟨last, -, running, same⟩ := Execution.exists_last_step rfl ended
    have same : run count = (run last).step program := same
    rw [same] at ended
    have back := Execution.back_flushes_of_step running ended
    rwa [← same] at back
  · intro hreads
    have limits : (console count).failingFlushes = failing :=
      Execution.failing_of_run program _ count
    have flush := Execution.flush_of_read hreads
    rw [limits, ← next] at flush
    exact flush
  · intro quiet
    have same := Execution.input_of_quiet program quiet
    rwa [← next] at same
  · intro running fetched
    have ended := Execution.ended_of_halt running fetched
    have size := Execution.made_of_end running ended
    have quiet : (run count).reads program = false := by
      cases hreads : (run count).reads program with
      | false => rfl
      | true =>
          obtain ⟨ins, -, -, fetched', reading, -⟩ := Execution.exists_of_reads hreads
          obtain rfl := Option.some.inj (fetched.symm.trans fetched')
          exact absurd reading (by decide)
    rw [quiet, if_neg Bool.false_ne_true, Nat.add_zero] at size
    rw [← next] at ended size
    exact ⟨ended, size⟩

end StackMachine

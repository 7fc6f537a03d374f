import StackMachine.Proofs.Cells
import StackMachine.Proofs.Frames.Balance
import StackMachine.Proofs.Loading.Labels

/-!
# Programs that only go forward

Nothing bounds the steps of a run as such.  A program without calls has no return points, so a
return in it faults, and if its jumps lead ahead as well then every step that does not end the run
comes to a later place of the program.  Such a run is over after one step more than there are
instructions.

* `Program.Forward` — programs without calls whose jumps all lead ahead.
* `Machine.execute_climbs`, `Execution.step_climbs` — one instruction, and one step.
* `Execution.ip_lt` — two steps of a run.
* `Machine.popMany_of_lt` — there is no point in dropping more words than there are.
* `Row.Forward`, `Program.forward_ofRows` — how to tell such a program by its source.
* `forward_runs_end` — their runs end, and carry out no instruction twice.
-/

namespace StackMachine

/-! ## Programs -/

/-- Whether an instruction calls a routine. -/
def Instruction.calls : Instruction → Bool
  | .call _ => true
  | _ => false

/-- The labels that an instruction can jump to. -/
def Instruction.jumps : Instruction → List String
  | .goto label => [label]
  | .branch yes no => [yes, no]
  | _ => []

/-- **A program that only goes forward** has no calls, and its jumps lead ahead as far as their
labels are bound. -/
structure Program.Forward (program : Program) : Prop where
  callless : ∀ (index : Nat) (ins : Instruction), program.instructions[index]? = some ins →
    ins.calls = false
  ahead : ∀ (index : Nat) (ins : Instruction), program.instructions[index]? = some ins →
    ∀ label ∈ ins.jumps, ∀ target, program.label label = .ok target → index < target

/-! ## One step -/

section Climbs

variable {program : Program} {ins : Instruction} {index : Nat} (callless : ins.calls = false)
  (ahead : ∀ label ∈ ins.jumps, ∀ target, program.label label = .ok target → index < target)
include callless ahead

/-- **An instruction leads on** unless it halts or fails.  A return fails, because there is nowhere
to return to. -/
lemma Machine.execute_climbs {m : Machine} (bare : m.returns = []) :
    Ensures (execute program ins) m (fun flow _ => flow ≠ .halt → index < flow.target index)
      (fun _ _ => True) := by
  have next : ∀ flow : Flow, flow = .next → flow ≠ .halt → index < flow.target index := by
    rintro flow rfl -
    exact Nat.lt_succ_self index
  have sends := execute_sends program ins m
  cases ins with
  | call frame => exact absurd callless (by simp [Instruction.calls])
  | ret results =>
      refine (leaveRoutine_ensures results m).mono ?_ fun _ _ _ => trivial
      rintro flow t ⟨point, -, closed⟩
      exact nomatch bare.symm.trans closed.returns
  | goto label =>
      refine Ensures.bind_check (fun _ _ => trivial) ?_
      intro target bound
      refine Ensures.pure ?_
      intro _
      exact ahead label (List.mem_singleton_self label) target bound
  | branch yes no =>
      refine Ensures.bind_check (fun _ _ => trivial) ?_
      intro first boundYes
      refine Ensures.bind_check (fun _ _ => trivial) ?_
      intro second boundNo
      refine Ensures.last ?_
      intro condition t
      refine Ensures.pure ?_
      intro _
      show index < if condition.toInt = 0 then second else first
      split
      · exact ahead no (List.mem_cons_of_mem yes (List.mem_singleton_self no)) second boundNo
      · exact ahead yes List.mem_cons_self first boundYes
  | halt => exact sends.mono (fun _ _ halts goes => absurd halts goes) fun _ _ _ => trivial
  | _ => exact sends.mono (fun flow _ => next flow) fun _ _ _ => trivial

lemma Instruction.perform_climbs {s : System} (bare : s.machine.returns = []) :
    Ensures (ins.perform program) s (fun flow _ => flow ≠ .halt → index < flow.target index)
      (fun _ _ => True) := by
  refine Ensures.bind (showTrace_ensures ins s) (fun _ _ _ => trivial) ?_
  intro _ t same
  rw [← same] at bare
  by_cases asks : ∃ service, ins = .system service
  · obtain ⟨service, rfl⟩ := asks
    refine Ensures.last ?_
    intro _ u
    refine Ensures.pure ?_
    intro _
    exact Nat.lt_succ_self index
  · rw [serve_eq_pure fun service hs => asks ⟨service, hs⟩, pure_bind]
    have climbs := Machine.execute_climbs callless ahead bare
    exact (Ensures.onMachine climbs).mono (fun _ _ h => h.1) fun _ _ _ => trivial

end Climbs

namespace Execution

/-- The place of the instruction that the next step carries out, if the run goes on and comes to
one. -/
def visits? (program : Program) (e : Execution) : Option Nat :=
  if e.outcome = none ∧ e.fetch? program ≠ none then some e.system.machine.registers.ip else none

lemma visits?_eq_some {program : Program} {e : Execution} {index : Nat}
    (h : e.visits? program = some index) :
    e.outcome = none ∧ e.system.machine.registers.ip = index := by
  rw [visits?, Option.ite_none_right_eq_some] at h
  exact ⟨h.1.1, Option.some.inj h.2⟩

section Forward

variable {program : Program} (forward : program.Forward)
include forward

/-- **A step that does not end the run comes to a later place**, from an instruction of the program,
and leaves no return point. -/
lemma step_climbs {e : Execution} (bare : e.system.machine.returns = [])
    (after : (e.step program).outcome = none) :
    e.system.machine.registers.ip < program.instructions.size ∧
      e.system.machine.registers.ip < (e.step program).system.machine.registers.ip ∧
      (e.step program).system.machine.returns = [] := by
  have before := running_of_step after
  cases fetched : e.fetch? program with
  | none =>
      rw [step_of_end before fetched, outcome_fail] at after
      exact nomatch after
  | some ins =>
      have callless := forward.callless _ ins fetched
      have inside : e.system.machine.registers.ip < program.instructions.size :=
        (Array.getElem?_eq_some_iff.mp fetched).1
      refine ⟨inside, ?_, ?_⟩
      · have climbs := ins.perform_climbs callless (forward.ahead _ ins fetched) bare
        rcases step_ensures before fetched climbs with
          ⟨_, _, -, -, ended⟩ | ⟨_, -, -, ended⟩ | ⟨flow, t, goes, higher, machine, -⟩
        · exact nomatch after.symm.trans ended
        · exact absurd after ended
        · rw [machine]
          exact higher goes
      · cases step_moves program e with
        | ended ended same => exact absurd before ended
        | settled before plain settled => exact settled.returns.trans bare
        | opened frame before fetched' after opened =>
            obtain rfl := Option.some.inj (fetched.symm.trans fetched')
            exact absurd callless (by simp [Instruction.calls])
        | orphaned frame before fetched' faulted orphaned =>
            exact nomatch after.symm.trans faulted
        | closed results point before fetched' after resumed closed =>
            exact nomatch bare.symm.trans closed.returns
        | unclosed results point before fetched' faulted unclosed =>
            exact nomatch after.symm.trans faulted

/-! ## Runs -/

variable {trace : Bool} {console : Console}

lemma returns_of_forward {count : Nat}
    (running : (run program count (fresh program trace console)).outcome = none) :
    (run program count (fresh program trace console)).system.machine.returns = [] := by
  induction count with
  | zero => rfl
  | succ count ih =>
      rw [run_succ] at running ⊢
      exact (step_climbs forward (ih (running_of_step running)) running).2.2

/-- **A run only goes forward**: of two of its steps the later one is at a later place. -/
lemma ip_lt {first last : Nat} (later : first < last)
    (running : (run program last (fresh program trace console)).outcome = none) :
    (run program first (fresh program trace console)).system.machine.registers.ip <
      (run program last (fresh program trace console)).system.machine.registers.ip := by
  induction later with
  | refl =>
      have bare := returns_of_forward forward (running_of_run (Nat.le_succ first) running)
      rw [run_succ] at running ⊢
      exact (step_climbs forward bare running).2.1
  | @step middle _ ih =>
      have before := running_of_run (Nat.le_succ middle) running
      refine Nat.lt_trans (ih before) ?_
      rw [run_succ] at running ⊢
      exact (step_climbs forward (returns_of_forward forward before) running).2.1

lemma le_ip {count : Nat}
    (running : (run program count (fresh program trace console)).outcome = none) :
    count ≤ (run program count (fresh program trace console)).system.machine.registers.ip := by
  induction count with
  | zero => exact Nat.zero_le _
  | succ count ih =>
      have before := ih (running_of_run (Nat.le_succ count) running)
      exact Nat.lt_of_le_of_lt before (ip_lt forward (Nat.lt_succ_self count) running)

/-- **A run that only goes forward ends** when it has seen every place of the program at the
latest. -/
lemma ended_of_forward :
    (run program (program.instructions.size + 1) (fresh program trace console)).outcome ≠ none := by
  intro running
  rw [run_succ] at running
  have before := running_of_step running
  have inside := (step_climbs forward (returns_of_forward forward before) running).1
  have passed := le_ip forward before
  omega

/-- The places that a run visits ascend. -/
lemma pairwise_visits (count : Nat) :
    ((List.range count).filterMap fun i =>
      (run program i (fresh program trace console)).visits? program).Pairwise (· < ·) := by
  rw [List.pairwise_filterMap]
  refine List.pairwise_lt_range.imp ?_
  intro first last later index visited index' visited'
  obtain ⟨-, rfl⟩ := visits?_eq_some visited
  obtain ⟨running, rfl⟩ := visits?_eq_some visited'
  exact ip_lt forward later running

end Forward

end Execution

/-! ## Dropping words -/

/-- **More pops than there are words change nothing**, for the first one that lacks its word
fails. -/
lemma Machine.popMany_of_lt {m : Machine} {enough count : Nat} (h : Grounded m)
    (short : m.registers.str + 1 < enough) (le : enough ≤ count) :
    popMany count m = popMany enough m := by
  induction enough generalizing m count with
  | zero =>
      have str := h.str
      omega
  | succ enough ih =>
      obtain ⟨count, rfl⟩ : ∃ less, count = less + 1 := ⟨count - 1, by omega⟩
      cases pop_takes h.gbr with
      | of_error run _ => exact (bind_error run).trans (bind_error run).symm
      | @of_ok w t run takes =>
          obtain ⟨-, rfl, filled⟩ := takes
          have top : m.popped.registers.str = m.registers.str + -1 := rfl
          have grounded : Grounded m.popped := ⟨h.gbr, h.lbr, by omega⟩
          have rest : popMany count m.popped = popMany enough m.popped :=
            ih grounded (by omega) (by omega)
          show (pop >>= fun _ => popMany count) m = (pop >>= fun _ => popMany enough) m
          rw [bind_ok run, bind_ok run, rest]

/-- A run that has made some steps drops no more words at once than that. -/
lemma Execution.popMany_of_run (program : Program) (trace : Bool) (console : Console)
    (count drops : Nat) :
    let m := (run program count (fresh program trace console)).system.machine
    Machine.popMany drops m = Machine.popMany (min drops (count + 1)) m := by
  intro m
  have grounded : m.Grounded := (run_sound program trace console count).grounded
  have low : m.registers.str < count := run_str_lt program trace console count
  rcases Nat.le_total drops (count + 1) with few | many
  · rw [Nat.min_eq_left few]
  · rw [Nat.min_eq_right many]
    exact Machine.popMany_of_lt grounded (by omega) many

/-! ## Sources -/

/-- **Rows whose jumps lead ahead.**  None of them is a call, and each label that one of them jumps
to and that some row bears is borne by a later row. -/
def Row.Forward (rows : List Row) : Prop :=
  ∀ k (inside : k < rows.length), rows[k].carries = true →
    (Instruction.decode rows[k].words).calls = false ∧
    ∀ label ∈ (Instruction.decode rows[k].words).jumps, label ∈ rows.map Row.label →
      label ∈ (rows.drop (k + 1)).map Row.label

instance (rows : List Row) : Decidable (Row.Forward rows) :=
  inferInstanceAs (Decidable (∀ k (inside : k < rows.length), rows[k].carries = true →
    (Instruction.decode rows[k].words).calls = false ∧
    ∀ label ∈ (Instruction.decode rows[k].words).jumps, label ∈ rows.map Row.label →
      label ∈ (rows.drop (k + 1)).map Row.label))

/-- The row of an instruction is preceded by as many rows with words as there are instructions
before it. -/
lemma Row.exists_of_code {rows : List Row} {index : Nat} {ins : Instruction}
    (h : (code rows)[index]? = some ins) :
    ∃ (k : Nat) (inside : k < rows.length), rows[k].carries = true ∧
      Instruction.decode rows[k].words = ins ∧ (rows.take k).countP Row.carries = index := by
  induction rows using List.reverseRecOn with
  | nil => exact nomatch h
  | append_singleton rows row ih =>
      rw [code_append] at h
      rcases Nat.lt_or_ge index (code rows).length with earlier | last
      · rw [List.getElem?_append_left earlier] at h
        obtain ⟨k, inside, carries, decoded, counted⟩ := ih h
        refine ⟨k, by simp; omega, ?_⟩
        rw [List.getElem_append_left inside, List.take_append_of_le_length (Nat.le_of_lt inside)]
        exact ⟨carries, decoded, counted⟩
      · rw [List.getElem?_append_right last] at h
        by_cases carries : row.carries = true
        · rw [code_cons carries, show code [] = [] from rfl, List.getElem?_singleton,
            Option.ite_none_right_eq_some] at h
          obtain ⟨here, decoded⟩ := h
          refine ⟨rows.length, by simp, ?_⟩
          rw [List.getElem_concat_length rfl, List.take_left, ← length_code]
          exact ⟨carries, Option.some.inj decoded, by omega⟩
        · simp [code, carries] at h

/-- A label that is borne behind some rows points behind their instructions. -/
lemma Draft.le_place?_ofRows {front back : List Row} {name : String} {index : Nat}
    (borne : name ∈ back.map Row.label) (h : (ofRows (front ++ back)).place? name = some index) :
    front.countP Row.carries ≤ index := by
  induction back using List.reverseRecOn with
  | nil => exact nomatch borne
  | append_singleton back row ih =>
      rw [← List.append_assoc, place?_ofRows_concat] at h
      split at h
      next here =>
        rw [← Option.some.inj h, List.countP_append]
        exact Nat.le_add_right _ _
      next elsewhere =>
        refine ih ?_ h
        rw [List.map_append, List.mem_append, List.map_singleton, List.mem_singleton] at borne
        rcases borne with earlier | rfl
        · exact earlier
        · -- The empty label is no label, so it points nowhere.
          have nameless : row.label = "" := Decidable.of_not_not fun hne => elsewhere ⟨hne, rfl⟩
          rw [(place?_ofRows_eq_none_iff _ _).mpr (.inl nameless)] at h
          exact nomatch h

/-- **The program of rows whose jumps lead ahead** only goes forward. -/
lemma Program.forward_ofRows {rows : List Row} (h : Row.Forward rows) :
    (ofRows rows).program.Forward where
  callless index ins fetched := by
    rw [getElem?_ofRows] at fetched
    obtain ⟨k, inside, carries, rfl, -⟩ := Row.exists_of_code fetched
    exact (h k inside carries).1
  ahead index ins fetched label jumps target bound := by
    rw [getElem?_ofRows] at fetched
    obtain ⟨k, inside, carries, rfl, rfl⟩ := Row.exists_of_code fetched
    rw [label_ofRows_eq_ok_iff] at bound
    have known : label ∈ rows.map Row.label := by
      have borne := mt (Draft.place?_ofRows_eq_none_iff rows label).mpr (by simp [bound])
      rw [not_or] at borne
      by_contra unknown
      exact borne.2 fun row mem same => unknown (List.mem_map.mpr ⟨row, mem, same⟩)
    have later := (h k inside carries).2 label jumps known
    rw [← List.take_append_drop (k + 1) rows] at bound
    have behind := Draft.le_place?_ofRows later bound
    rw [List.take_add_one, List.getElem?_eq_getElem inside, List.countP_append] at behind
    simp only [Option.toList_some, List.countP_singleton, carries, if_true] at behind
    omega

/-- **Programs that only go forward end.**  Take a program without calls whose jumps lead ahead, as
far as their labels are bound.  On a new machine, at whatever console, its run has halted or faulted
after one step more than there are instructions.  It has carried out no instruction twice, and each
one after those that stand before it.  Nor does one instruction take long: however many words it is
told to drop, the first pop that finds none is not later than the number of steps so far.  The
program of a source text is of this kind if no row of it is a call and every row that jumps to a
label of the text stands before a row with that label. -/
theorem forward_runs_end :
    (∀ program : Program, program.Forward → ∀ (trace : Bool) (console : Console),
      let run := fun count => Execution.run program count (Execution.fresh program trace console)
      (run (program.instructions.size + 1)).outcome ≠ none ∧
      (∀ count, ((List.range count).filterMap fun i => (run i).visits? program).Pairwise
        (· < ·)) ∧
      ∀ i drops, let m := (run i).system.machine
        Machine.popMany drops m = Machine.popMany (min drops (i + 1)) m) ∧
    ∀ source : String, ∃ (rows : List Row) (loaded : Loaded),
      (Source.lines source.toList).map (fun line => Row.split? (String.ofList line)) =
        rows.map some ∧
      Program.ofSource? source = .ok loaded ∧
      (Row.Forward rows → loaded.program.Forward) := by
  refine ⟨fun program forward trace console => ?_, fun source => ?_⟩
  · exact ⟨Execution.ended_of_forward forward, Execution.pairwise_visits forward,
      Execution.popMany_of_run program trace console⟩
  · refine ⟨(Source.lines source.toList).map Row.ofChars, _, ?_, Program.ofSource?_eq source,
      Program.forward_ofRows⟩
    simp [Row.split?_eq_ofChars]

/-- A source text whose jumps lead ahead: one of them to a label that no row bears, past a row that
is no instruction, and to an instruction that is told to drop more words than there will ever
be. -/
def skippingSource : String :=
  " LIT 1\n COND done skip\n FOO\nskip GOTO nowhere\ndone POP 18446744073709551615\n HALT\n"

/-- The text is loaded as a program that goes forward, so its runs end: the bound jump leads past
the unbound one, and the run faults where it finds no more words to drop. -/
theorem forward_runs_end_skipping :
    ∃ loaded, Program.ofSource? skippingSource = .ok loaded ∧ loaded.program.Forward ∧
      ∀ (trace : Bool) (console : Console),
        let program := loaded.program
        let run := fun count => Execution.run program count (Execution.fresh program trace console)
        (run (program.instructions.size + 1)).outcome ≠ none ∧
        (∀ count, ((List.range count).filterMap fun i => (run i).visits? program).Pairwise
          (· < ·)) ∧
        ∀ i drops, let m := (run i).system.machine
          Machine.popMany drops m = Machine.popMany (min drops (i + 1)) m := by
  obtain ⟨rows, loaded, split, loads, ahead⟩ := forward_runs_end.2 skippingSource
  have known : rows.map some = ([⟨"", ["LIT", "1"]⟩, ⟨"", ["COND", "done", "skip"]⟩, ⟨"", ["FOO"]⟩,
      ⟨"skip", ["GOTO", "nowhere"]⟩, ⟨"done", ["POP", "18446744073709551615"]⟩,
      ⟨"", ["HALT"]⟩] : List Row).map some := split.symm.trans (by decide +kernel)
  obtain rfl := (List.map_inj_right fun _ _ => Option.some.inj).mp known
  have forward := ahead (by decide +kernel)
  exact ⟨loaded, loads, forward, forward_runs_end.1 loaded.program forward⟩

end StackMachine

import StackMachine.Proofs.Extension.Basic
import StackMachine.Proofs.Tracing.Transparent

/-!
# Runs that are taken up again

What one run leaves to the next is the machine, so a run of a longer program can be had in two
parts.  Where the shorter program halts or faults at an instruction, the longer one ends with it.
Where the shorter one runs off its end, the longer one goes on, just as if it had been started
there: with the machine that the first part has left, on the input that it has not read.

The output and the flushes of the first part are then a past that the second part does not see.
Only the console and the log tell the two runs apart.

* `Execution.Behind` — a run that differs from another one in such a past, and in the log.
* `Ending`, `Execution.Ends` — how a run ends, and with what.
* `run_of_extension` — runs of a longer program.
-/

namespace StackMachine

/-! ## Behind a past -/

section Past

variable {past : Past} {s : System}

lemma System.behind_empty (s : System) : s.behind ⟨false, ByteArray.empty, #[]⟩ = s := by
  simp [behind, Machine.switched, Console.behind]

/-- A past without a trace of its own shows what the system shows. -/
lemma showTrace_mirrors_behind (quiet : past.trace = false) (ins : Instruction)
    (h : s.console.Open) :
    Mirrors (System.behind past) (showTrace ins) (showTrace ins) s (fun _ t => t.console.Open) := by
  have htrace : (s.behind past).machine.trace = s.machine.trace := by
    simp only [System.behind, Machine.switched, quiet, Bool.false_xor]
  refine Mirrors.get_bind ?_
  show Mirrors _ (if s.machine.trace = true then liftM (Console.write (s.machine.traceLine ins))
      else pure () : Action Unit)
    (if (s.behind past).machine.trace = true then liftM (Console.write (s.machine.traceLine ins))
      else pure ()) s _
  rw [htrace]
  split
  next => exact onConsole_mirrors past (Console.write_mirrors past _ h)
  next => exact Mirrors.pure h

/-- **An instruction does the same behind a past**, when that has no trace of its own. -/
lemma Instruction.perform_mirrors_behind (quiet : past.trace = false) (program : Program)
    (ins : Instruction) (h : s.console.Open) :
    Mirrors (System.behind past) (ins.perform program) (ins.perform program) s
      (fun _ t => t.console.Open) := by
  refine Mirrors.bind (showTrace_mirrors_behind quiet ins h) ?_
  intro _ t ht
  exact ins.work_mirrors past program ht

end Past

namespace Execution

variable {program : Program} {past : Past} {e e' : Execution}

/-- **A run that stands where another one stands, behind a past.**  What they have logged may
differ. -/
structure Behind (past : Past) (e e' : Execution) : Prop where
  system : e'.system = e.system.behind past
  outcome : e'.outcome = e.outcome

namespace Behind

/-- Both runs come to another system. -/
lemma moved (h : Behind past e e') (s : System) :
    Behind past { e with system := s } { e' with system := s.behind past } :=
  ⟨rfl, h.outcome⟩

lemma follow (h : Behind past e e') (index : Nat) (flow : Flow) :
    Behind past (e.follow index flow) (e'.follow index flow) where
  system := by
    rw [system_follow, system_follow, h.system]
    rfl
  outcome := by rw [outcome_follow, outcome_follow, h.outcome]

section Open

variable (hopen : e.system.console.Open)
include hopen

lemma opens (h : Behind past e e') : e'.system.console.Open := by
  rw [h.system]
  exact hopen.behind past

lemma fail (h : Behind past e e') (fault : Fault) : Behind past (e.fail fault) (e'.fail fault) where
  system := by
    rw [fail_run hopen, fail_run (h.opens hopen), h.system]
    simp only [System.behind, Console.flushed_behind]
  outcome := by rw [outcome_fail, outcome_fail]

lemma finish (h : Behind past e e') (index : Nat) (ins : Instruction) :
    Behind past (e.finish index ins) (e'.finish index ins) where
  system := by
    rw [finish_run hopen, finish_run (h.opens hopen), h.system]
    simp only [System.behind, Console.flushed_behind]
  outcome := by rw [finish_run hopen, finish_run (h.opens hopen)]

/-- **One step** of either run leads to the same place. -/
lemma step (program : Program) (quiet : past.trace = false) (h : Behind past e e') :
    Behind past (e.step program) (e'.step program) := by
  have hip : e'.system.machine.registers.ip = e.system.machine.registers.ip := by
    rw [h.system]
    rfl
  have hfetch : e'.fetch? program = e.fetch? program := by simp only [fetch?, hip]
  cases before : e.outcome with
  | some outcome =>
      rw [step_of_ended (by simp [before]), step_of_ended (by simp [h.outcome, before])]
      exact h
  | none =>
      have before' : e'.outcome = none := h.outcome.trans before
      cases fetched : e.fetch? program with
      | none =>
          rw [step_of_end before fetched, step_of_end before' (hfetch.trans fetched), hip]
          exact h.fail hopen _
      | some ins =>
          have fetched' := hfetch.trans fetched
          cases ins.perform_mirrors_behind quiet program hopen with
          | @of_error error t run image =>
              rw [← h.system] at image
              have ht : t.console.Open :=
                hopen.of_limits ((ins.perform_steady program e.system).error run)
              rw [step_of_error before fetched run, step_of_error before' fetched' image, hip]
              exact (h.moved t).fail ht _
          | @of_ok flow t run image ht =>
              rw [← h.system] at image
              by_cases halts : flow = .halt
              · subst halts
                rw [step_of_halt before fetched run, step_of_halt before' fetched' image, hip]
                exact (h.moved t).finish ht _ ins
              · rw [step_of_flow before fetched run halts,
                  step_of_flow before' fetched' image halts, hip]
                exact (h.moved t).follow _ flow

lemma run (program : Program) (quiet : past.trace = false) (h : Behind past e e') (count : Nat) :
    Behind past (run program count e) (run program count e') := by
  induction count with
  | zero => exact h
  | succ count ih =>
      rw [run_succ, run_succ]
      exact ih.step (open_run hopen count) program quiet

end Open

/-- A run is behind an empty past of any run that stands where it stands. -/
lemma of_same (system : e'.system = e.system)
    (outcome : e'.outcome = e.outcome) : Behind ⟨false, ByteArray.empty, #[]⟩ e e' where
  system := by
    rw [system]
    exact (System.behind_empty e.system).symm
  outcome := outcome

end Behind

/-! ## Ends -/

end Execution

/-- **How a run has ended**, and what it leaves. -/
structure Ending where
  /-- How it ended. -/
  outcome : Outcome
  /-- The machine. -/
  machine : Machine
  /-- The input that was not read. -/
  rest : List UInt8
  /-- What was written. -/
  output : ByteArray

/-- The run reached the place behind the last instruction. -/
def Outcome.RanOff (outcome : Outcome) : Prop :=
  ∃ index : Nat, outcome = .faulted ⟨index, Execution.endOfProgram, .invalidAddress index⟩

/-- The run needed a label that is not bound. -/
def Outcome.LacksLabel (outcome : Outcome) : Prop :=
  ∃ index text name, outcome = .faulted ⟨index, text, .undefinedLabel name⟩

namespace Execution

/-- The ending of a run that has ended. -/
def ending? (e : Execution) : Option Ending :=
  e.outcome.map fun outcome =>
    ⟨outcome, e.system.machine, e.system.console.input, e.system.console.output⟩

/-- A program that is run on a machine, with some input and an output that accepts everything, ends
in this way. -/
def Ends (program : Program) (m : Machine) (input : List UInt8) (ending : Ending) : Prop :=
  ∃ count, (run program count (start program m (Console.ofInput input))).ending? = some ending

lemma ends_of_outcome {program : Program} {m : Machine} {input : List UInt8} {count : Nat}
    {outcome : Outcome} :
    let e := run program count (start program m (Console.ofInput input))
    e.outcome = some outcome → Ends program m input
      ⟨outcome, e.system.machine, e.system.console.input, e.system.console.output⟩ :=
  fun ended => ⟨count, by rw [ending?, ended, Option.map_some]⟩

/-- What a run ends with is what the other one ends with, behind what was written before. -/
lemma Behind.ending? {past : Past} {e e' : Execution} (quiet : past.trace = false)
    (h : Behind past e e') :
    e'.ending? = e.ending?.map fun ending =>
      { ending with output := past.output ++ ending.output } := by
  have hmachine : (e.system.behind past).machine = e.system.machine := by
    simp only [System.behind, Machine.switched, quiet, Bool.false_xor]
  simp only [Execution.ending?, h.outcome, h.system, hmachine, Option.map_map]
  rfl

end Execution

/-! ## Longer programs -/

/-- Only a row that is no instruction can be displayed as the end of the program. -/
lemma Instruction.eq_unknown_of_text {ins : Instruction} (h : ins.text = Execution.endOfProgram) :
    ∃ row, ins = .unknown row := by
  cases ins with
  | unknown row => exact ⟨row, rfl⟩
  | _ =>
      have hfirst := congrArg (fun text => text.toList.head?) h
      simp [text, words, mnemonic?, operands, Execution.endOfProgram,
        String.intercalate_cons_cons, String.intercalate_singleton] at hfirst

namespace Execution

variable {longer shorter program : Program} {e : Execution} {m : Machine} {input : List UInt8}
  {ending : Ending}

lemma open_start (program : Program) (m : Machine) (input : List UInt8) :
    (start program m (Console.ofInput input)).system.console.Open :=
  ⟨rfl, rfl⟩

/-- A step that runs off the end had no instruction. -/
lemma fetch?_of_ranOff {outcome : Outcome} (before : e.outcome = none)
    (hopen : e.system.console.Open) (after : (e.step program).outcome = some outcome)
    (off : outcome.RanOff) : e.fetch? program = none := by
  obtain ⟨index, rfl⟩ := off
  cases fetched : e.fetch? program with
  | none => rfl
  | some ins =>
      exfalso
      cases run : ins.perform program e.system with
      | error error t =>
          rw [step_of_error before fetched run, outcome_fail] at after
          simp only [Option.some.injEq, Outcome.faulted.injEq, Fault.mk.injEq] at after
          obtain ⟨-, htext, rfl⟩ := after
          -- An unknown row does not fault with an invalid address.
          obtain ⟨row, rfl⟩ := Instruction.eq_unknown_of_text htext
          rw [Instruction.perform_run program _ hopen] at run
          exact nomatch run
      | ok flow t =>
          by_cases halts : flow = .halt
          · subst halts
            have ht := hopen.of_limits ((ins.perform_steady program e.system).ok run)
            rw [step_of_halt before fetched run,
              finish_run (e := { e with system := t }) ht] at after
            exact nomatch after
          · rw [step_of_flow before fetched run halts, outcome_follow] at after
            exact nomatch before.symm.trans after

/-- The step in which a run ends. -/
lemma Ends.last_step (ended : Ends program m input ending) :
    ∃ last, let e := run program last (start program m (Console.ofInput input))
      e.outcome = none ∧ (e.step program).ending? = some ending := by
  obtain ⟨count, hending⟩ := ended
  have hended : (run program count (start program m (Console.ofInput input))).outcome ≠ none := by
    intro running
    rw [ending?, running] at hending
    exact nomatch hending
  obtain ⟨last, -, running, hlast⟩ := exists_last_step rfl hended
  rw [hlast] at hending
  exact ⟨last, running, hending⟩

/-- Only the log of a run depends on the program that it was started with. -/
lemma behind_start (program program' : Program) (m : Machine) (input : List UInt8) :
    Behind ⟨false, ByteArray.empty, #[]⟩ (start program m (Console.ofInput input))
      (start program' m (Console.ofInput input)) :=
  Behind.of_same rfl rfl

/-- A system is behind its own past when its console is taken for a new one. -/
lemma behind_fresh {s : System} (h : s.console.Open) :
    (System.mk s.machine (Console.ofInput s.console.input)).behind
      ⟨false, s.console.output, s.console.flushes⟩ = s := by
  obtain ⟨machine, ⟨input, output, flushes, capacity, failing⟩⟩ := s
  obtain ⟨rfl, rfl⟩ := h
  simp [System.behind, Machine.switched, Console.behind, Console.ofInput]

section Extends

variable (h : longer.Extends shorter)
include h

/-- As long as the shorter program runs, the longer one stands where it stands. -/
lemma behind_of_extends {count : Nat}
    (running : (run shorter count (start shorter m (Console.ofInput input))).outcome = none) :
    Behind ⟨false, ByteArray.empty, #[]⟩
      (run shorter count (start shorter m (Console.ofInput input)))
      (run longer count (start longer m (Console.ofInput input))) := by
  rw [← run_of_extends h running]
  exact (behind_start shorter longer m input).run (open_start shorter m input) longer rfl count

lemma ends_of_extends (ended : Ends shorter m input ending) (off : ¬ ending.outcome.RanOff)
    (unbound : ¬ ending.outcome.LacksLabel) : Ends longer m input ending := by
  obtain ⟨last, running, hending⟩ := ended.last_step
  have hopen : (run shorter last (start shorter m (Console.ofInput input))).system.console.Open :=
    open_run (open_start shorter m input) last
  have hbehind := (behind_of_extends h running).step hopen longer rfl
  generalize run shorter last (start shorter m (Console.ofInput input)) = e at *
  have after : (e.step shorter).outcome = some ending.outcome := by
    obtain ⟨outcome, houtcome, rfl⟩ := Option.map_eq_some_iff.mp hending
    exact houtcome
  have same : e.step longer = e.step shorter := by
    cases fetched : e.fetch? shorter with
    | none =>
        rw [step_of_end running fetched, outcome_fail] at after
        exact absurd ⟨_, (Option.some.inj after).symm⟩ off
    | some ins =>
        rcases step_of_extends h running fetched with ⟨name, faulted⟩ | same
        · exact absurd ⟨_, _, name, Option.some.inj (after.symm.trans faulted)⟩ unbound
        · exact same
  refine ⟨last + 1, ?_⟩
  rw [run_succ, hbehind.ending? rfl, same, hending]
  simp

lemma ends_iff_of_ranOff (ended : Ends shorter m input ending) (off : ending.outcome.RanOff)
    (last : Ending) :
    Ends longer m input last ↔ ∃ later, Ends longer ending.machine ending.rest later ∧
      last = { later with output := ending.output ++ later.output } := by
  obtain ⟨k, running, hending⟩ := ended.last_step
  have hopen : (run shorter k (start shorter m (Console.ofInput input))).system.console.Open :=
    open_run (open_start shorter m input) k
  have hbehind := behind_of_extends h running
  generalize run shorter k (start shorter m (Console.ofInput input)) = e at *
  have after : (e.step shorter).outcome = some ending.outcome := by
    obtain ⟨outcome, houtcome, rfl⟩ := Option.map_eq_some_iff.mp hending
    exact houtcome
  have fetched := fetch?_of_ranOff running hopen after off
  obtain ⟨hmachine, hrest, houtput⟩ : ending.machine = e.system.machine ∧
      ending.rest = e.system.console.input ∧ ending.output = e.system.console.output := by
    rw [step_of_end running fetched, fail_run hopen] at hending
    obtain rfl := Option.some.inj hending
    exact ⟨rfl, rfl, rfl⟩
  rw [hmachine, hrest, houtput]
  -- The longer program stands at the end of the shorter one, where it could have been started.
  have hsystem := hbehind.system.trans (System.behind_empty e.system)
  have hrunning := hbehind.outcome.trans running
  have resumes : Behind ⟨false, e.system.console.output, e.system.console.flushes⟩
      (start longer e.system.machine (Console.ofInput e.system.console.input))
      (run longer k (start longer m (Console.ofInput input))) :=
    ⟨hsystem.trans (behind_fresh hopen).symm, hrunning⟩
  have hlater := fun j => by
    have hbehind := (resumes.run (open_start longer _ _) longer rfl j).ending? rfl
    rwa [← run_add] at hbehind
  constructor
  · rintro ⟨count, hcount⟩
    have hle : k ≤ count := Nat.le_of_not_lt fun early => by
      rw [ending?, running_of_run (Nat.le_of_lt early) hrunning] at hcount
      exact nomatch hcount
    obtain ⟨j, rfl⟩ := Nat.exists_eq_add_of_le hle
    obtain ⟨later, hend, rfl⟩ := Option.map_eq_some_iff.mp ((hlater j).symm.trans hcount)
    exact ⟨later, ⟨j, hend⟩, rfl⟩
  · rintro ⟨later, ⟨j, hend⟩, rfl⟩
    exact ⟨k + j, (hlater j).trans (by rw [hend]; rfl)⟩

end Extends

end Execution

/-- **Longer programs run the same and further.**  Let a program end on a machine, in whatever
state that is.  When it halts, or faults otherwise than by running off its end or for want of a
label, any longer program ends there in the same way, with the same machine, output and input left.
When it runs off its end, a longer program ends exactly if it ends from the machine that is left on
the input that is left; it ends in the same way, and its output is that of the two runs. -/
theorem run_of_extension (shorter longer : Program) (m : Machine) (input : List UInt8)
    (ending : Ending) (h : longer.Extends shorter) (ended : Execution.Ends shorter m input ending) :
    (¬ ending.outcome.RanOff → ¬ ending.outcome.LacksLabel →
      Execution.Ends longer m input ending) ∧
    (ending.outcome.RanOff → ∀ last : Ending, Execution.Ends longer m input last ↔
      ∃ later : Ending, Execution.Ends longer ending.machine ending.rest later ∧
        last = { later with output := ending.output ++ later.output }) :=
  ⟨Execution.ends_of_extends h ended, fun off last => Execution.ends_iff_of_ranOff h ended off last⟩

/-- A program that writes a word and runs off its end. -/
def opening : Program := ⟨#[.literal 6, .system .writeNumber], ∅⟩

/-- A program that goes on from there, and halts. -/
def opened : Program where
  instructions := opening.instructions ++ #[.code "stop", .system .writeNumber, .halt]
  labels := opening.labels.insert "stop" 4

lemma opened_extends_opening : opened.Extends opening where
  instructions := ⟨_, rfl⟩
  labels name index bound := by simp [opening, Program.label] at bound

/-- The shorter program runs off its end behind the output of its word.  The longer one goes on
there, from the machine that is left, and writes the place of its label behind that word. -/
theorem run_of_extension_resumed :
    let e := Execution.run opening 3
      (Execution.start opening Machine.initial (Console.ofInput []))
    e.outcome = some (.faulted ⟨2, Execution.endOfProgram, .invalidAddress 2⟩) ∧
    ∃ last : Ending, Execution.Ends opened Machine.initial [] last ∧ last.outcome = .halted ∧
      last.output = "64".toUTF8 := by
  intro e
  have off : e.outcome = some (.faulted ⟨2, Execution.endOfProgram, .invalidAddress 2⟩) := by
    decide +kernel
  have halts : (Execution.run opened 3 (Execution.start opened e.system.machine
      (Console.ofInput e.system.console.input))).outcome = some .halted := by
    decide +kernel
  have resumed := Execution.ends_of_outcome halts
  have ended := Execution.ends_of_outcome off
  have continues := (run_of_extension opening opened Machine.initial [] _ opened_extends_opening
    ended).2 ⟨2, rfl⟩
  refine ⟨off, _, (continues _).mpr ⟨_, resumed, rfl⟩, rfl, ?_⟩
  decide +kernel

end StackMachine

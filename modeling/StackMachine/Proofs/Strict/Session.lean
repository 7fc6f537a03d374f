import StackMachine.Proofs.Loading.Labels
import StackMachine.Proofs.Session
import StackMachine.Proofs.Strict.Room

/-!
# No sum of a session is too large

However a machine is used, its stack top rises by one word an instruction at most, also after a
return has put it anywhere and after runs that have faulted.  So it takes `2 ^ 63` instructions
until a word does not hold it.  The instruction pointer stays at places of the programs that were
run, or goes where a call has found a word.  The strict machine therefore carries out every session
of fewer instructions.

* `Session.executed` — how many instructions a session has carried out.
* `Strict.take`, `Strict.after` — sessions of the strict machine.
* `Machine.Bounded`, `Strict.step_eq` — what every step keeps.
* `session_exact` — no sum that is not checked is too large.
-/

namespace StackMachine

/-- How many instructions the next step carries out: one, or none. -/
def Execution.due (program : Program) (e : Execution) : Nat :=
  if e.outcome = none ∧ (e.fetch? program).isSome then 1 else 0

/-- If a turn runs a program, that is small. -/
def Turn.Small : Turn → Prop
  | .step => True
  | .execute program _ _ => program.Small

namespace Session

/-- How many instructions a turn carries out. -/
def due (s : Session) : Turn → Nat
  | .step => s.run.due s.program
  | .execute .. => 0

/-- How many instructions a session has carried out after a number of turns. -/
def executed (s : Session) (turns : Nat → Turn) : Nat → Nat
  | 0 => 0
  | i + 1 => executed s turns i + (s.after turns i).due (turns i)

end Session

namespace Strict

/-- The session of the strict machine after a turn. -/
def take (s : Session) : Turn → Except Stop Session
  | .step => do
    let run ← step s.program s.run
    return { s with run }
  | turn => .ok (s.take turn)

/-- The states of a session of the strict machine, one after the other. -/
def after (s : Session) (turns : Nat → Turn) : Nat → Except Stop Session
  | 0 => .ok s
  | i + 1 => do take (← after s turns i) (turns i)

end Strict

/-! ## What every step keeps -/

/-- **The bounds of a machine in use** that has carried out so many instructions. -/
structure Machine.Bounded (count : Nat) (m : Machine) : Prop where
  gbr : m.registers.gbr = 0
  low : -0x8000000000000000 ≤ m.registers.str
  high : m.registers.str < count
  ip : m.registers.ip < 0x8000000000000000
  sites : ∀ point ∈ m.returns, point.callSite + 1 < 0x8000000000000000

namespace Machine

variable {count : Nat} {m : Machine}

lemma bounded_initial (trace : Bool) : Bounded 0 { initial with trace } :=
  ⟨rfl, show (-0x8000000000000000 : Int) ≤ -1 by decide, show (-1 : Int) < 0 by decide,
    show 0 < 0x8000000000000000 by decide, fun _ h => nomatch h⟩

/-- Where an instruction is, there is room for it. -/
lemma Bounded.room (h : Bounded count m) (few : count + 1 < 0x8000000000000000)
    (hip : m.registers.ip + 1 < 0x8000000000000000) : Room 1 m :=
  ⟨h.gbr, h.low, by have hhigh := h.high; omega, hip, h.sites⟩

/-- An instruction leaves the bounds, as long as it does not raise the stack by more than a word. -/
lemma Room.bounded {t : Machine} (h : Room 0 t) (hm : Bounded count m)
    (rise : t.registers.str ≤ m.registers.str + 1) {ip : Nat} (hip : ip < 0x8000000000000000) :
    Bounded (count + 1) { t with registers.ip := ip } :=
  ⟨h.gbr, h.low, by have hhigh := hm.high; show t.registers.str < _; omega, hip, h.sites⟩

end Machine

namespace Strict

open Machine (Room Bounded)

variable {program : Program} {e : Execution} {count : Nat}

/-- What agrees as an instruction agrees as a step. -/
lemma step_of_agrees {ins : Instruction} {failed : MachineError → System → Prop}
    {done : System → Prop} (before : e.outcome = none)
    (fetched : e.fetch? program = some ins)
    (hip : e.system.machine.registers.ip + 1 < 0x8000000000000000)
    (h : Agrees (perform program ins) (ins.perform program) e.system
      (fun flow t => done t ∧ flow.Near) failed) :
    step program e = .ok (e.step program) := by
  have hins := fetched
  simp only [Execution.fetch?] at hins
  cases hrun : ins.perform program e.system with
  | error error t =>
      rw [Execution.step_of_error before fetched hrun]
      simp only [step, before, hins, h.run.trans (strict_error hrun)]
  | ok flow t =>
      have hnear := (h.ensures.ok hrun).2 _ hip
      by_cases halts : flow = .halt
      · subst halts
        rw [Execution.step_of_halt before fetched hrun]
        simp only [step, before, hins, h.run.trans (strict_ok hrun)]
      · rw [Execution.step_of_flow before fetched hrun halts]
        simp only [step, before, hins, h.run.trans (strict_ok hrun)]
        rw [place, if_pos (by omega)]
        rfl

/-- **A step of the strict machine** is a step of the machine, and keeps the bounds. -/
theorem step_eq (small : program.Small) (h : Bounded count e.system.machine)
    (few : count + e.due program < 0x8000000000000000) :
    step program e = .ok (e.step program) ∧
      Bounded (count + e.due program) (e.step program).system.machine := by
  cases before : e.outcome with
  | some outcome =>
      have hdue : e.due program = 0 := by simp [Execution.due, before]
      rw [Execution.step_of_ended (by simp [before]), hdue]
      exact ⟨by rw [step, before], h⟩
  | none =>
      cases fetched : e.fetch? program with
      | none =>
          have hdue : e.due program = 0 := by simp [Execution.due, fetched]
          have hip := h.ip
          rw [Execution.step_of_end before fetched, hdue, Execution.machine_fail]
          simp only [Execution.fetch?] at fetched
          refine ⟨?_, h⟩
          simp only [step, before, fetched]
          rw [word_of_fits (by simp only [Word.Fits]; omega)]
          rfl
      | some ins =>
          have hdue : e.due program = 1 := by simp [Execution.due, before, fetched]
          rw [hdue] at few ⊢
          have hinside : e.system.machine.registers.ip + 1 < 0x8000000000000000 := by
            have hsize := small.size
            obtain ⟨hlt, -⟩ := Array.getElem?_eq_some_iff.mp fetched
            omega
          have hagrees := perform_agrees small ins (h.room few hinside)
          have rise := (Execution.step_moves program e).str_le
          refine ⟨step_of_agrees before fetched hinside hagrees, ?_⟩
          rcases Execution.step_ensures before fetched hagrees.ensures with
            ⟨_, t, ht, hm, -⟩ | ⟨t, ⟨ht, -⟩, hm, -⟩ | ⟨flow, t, -, ⟨ht, hnear⟩, hm, -⟩
          · rw [hm] at rise ⊢
            exact ht.bounded h rise (Nat.lt_of_succ_lt ht.ip)
          · rw [hm] at rise ⊢
            exact ht.bounded h rise (Nat.lt_of_succ_lt ht.ip)
          · rw [hm] at rise ⊢
            exact ht.bounded h rise (hnear _ hinside)

/-! ## Sessions -/

/-- **A turn of the strict machine** is a turn of the machine, and keeps the bounds. -/
lemma take_eq {s : Session} {turn : Turn} (small : s.program.Small) (turnSmall : turn.Small)
    (h : Bounded count s.machine) (few : count + s.due turn < 0x8000000000000000) :
    take s turn = .ok (s.take turn) ∧ Bounded (count + s.due turn) (s.take turn).machine ∧
      (s.take turn).program.Small := by
  cases turn with
  | step =>
      obtain ⟨hstep, hbounded⟩ := step_eq small h few
      refine ⟨?_, hbounded, small⟩
      rw [take, hstep]
      rfl
  | execute program trace console =>
      refine ⟨rfl, ?_⟩
      simp only [Session.take]
      cases s.run.outcome with
      | none => exact ⟨h, small⟩
      | some outcome => exact ⟨⟨h.gbr, h.low, h.high, h.ip, h.sites⟩, turnSmall⟩

/-- **The strict machine carries out a session** of fewer than `2 ^ 63` instructions. -/
lemma after_eq {trace : Bool} {console : Console} {turns : Nat → Turn} {n : Nat}
    (small : program.Small) (turnsSmall : ∀ i < n, (turns i).Small)
    (few : (Session.first program trace console).executed turns n < 0x8000000000000000) :
    let s := Session.first program trace console
    after s turns n = .ok (s.after turns n) ∧
      Bounded (s.executed turns n) (s.after turns n).machine ∧
      (s.after turns n).program.Small := by
  intro s
  induction n with
  | zero => exact ⟨rfl, Machine.bounded_initial trace, small⟩
  | succ n ih =>
      have hbefore : s.executed turns n < 0x8000000000000000 :=
        Nat.lt_of_le_of_lt (Nat.le_add_right _ _) few
      obtain ⟨hrun, hbounded, hsmall⟩ :=
        ih (fun i hi => turnsSmall i (Nat.lt_succ_of_lt hi)) hbefore
      obtain ⟨htake, hafter⟩ := take_eq hsmall (turnsSmall n (Nat.lt_succ_self n)) hbounded few
      refine ⟨?_, hafter⟩
      rw [after, hrun]
      exact htake

end Strict

/-- The labels of a loaded program point no further than behind its last instruction. -/
lemma Program.small_of_source {source : String} {loaded : Loaded}
    (h : ofSource? source = .ok loaded)
    (size : loaded.program.instructions.size < 0x8000000000000000) : loaded.program.Small := by
  obtain rfl := Except.ok.inj ((ofSource?_eq source).symm.trans h)
  refine ⟨size, fun name index hlabel => Nat.lt_of_le_of_lt ?_ size⟩
  rw [instructions_ofRows, Draft.size_ofRows]
  exact Draft.place?_ofRows_le ((label_ofRows_eq_ok_iff _ name index).mp hlabel)

/-- **No sum that is not checked is too large.**  A program with fewer than `2 ^ 63` instructions is
small once it is loaded.  In whatever order small programs are run on one machine, and however their
runs end, as long as fewer than `2 ^ 63` instructions have been carried out, the strict machine has
carried them out as well and stands where the machine stands.  No operator overruns on any words. -/
theorem session_exact :
    (∀ (source : String) (loaded : Loaded), Program.ofSource? source = .ok loaded →
      loaded.program.instructions.size < 0x8000000000000000 → loaded.program.Small) ∧
    (∀ (program : Program) (trace : Bool) (console : Console) (turns : Nat → Turn) (n : Nat),
      let s := Session.first program trace console
      program.Small → (∀ i < n, (turns i).Small) →
      s.executed turns n < 0x8000000000000000 →
      Strict.after s turns n = .ok (s.after turns n)) ∧
    ∀ (op : BinaryOp) (l r : Word), Strict.apply op l r = Strict.known (op.apply l r) :=
  ⟨fun _ _ h size => Program.small_of_source h size,
    fun _ _ _ _ _ small turnsSmall few => (Strict.after_eq small turnsSmall few).1,
    Strict.apply_eq⟩

/-- A program that has a routine divide. -/
def dividing : Program :=
  ⟨#[.literal 3, .call 2, .halt, .literal (Word.wrap (-7)), .literal 2, .binary .divide, .ret 1], ∅⟩

/-- A program that goes on at the halt of the other one, and runs off its end. -/
def repeating : Program := ⟨#[.nop, .nop, .dup], ∅⟩

/-- The other program is run when the first one has ended. -/
def dividingThenRepeating (i : Nat) : Turn :=
  if i = 8 then .execute repeating (some true) (Console.ofInput []) else .step

/-- Through a division, the return from the routine, the halt, and a second program that runs off
its end, the strict machine carries out the same eight instructions. -/
theorem session_exact_dividing :
    let s := Session.first dividing false (Console.ofInput [])
    (s.after dividingThenRepeating 11).run.outcome =
      some (.faulted ⟨3, Execution.endOfProgram, .invalidAddress 3⟩) ∧
    s.executed dividingThenRepeating 11 = 8 ∧
    Strict.after s dividingThenRepeating 11 = .ok (s.after dividingThenRepeating 11) := by
  intro s
  have executed : s.executed dividingThenRepeating 11 = 8 := by decide +kernel
  have dividing_small : dividing.Small :=
    ⟨by decide, fun _ _ h => by simp [dividing, Program.label] at h⟩
  have repeating_small : repeating.Small :=
    ⟨by decide, fun _ _ h => by simp [repeating, Program.label] at h⟩
  refine ⟨by decide +kernel, executed, session_exact.2.1 _ _ _ _ _ dividing_small ?_ ?_⟩
  · intro i _
    rw [dividingThenRepeating]
    split
    · exact repeating_small
    · exact trivial
  · rw [executed]
    decide

end StackMachine

import Mathlib.Data.Nat.Factorial.Basic
import StackMachine.Proofs.Extension.Resumption
import StackMachine.Proofs.Factorial.Source
import StackMachine.Proofs.ListStack.Steps

/-!
# Factorials by recursion

The routine is called with its argument on top of the stack, and what lies below it is not its
business: it comes back with the factorial in the place of the argument.  That is shown by induction
on the argument.  The inner call finds the frame of the outer one below its own argument, and gives
back the frame as it was with the smaller factorial on top.

Words hold the factorials up to that of twenty.  From there on the call for twenty-one fails to
multiply, and the calls around it, however many, never come to their multiplication.

* `Factorial.entered` — the routine with its argument.
* `Factorial.base`, `Factorial.descend`, `Factorial.ascend` — the parts of the routine.
* `Factorial.returns`, `Factorial.overflows` — its runs, at any depth.
* `factorial_of_source` — from the source text to the output.
-/

namespace StackMachine

open Relation (ReflTransGen)

/-! ## Words -/

namespace Factorial

/-- The factorial of a word, which is one for every word up to one. -/
def word (v : Word) : Word := Word.wrap (v.toInt.toNat.factorial : Int)

lemma toInt_word {v : Word} (small : v.toInt ≤ 20) :
    (word v).toInt = v.toInt.toNat.factorial := by
  have bound : v.toInt.toNat.factorial ≤ Nat.factorial 20 := Nat.factorial_le (by omega)
  have twenty : Nat.factorial 20 = 2432902008176640000 := by decide
  refine Word.toInt_wrap ?_
  simp only [Word.Fits]
  omega

lemma word_of_le_one {v : Word} (low : v.toInt ≤ 1) : word v = 1 := by
  have one : v.toInt.toNat.factorial = 1 := Nat.factorial_eq_one.mpr (by omega)
  rw [word, one]
  rfl

/-- The word before another one. -/
lemma exists_predecessor {v : Word} (high : 2 ≤ v.toInt) :
    ∃ w : Word, w.toInt = v.toInt - 1 ∧ UnaryOp.predecessor.apply v = .ok w := by
  have fits : Word.Fits (v.toInt - 1) := by
    have fits := v.fits
    simp only [Word.Fits] at fits ⊢
    omega
  exact ⟨⟨_, fits⟩, rfl, Word.checked_eq_ok_iff.mpr rfl⟩

section Product

variable {v w : Word} (before : w.toInt = v.toInt - 1)
include before

/-- A product that fits is the next factorial. -/
lemma times_word (high : 2 ≤ v.toInt) (small : v.toInt ≤ 20) :
    BinaryOp.times.apply v (word w) = .ok (word v) := by
  have product : v.toInt.toNat * w.toInt.toNat.factorial = v.toInt.toNat.factorial := by
    have less : w.toInt.toNat = v.toInt.toNat - 1 := by omega
    rw [less, Nat.mul_factorial_pred (by omega)]
  have nonneg : (v.toInt.toNat : Int) = v.toInt := Int.toNat_of_nonneg (by omega)
  refine Word.checked_eq_ok_iff.mpr ?_
  rw [toInt_word small, toInt_word (by omega), ← product, Int.natCast_mul, nonneg]

/-- The factorial of twenty-one does not fit. -/
lemma times_word_of_eq (large : v.toInt = 21) :
    BinaryOp.times.apply v (word w) = .error .arithmeticOverflow := by
  have twenty : w.toInt = 20 := by omega
  have factorial : ((w.toInt.toNat.factorial : Nat) : Int) = 2432902008176640000 := by
    rw [twenty]
    decide
  refine Word.checked_eq_error_iff.mpr ⟨rfl, ?_⟩
  rw [toInt_word (by omega), factorial, large]
  decide

end Product

/-! ## The routine -/

open ListExecution

/-- **The routine is entered** with its argument on top of what lies below. -/
def entered (below : List Word) (v : Word) (points : List ReturnPoint) (console : Console) :
    ListExecution :=
  standing 5 below.length (below ++ [v]) points console

/-- **The routine is left** with its result in the place of the argument. -/
def left (below : List Word) (w : Word) (point : ReturnPoint) (points : List ReturnPoint)
    (console : Console) : ListExecution :=
  standing (point.callSite + 1) (below.length - point.frame) (below ++ [w]) points console

/-- The run on the list has got to a place that the machine gets to as well. -/
abbrev Leads (program : Program) : ListExecution → ListExecution → Prop :=
  ReflTransGen (ListExecution.Next program)

variable {program : Program} {n v w : Word} {below : List Word} {point : ReturnPoint}
  {points : List ReturnPoint} {console : Console}

/-- The fault at the multiplication. -/
def overflow : Outcome :=
  .faulted ⟨16, (Instruction.binary .times).text, .arithmeticOverflow⟩

/-- The inner call is left in the frame of the outer one, before the multiplication. -/
lemma left_inner : left (below ++ [v] ++ [v]) w ⟨15, 2⟩ points console =
    standing 16 below.length (below ++ [v] ++ [v] ++ [w]) points console := by
  have frame : ((below ++ [v] ++ [v]).length : Int) - (2 : Nat) = below.length := by simp
  rw [left, frame]

/-- The stack while the routine runs, up to an inner call. -/
lemma length_lt (room : below.length + 4 < 0x8000000000000000) {stack : List Word}
    (le : stack.length ≤ below.length + 4) : stack.length < 0x8000000000000000 :=
  Nat.lt_of_le_of_lt le room

/-- The argument is the first word of the frame. -/
lemma next_argument {ip : Nat} {stack : List Word}
    (fetched : program.instructions[ip]? = some (.loadLocal 0))
    (room : stack.length < 0x8000000000000000) (found : stack[below.length]? = some v) :
    ListExecution.Next program (standing ip below.length stack points console)
      (standing (ip + 1) below.length (stack ++ [v]) points console) :=
  next_loadLocal fetched room (Int.add_zero _) found

section Parts

variable (h : program.IsFactorial n) (room : below.length + 4 < 0x8000000000000000)
include h room

/-- The routine tells small arguments from large ones. -/
lemma decides {place : Nat} (here : place = if v.toInt ≤ 1 then 9 else 11) :
    Leads program (entered below v points console)
      (standing place below.length (below ++ [v]) points console) := by
  have target : (if (Word.ofProp (v.toInt ≤ 1)).toInt = 0 then 11 else 9) = place := by
    rw [here]
    by_cases low : v.toInt ≤ 1 <;> simp only [Word.ofProp, low, if_true, if_false] <;> rfl
  refine .head (next_argument (v := v) (h.fetched rfl) (length_lt room (by simp)) (by simp)) ?_
  refine .head (next_literal (h.fetched rfl) (length_lt room (by simp))) ?_
  refine .head (next_binary (h.fetched rfl) (length_lt room (by simp)) rfl) (.single ?_)
  rw [← target]
  exact next_branch (h.fetched rfl) (length_lt room (by simp)) h.base h.again

lemma base (low : v.toInt ≤ 1) (frame : point.frame ≤ below.length) :
    Leads program (entered below v (point :: points) console)
      (left below (word v) point points console) := by
  refine (decides h room (if_pos low).symm).trans ?_
  refine .head (next_literal (h.fetched rfl) (length_lt room (by simp))) (.single ?_)
  rw [word_of_le_one low]
  exact next_ret (h.fetched rfl) (length_lt room (by simp)) frame

/-- Above one, the routine calls itself behind two copies of its argument. -/
lemma descend (high : 2 ≤ v.toInt) (before : UnaryOp.predecessor.apply v = .ok w) :
    Leads program (entered below v points console)
      (entered (below ++ [v] ++ [v]) w (⟨15, 2⟩ :: points) console) := by
  refine (decides h room (if_neg (by omega)).symm).trans ?_
  refine .head (next_argument (v := v) (h.fetched rfl) (length_lt room (by simp)) (by simp)) ?_
  refine .head (next_argument (v := v) (h.fetched rfl) (length_lt room (by simp)) (by simp)) ?_
  refine .head (next_unary (h.fetched rfl) (length_lt room (by simp)) before) ?_
  refine .head (next_code (h.fetched rfl) (length_lt room (by simp)) h.fact) (.single ?_)
  have fits : Word.Fits ((below.length : Int) + (2 : Nat)) := by
    simp only [Word.Fits]
    omega
  have frame : ((below ++ [v] ++ [v]).length : Int) = below.length + (2 : Nat) := by simp
  rw [entered, frame]
  exact next_call (h.fetched rfl) (length_lt room (by simp)) rfl (by decide) fits

/-- Behind the inner call, the argument is multiplied by what that has returned. -/
lemma ascend (frame : point.frame ≤ below.length) {product : Word}
    (applied : BinaryOp.times.apply v w = .ok product) :
    Leads program (left (below ++ [v] ++ [v]) w ⟨15, 2⟩ (point :: points) console)
      (left below product point points console) := by
  rw [left_inner]
  refine .head (next_binary (h.fetched rfl) (length_lt room (by simp)) applied) (.single ?_)
  exact next_ret (h.fetched rfl) (length_lt room (by simp)) frame

lemma fails (failed : BinaryOp.times.apply v w = .error .arithmeticOverflow) :
    Leads program (left (below ++ [v] ++ [v]) w ⟨15, 2⟩ points console)
      ⟨⟨⟨16, below.length, below ++ [v], points, false⟩, console.flushed⟩, some overflow⟩ := by
  rw [left_inner]
  exact .single (next_binary_error (h.fetched rfl) (length_lt room (by simp)) failed)

end Parts

/-! ## Its runs -/

section Runs

variable (h : program.IsFactorial n)
include h

/-- **The routine returns the factorial** of every argument up to twenty, whatever lies below. -/
theorem returns (below : List Word) (v : Word) (point : ReturnPoint) (points : List ReturnPoint)
    (small : v.toInt ≤ 20)
    (room : below.length + 2 * v.toInt.toNat + 4 < 0x8000000000000000)
    (frame : point.frame ≤ below.length) :
    Leads program (entered below v (point :: points) console)
      (left below (word v) point points console) := by
  rcases Int.lt_or_le 1 v.toInt with high | low
  · obtain ⟨w, before, applied⟩ := exists_predecessor high
    have inner := returns (below ++ [v] ++ [v]) w ⟨15, 2⟩ (point :: points) (by omega)
      (by simp; omega) (by simp)
    have product := times_word before high small
    exact (descend h (by omega) high applied).trans
      (inner.trans (ascend h (by omega) frame product))
  · exact base h (by omega) low frame
termination_by v.toInt.toNat

/-- **The routine faults** on every argument above twenty. -/
theorem overflows (below : List Word) (v : Word) (points : List ReturnPoint)
    (large : 21 ≤ v.toInt)
    (room : below.length + 2 * v.toInt.toNat + 4 < 0x8000000000000000) :
    ∃ l, Leads program (entered below v points console)
      ⟨⟨l, console.flushed⟩, some overflow⟩ := by
  obtain ⟨w, before, applied⟩ := exists_predecessor (v := v) (by omega)
  have roomy : below.length + 4 < 0x8000000000000000 := by omega
  by_cases first : v.toInt = 21
  · have inner : Leads program _ (left _ _ _ points console) :=
      returns h (below ++ [v] ++ [v]) w ⟨15, 2⟩ points (by omega) (by simp; omega) (by simp)
    have product := times_word_of_eq before first
    exact ⟨_, (descend h roomy (by omega) applied).trans (inner.trans (fails h roomy product))⟩
  · obtain ⟨l, inner⟩ := overflows (below ++ [v] ++ [v]) w (⟨15, 2⟩ :: points) (by omega)
      (by simp; omega)
    exact ⟨l, (descend h roomy (by omega) applied).trans inner⟩
termination_by v.toInt.toNat

/-! ## The program -/

lemma enters : Leads program (standing 0 0 [] [] console) (entered [] n [⟨2, 0⟩] console) := by
  refine .head (next_literal (h.fetched rfl) (by decide)) ?_
  refine .head (next_code (h.fetched rfl) (by simp) h.fact) (.single ?_)
  have call : program.instructions[2]? = some (.call 0) := h.fetched rfl
  exact next_call call (by simp) rfl (by decide) (by decide)

/-- The program writes the factorial and leaves nothing behind. -/
lemma halts (small : n.toInt ≤ 20) (unlimited : console.Open) :
    Leads program (standing 0 0 [] [] console)
      ⟨⟨⟨4, 0, [], [], false⟩,
        { console with output := console.output ++ (word n).text.toUTF8 }.flushed⟩,
        some .halted⟩ := by
  have routine : Leads program _ (left _ _ _ _ console) :=
    returns h [] n ⟨2, 0⟩ [] small (by simp; omega) (Nat.le_refl 0)
  have write : ListExecution.Next program (left [] (word n) ⟨2, 0⟩ [] console)
      (standing 4 0 [] [] { console with output := console.output ++ (word n).text.toUTF8 }) :=
    next_writeNumber (h.fetched rfl) (by simp) unlimited
  refine (enters h).trans (routine.trans (.head write (.single ?_)))
  exact next_halt (h.fetched rfl) (by decide) ⟨unlimited.unlimited, unlimited.reliable⟩

end Runs

/-- A run of the list to its end is one of the machine, which is left as the list shows it. -/
lemma exists_ending {input : List UInt8} {l : ListMachine} {c : Console} {outcome : Outcome}
    (leads : Leads program (standing 0 0 [] [] (Console.ofInput input)) ⟨⟨l, c⟩, some outcome⟩) :
    ∃ ending, Execution.Ends program Machine.initial input ending ∧ ending.outcome = outcome ∧
      ending.output = c.output ∧ ending.machine.registers.lbr = l.base ∧
      ending.machine.registers.str = (l.stack.length : Int) - 1 ∧
      ending.machine.returns = l.returns := by
  have sound := Execution.fresh_sound program false (Console.ofInput input)
  obtain ⟨count, sound, view⟩ := Execution.exists_run_of_next sound leads
  have ended : (Execution.run program count _).outcome = some outcome :=
    congrArg ListExecution.outcome view
  obtain rfl : _ = l := congrArg (fun e => e.system.machine) view
  obtain rfl : _ = c := congrArg (fun e => e.system.console) view
  have top : ∀ {m : Machine}, m.Grounded → m.registers.str = (m.view.stack.length : Int) - 1 := by
    intro m grounded
    have length := Machine.length_stack grounded
    show _ = (m.stack.length : Int) - 1
    omega
  exact ⟨_, Execution.ends_of_outcome ended, rfl, rfl, rfl, top sound.grounded, rfl⟩

end Factorial

/-- **The recursive routine computes factorials.**  Write any numeral for the argument into the
source, of a word up to `2 ^ 61`.  The text is loaded, and on a new machine the run of it ends,
whatever the input is.  For an argument up to twenty it halts and has written the factorial, which
is one for all arguments up to one, and the stack, the return stack and the local base are as they
were in the beginning.  For any other argument it faults at the multiplication, and has written
nothing. -/
theorem factorial_of_source {numeral : String} {n : Word} (reads : Word.read? numeral = some n)
    (depth : n.toInt ≤ 0x2000000000000000) :
    ∃ loaded, Program.ofSource? (Factorial.source numeral) = .ok loaded ∧
      ∀ input, ∃ ending, Execution.Ends loaded.program Machine.initial input ending ∧
        (n.toInt ≤ 20 → ending.outcome = .halted ∧
          ending.output = (toString n.toInt.toNat.factorial).toUTF8 ∧
          (n.toInt ≤ 1 → ending.output = "1".toUTF8) ∧
          ending.machine.registers.lbr = 0 ∧ ending.machine.registers.str = -1 ∧
          ending.machine.returns = []) ∧
        (21 ≤ n.toInt →
          ending.outcome = .faulted ⟨16, "BOP BMULT", .arithmeticOverflow⟩ ∧
          ending.output = ByteArray.empty) := by
  obtain ⟨loaded, loads, computes⟩ := Factorial.exists_loaded reads
  refine ⟨loaded, loads, fun input => ?_⟩
  rcases Int.lt_or_le 20 n.toInt with large | small
  · obtain ⟨l, routine⟩ := Factorial.overflows computes [] n [⟨2, 0⟩] large (by simp; omega)
    obtain ⟨ending, ends, outcome, output, -⟩ :=
      Factorial.exists_ending ((Factorial.enters computes).trans routine)
    exact ⟨ending, ends, fun small => absurd small (by omega), fun _ => ⟨outcome, output⟩⟩
  · obtain ⟨ending, ends, outcome, output, base, top, returns⟩ :=
      Factorial.exists_ending (Factorial.halts computes small ⟨rfl, rfl⟩)
    have text : (Factorial.word n).text = toString n.toInt.toNat.factorial := by
      rw [Word.text, Factorial.toInt_word small]
      rfl
    have written : ending.output = (toString n.toInt.toNat.factorial).toUTF8 := by
      rw [output, ← text]
      exact ByteArray.empty_append
    refine ⟨ending, ends, fun _ => ⟨outcome, written, fun low => ?_, base, top, returns⟩,
      fun large => absurd small (by omega)⟩
    rw [written, Nat.factorial_eq_one.mpr (by omega)]
    rfl

/-- The last argument with a factorial, and the first without, which is written with a sign. -/
theorem factorial_of_source_twenty :
    (∃ loaded, Program.ofSource? (Factorial.source "20") = .ok loaded ∧
      ∃ ending, Execution.Ends loaded.program Machine.initial [] ending ∧
        ending.outcome = .halted ∧ ending.output = "2432902008176640000".toUTF8) ∧
    ∃ loaded, Program.ofSource? (Factorial.source "+21") = .ok loaded ∧
      ∃ ending, Execution.Ends loaded.program Machine.initial [] ending ∧
        ending.outcome = .faulted ⟨16, "BOP BMULT", .arithmeticOverflow⟩ := by
  constructor
  · obtain ⟨loaded, loads, runs⟩ :=
      factorial_of_source (show Word.read? "20" = some 20 by decide) (by decide)
    obtain ⟨ending, ends, halts, -⟩ := runs []
    obtain ⟨halted, output, -⟩ := halts (by decide)
    exact ⟨loaded, loads, ending, ends, halted, output⟩
  · obtain ⟨loaded, loads, runs⟩ :=
      factorial_of_source (show Word.read? "+21" = some 21 by decide) (by decide)
    obtain ⟨ending, ends, -, faults⟩ := runs []
    exact ⟨loaded, loads, ending, ends, (faults (by decide)).1⟩

end StackMachine

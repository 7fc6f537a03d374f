import Mathlib.Algebra.Order.Field.Basic
import Mathlib.Data.Rat.Floor
import StackMachine.Proofs.Strict.Division

/-!
# Operators are exact

An operator computes on integers without a bound and refuses what does not fit a word.  What it
computes is said here once more, away from words: a quotient is the floor of a rational number, and
a remainder is what the divisor times that floor leaves of the dividend.  An operator gives this
value wherever there is one and it fits, with one exception.

* `UnaryOp.value`, `BinaryOp.value?` — what the operators compute.
* `Floor.fdiv_eq` — the floor is where the remainder lies between zero and the divisor.
* `Floor.fits_iff` — the one quotient of words that is not a word.
* `BinaryOp.apply_eq` — a binary operator in terms of its value.
* `operators_exact` — results and errors of all operators.
-/

namespace StackMachine

/-- One for a true statement and zero for a false one. -/
def truth (p : Prop) [Decidable p] : Int := if p then 1 else 0

/-- **What a unary operator computes.** -/
def UnaryOp.value (op : UnaryOp) (x : Int) : Int :=
  match op with
  | .not => truth (x = 0)
  | .negate => -x
  | .successor => x + 1
  | .predecessor => x - 1

/-- **What a binary operator computes.**  There is no quotient and no remainder by zero. -/
def BinaryOp.value? (op : BinaryOp) (l r : Int) : Option Int :=
  match op with
  | .and => some (if l = 0 then l else r)
  | .or => some (if l ≠ 0 then l else r)
  | .plus => some (l + r)
  | .minus => some (l - r)
  | .times => some (l * r)
  | .divide => if r = 0 then none else some ⌊(l : ℚ) / r⌋
  | .modulo => if r = 0 then none else some (l - r * ⌊(l : ℚ) / r⌋)
  | .equal => some (truth (l = r))
  | .unequal => some (truth (l ≠ r))
  | .atMost => some (truth (l ≤ r))
  | .atLeast => some (truth (l ≥ r))
  | .less => some (truth (l < r))
  | .greater => some (truth (l > r))

/-! ## Quotients -/

namespace Floor

variable {l r : Int}

lemma rest_of_pos (h : 0 < r) :
    0 ≤ l - r * ⌊(l : ℚ) / r⌋ ∧ l - r * ⌊(l : ℚ) / r⌋ < r := by
  have hr : (0 : ℚ) < r := by exact_mod_cast h
  obtain ⟨lower, upper⟩ := Int.floor_eq_iff.mp (rfl : ⌊(l : ℚ) / r⌋ = _)
  generalize ⌊(l : ℚ) / r⌋ = q at lower upper ⊢
  rw [le_div_iff₀ hr] at lower
  rw [div_lt_iff₀ hr] at upper
  norm_cast at lower upper
  rw [add_mul, one_mul] at upper
  rw [mul_comm r]
  omega

lemma rest_of_neg (h : r < 0) :
    r < l - r * ⌊(l : ℚ) / r⌋ ∧ l - r * ⌊(l : ℚ) / r⌋ ≤ 0 := by
  have hr : (r : ℚ) < 0 := by exact_mod_cast h
  obtain ⟨lower, upper⟩ := Int.floor_eq_iff.mp (rfl : ⌊(l : ℚ) / r⌋ = _)
  generalize ⌊(l : ℚ) / r⌋ = q at lower upper ⊢
  rw [le_div_iff_of_neg hr] at lower
  rw [div_lt_iff_of_neg hr] at upper
  norm_cast at lower upper
  rw [add_mul, one_mul] at upper
  rw [mul_comm r]
  omega

/-- **The quotient is the floor of the rational one**, whatever signs the operands have. -/
lemma fdiv_eq (h : r ≠ 0) : l.fdiv r = ⌊(l : ℚ) / r⌋ := by
  have whole : l - r * ⌊(l : ℚ) / r⌋ + r * ⌊(l : ℚ) / r⌋ = l := Int.sub_add_cancel _ _
  rcases Int.lt_or_gt_of_ne h with neg | pos
  · exact ((Int.fdiv_fmod_unique' neg).mpr ⟨whole, rest_of_neg neg⟩).1
  · exact ((Int.fdiv_fmod_unique pos).mpr ⟨whole, rest_of_pos pos⟩).1

lemma fmod_eq (h : r ≠ 0) : l.fmod r = l - r * ⌊(l : ℚ) / r⌋ := by
  rw [Int.fmod_def, fdiv_eq h]

/-- The remainder is zero or has the sign of the divisor, and it is smaller than the divisor. -/
lemma fmod_small (h : r ≠ 0) :
    |l.fmod r| < |r| ∧ (l.fmod r = 0 ∨ (l.fmod r).sign = r.sign) := by
  rw [fmod_eq h]
  rcases Int.lt_or_gt_of_ne h with neg | pos
  · obtain ⟨lower, upper⟩ := rest_of_neg (l := l) neg
    rw [abs_of_nonpos upper, abs_of_neg neg, Int.sign_eq_neg_one_of_neg neg,
      Int.sign_eq_neg_one_iff_neg]
    omega
  · obtain ⟨lower, upper⟩ := rest_of_pos (l := l) pos
    rw [abs_of_nonneg lower, abs_of_pos pos, Int.sign_eq_one_of_pos pos, Int.sign_eq_one_iff_pos]
    omega

/-- **One quotient of words is not a word**, that of the least word by minus one. -/
lemma fits_iff (hl : Word.Fits l) (h : r ≠ 0) :
    Word.Fits (l.fdiv r) ↔ ¬ (l = -0x8000000000000000 ∧ r = -1) := by
  rw [Strict.fits_fdiv_iff hl h]
  have size : (l.tdiv r).natAbs = l.natAbs / r.natAbs := Int.natAbs_tdiv l r
  simp only [Word.Fits] at hl ⊢
  by_cases one : r = 1
  · subst one
    rw [Int.tdiv_one]
    omega
  by_cases minus : r = -1
  · subst minus
    rw [Int.tdiv_neg, Int.tdiv_one]
    omega
  · -- Any other divisor halves the dividend at least.
    have half : l.natAbs / r.natAbs ≤ l.natAbs / 2 := Nat.div_le_div_left (by omega) (by decide)
    omega

end Floor

/-! ## Results -/

namespace Word

lemma checked_of_toInt {x : Int} {w : Word} (h : w.toInt = x) : checked x = .ok w :=
  checked_eq_ok_iff.mpr h

lemma ofProp_eq_checked (p : Prop) [Decidable p] : .ok (ofProp p) = checked (truth p) := by
  refine (checked_of_toInt ?_).symm
  by_cases h : p
  · simp only [ofProp, truth, h, if_true]
    rfl
  · simp only [ofProp, truth, h, if_false]
    rfl

lemma quotient_eq (l r : Word) :
    quotient l r = if r.toInt = 0 then .error .divisionByZero
      else checked ⌊(l.toInt : ℚ) / r.toInt⌋ := by
  rw [quotient]
  split
  next => rfl
  next h => rw [Floor.fdiv_eq h]

/-- A remainder is refused where there is no quotient, although it is zero there. -/
lemma remainder_eq (l r : Word) :
    remainder l r = if r.toInt = 0 then .error .divisionByZero
      else if l.toInt = -0x8000000000000000 ∧ r.toInt = -1 then .error .arithmeticOverflow
      else checked (l.toInt - r.toInt * ⌊(l.toInt : ℚ) / r.toInt⌋) := by
  rw [remainder, quotient]
  split
  next => rfl
  next h =>
    rw [← Floor.fmod_eq h]
    split
    next least =>
      rw [checked_eq_error_iff.mpr ⟨rfl, fun fits => (Floor.fits_iff l.fits h).mp fits least⟩]
      rfl
    next others =>
      rw [Strict.checked_of_fits ((Floor.fits_iff l.fits h).mpr others)]
      rfl

end Word

lemma UnaryOp.apply_eq (op : UnaryOp) (x : Word) :
    op.apply x = Word.checked (op.value x.toInt) := by
  cases op with
  | not => exact Word.ofProp_eq_checked _
  | negate | successor | predecessor => rfl

/-- **The one remainder that is refused**, though it is zero. -/
def BinaryOp.Refuses (op : BinaryOp) (l r : Int) : Prop :=
  op = .modulo ∧ l = -0x8000000000000000 ∧ r = -1

instance (op : BinaryOp) (l r : Int) : Decidable (op.Refuses l r) :=
  inferInstanceAs (Decidable (_ ∧ _))

/-- **A binary operator gives its value**, if there is one and it fits. -/
lemma BinaryOp.apply_eq (op : BinaryOp) (l r : Word) :
    op.apply l r =
      match op.value? l.toInt r.toInt with
      | none => .error .divisionByZero
      | some x => if op.Refuses l.toInt r.toInt then .error .arithmeticOverflow
          else Word.checked x := by
  cases op with
  | divide =>
      simp only [apply, value?, Word.quotient_eq, Refuses, reduceCtorEq, false_and, if_false]
      split <;> rfl
  | modulo =>
      simp only [apply, value?, Word.remainder_eq, Refuses, true_and]
      split <;> rfl
  | and | or =>
      simp only [apply, value?, Refuses, reduceCtorEq, false_and, if_false, ne_eq, ite_not]
      refine (Word.checked_of_toInt ?_).symm
      split <;> rfl
  | plus | minus | times => simp [apply, value?, Refuses]
  | equal | unequal | atMost | atLeast | less | greater =>
      simp only [apply, value?, Refuses, reduceCtorEq, false_and, if_false,
        ← Word.ofProp_eq_checked, ge_iff_le, gt_iff_lt]

namespace BinaryOp

variable (op : BinaryOp) (l r : Word)

lemma value?_eq_none_iff (l r : Int) :
    op.value? l r = none ↔ (op = .divide ∨ op = .modulo) ∧ r = 0 := by
  cases op <;> simp [value?]

/-- The remainder that is refused is zero. -/
lemma value?_of_refuses {op : BinaryOp} {l r : Int} (h : op.Refuses l r) :
    op.value? l r = some 0 := by
  obtain ⟨rfl, rfl, rfl⟩ := h
  have rest : (-0x8000000000000000 : Int).fmod (-1) = 0 := by decide
  rw [Floor.fmod_eq (by decide)] at rest
  simp only [value?, rest]
  rfl

/-- **What an operator comes to**: there is no value, there is one that is refused or does not fit,
or there is one and the operator gives it. -/
lemma apply_cases :
    (op.value? l.toInt r.toInt = none ∧ op.apply l r = .error .divisionByZero) ∨
    (∃ x, op.value? l.toInt r.toInt = some x ∧ (¬ Word.Fits x ∨ op.Refuses l.toInt r.toInt) ∧
      op.apply l r = .error .arithmeticOverflow) ∨
    ∃ w, op.value? l.toInt r.toInt = some w.toInt ∧ ¬ op.Refuses l.toInt r.toInt ∧
      op.apply l r = .ok w := by
  rw [op.apply_eq]
  cases value : op.value? l.toInt r.toInt with
  | none => exact .inl ⟨rfl, rfl⟩
  | some x =>
      refine .inr ?_
      by_cases refused : op.Refuses l.toInt r.toInt
      · exact .inl ⟨x, rfl, .inr refused, if_pos refused⟩
      by_cases fits : Word.Fits x
      · refine .inr ⟨⟨x, fits⟩, rfl, refused, ?_⟩
        exact (if_neg refused).trans (Strict.checked_of_fits fits)
      · refine .inl ⟨x, rfl, .inl fits, ?_⟩
        exact (if_neg refused).trans (Word.checked_eq_error_iff.mpr ⟨rfl, fits⟩)

lemma value?_of_apply_eq_ok {w : Word} (ok : op.apply l r = .ok w) :
    op.value? l.toInt r.toInt = some w.toInt := by
  rcases op.apply_cases l r with ⟨-, apply⟩ | ⟨x, -, -, apply⟩ | ⟨w', value, -, apply⟩
  · exact nomatch ok.symm.trans apply
  · exact nomatch ok.symm.trans apply
  · obtain rfl := Except.ok.inj (ok.symm.trans apply)
    exact value

lemma apply_eq_divisionByZero_iff :
    op.apply l r = .error .divisionByZero ↔ op.value? l.toInt r.toInt = none := by
  rcases op.apply_cases l r with ⟨value, apply⟩ | ⟨x, value, -, apply⟩ | ⟨w, value, -, apply⟩ <;>
    simp [value, apply]

lemma apply_eq_overflow_iff :
    op.apply l r = .error .arithmeticOverflow ↔
      (∃ x, op.value? l.toInt r.toInt = some x ∧ ¬ Word.Fits x) ∨ op.Refuses l.toInt r.toInt := by
  rcases op.apply_cases l r with
    ⟨value, apply⟩ | ⟨x, value, reason, apply⟩ | ⟨w, value, goes, apply⟩
  · have goes : ¬ op.Refuses l.toInt r.toInt := fun refused =>
      nomatch value.symm.trans (value?_of_refuses refused)
    simp [value, apply, goes]
  · simpa [value, apply] using reason
  · simp [value, apply, goes, w.fits]

lemma error_of_apply {error : MachineError} (failed : op.apply l r = .error error) :
    error = .divisionByZero ∨ error = .arithmeticOverflow := by
  rcases op.apply_cases l r with ⟨-, apply⟩ | ⟨x, -, -, apply⟩ | ⟨w, -, -, apply⟩
  · exact .inl (Except.error.inj (failed.symm.trans apply))
  · exact .inr (Except.error.inj (failed.symm.trans apply))
  · exact nomatch failed.symm.trans apply

end BinaryOp

lemma Word.remainder_value {l r m : Word} (ok : BinaryOp.modulo.apply l r = .ok m) :
    r.toInt ≠ 0 ∧ m.toInt = l.toInt.fmod r.toInt := by
  have value := BinaryOp.value?_of_apply_eq_ok _ l r ok
  obtain ⟨nonzero, rest⟩ := Option.ite_none_left_eq_some.mp value
  exact ⟨nonzero, (Option.some.inj rest).symm.trans (Floor.fmod_eq nonzero).symm⟩

lemma Word.quotient_value {l r q : Word} (ok : BinaryOp.divide.apply l r = .ok q) :
    q.toInt = l.toInt.fdiv r.toInt := by
  have value := BinaryOp.value?_of_apply_eq_ok _ l r ok
  obtain ⟨nonzero, floor⟩ := Option.ite_none_left_eq_some.mp value
  exact (Option.some.inj floor).symm.trans (Floor.fdiv_eq nonzero).symm

/-- **Operators are exact.**  What an operator gives is its value, and it fails only for one of two
reasons.  It divides by zero, or its value does not fit a word.  One value is refused though it
fits: the least word has the remainder zero by minus one, but no quotient.  Division that starts
from the quotient and the remainder toward zero, as a machine without wide integers does it, comes
to the same.  A remainder is zero or has the sign of the divisor, and is smaller than it; together
with the quotient it makes up the dividend. -/
theorem operators_exact :
    (∀ (op : UnaryOp) (x : Word),
      (∀ w, op.apply x = .ok w → w.toInt = op.value x.toInt) ∧
      ∀ error, op.apply x = .error error ↔
        error = .arithmeticOverflow ∧ ¬ Word.Fits (op.value x.toInt)) ∧
    (∀ (op : BinaryOp) (l r : Word),
      (∀ w, op.apply l r = .ok w → op.value? l.toInt r.toInt = some w.toInt) ∧
      (op.apply l r = .error .divisionByZero ↔ (op = .divide ∨ op = .modulo) ∧ r.toInt = 0) ∧
      (op.apply l r = .error .arithmeticOverflow ↔
        (∃ x, op.value? l.toInt r.toInt = some x ∧ ¬ Word.Fits x) ∨
        op.Refuses l.toInt r.toInt) ∧
      (∀ error, op.apply l r = .error error →
        error = .divisionByZero ∨ error = .arithmeticOverflow) ∧
      (op.Refuses l.toInt r.toInt → op.value? l.toInt r.toInt = some 0) ∧
      Strict.apply op l r = Strict.known (op.apply l r)) ∧
    ∀ l r m : Word, BinaryOp.modulo.apply l r = .ok m →
      |m.toInt| < |r.toInt| ∧ (m.toInt = 0 ∨ m.toInt.sign = r.toInt.sign) ∧
      ∀ q, BinaryOp.divide.apply l r = .ok q → l.toInt = q.toInt * r.toInt + m.toInt := by
  refine ⟨?_, ?_, ?_⟩
  · intro op x
    rw [op.apply_eq]
    exact ⟨fun w ok => Word.checked_eq_ok_iff.mp ok, fun error => Word.checked_eq_error_iff⟩
  · intro op l r
    refine ⟨fun w => op.value?_of_apply_eq_ok l r, ?_, op.apply_eq_overflow_iff l r,
      fun error => op.error_of_apply l r, BinaryOp.value?_of_refuses, Strict.apply_eq op l r⟩
    rw [op.apply_eq_divisionByZero_iff, op.value?_eq_none_iff]
  · intro l r m ok
    obtain ⟨nonzero, rest⟩ := Word.remainder_value ok
    obtain ⟨smaller, sign⟩ := Floor.fmod_small (l := l.toInt) nonzero
    rw [rest]
    refine ⟨smaller, sign, ?_⟩
    intro q quotient
    rw [Word.quotient_value quotient]
    exact (Int.fdiv_mul_add_fmod _ _).symm

/-- Both operands may be negative. -/
example : BinaryOp.divide.value? (-7) 2 = some (-4) ∧ BinaryOp.modulo.value? 7 (-2) = some (-1) ∧
    BinaryOp.divide.value? (-7) (-2) = some 3 := by decide +kernel

end StackMachine

import Mathlib.Tactic.Lemma
import StackMachine.Operator

/-!
# Division without wide integers

On integers without a bound, quotient and remainder toward negative infinity are there at once.  A
machine that has nothing but words starts from the quotient and the remainder toward zero and puts
them right: by one where the signs of the operands differ, and by the divisor where those of the
remainder and the divisor do.  These two steps, and the remainder that decides about the first, are
not checked.  Here they are strict: they stop the computation where the exact result does not fit.

* `Strict.Stop`, `Strict.word` — how a strict computation stops, and results that are not checked.
* `Strict.quotient`, `Strict.remainder`, `Strict.apply` — the operators, step by step.
* `Strict.apply_eq` — no step stops them, and they are the operators of the machine.
-/

namespace StackMachine

namespace Strict

/-- **Why a strict computation stops.** -/
inductive Stop where
  /-- It fails as the machine does. -/
  | failed (error : MachineError)
  /-- A result that is not checked does not fit. -/
  | overran
deriving DecidableEq

/-- A word with the value `x`, where nothing checks that it fits. -/
def word (x : Int) : Except Stop Word := if h : Word.Fits x then .ok ⟨x, h⟩ else .error .overran

lemma word_of_fits {x : Int} (h : Word.Fits x) : word x = .ok ⟨x, h⟩ := dif_pos h

/-- What the machine checks, it checks here as well. -/
def known {α : Type} (x : Except MachineError α) : Except Stop α := x.mapError .failed

/-- The remainder toward zero.  It is refused where the quotient does not fit, although it is zero
there. -/
def truncated (l r : Word) : Except Stop Word :=
  if r.toInt ≠ 0 ∧ Word.Fits (l.toInt.tdiv r.toInt) then word (l.toInt.tmod r.toInt)
  else .error .overran

/-- The quotient toward negative infinity, from the one toward zero. -/
def quotient (l r : Word) : Except Stop Word :=
  if r.toInt = 0 then .error (.failed .divisionByZero) else do
    let q ← known (Word.checked (l.toInt.tdiv r.toInt))
    let m ← truncated l r
    if m.toInt ≠ 0 ∧ (l.toInt < 0) ≠ (r.toInt < 0) then word (q.toInt - 1) else return q

/-- The remainder with the sign of the divisor, from the one toward zero. -/
def remainder (l r : Word) : Except Stop Word :=
  if r.toInt = 0 then .error (.failed .divisionByZero) else do
    let _ ← known (Word.checked (l.toInt.tdiv r.toInt))
    let m ← truncated l r
    if m.toInt ≠ 0 ∧ (m.toInt < 0) ≠ (r.toInt < 0) then word (m.toInt + r.toInt) else return m

/-- The result of a binary operator.  Only division takes steps that are not checked. -/
def apply (op : BinaryOp) (l r : Word) : Except Stop Word :=
  match op with
  | .divide => quotient l r
  | .modulo => remainder l r
  | op => known (op.apply l r)

/-! ## From rounding toward zero to rounding down -/

section Rounding

variable {l r : Int}

lemma tmod_nonpos (r : Int) (h : l ≤ 0) : l.tmod r ≤ 0 := by
  have hneg := Int.tmod_nonneg r (Int.neg_nonneg_of_nonpos h)
  rw [Int.neg_tmod] at hneg
  omega

/-- A remainder toward zero has the sign of the dividend. -/
lemma tmod_neg_iff (h : l.tmod r ≠ 0) : l.tmod r < 0 ↔ l < 0 := by
  rcases Int.lt_or_le l 0 with hl | hl
  · have hsign := tmod_nonpos r (Int.le_of_lt hl)
    omega
  · have hsign := Int.tmod_nonneg r hl
    omega

/-- The quotient is put right by one where there is a remainder and the signs differ. -/
lemma fdiv_eq_of_signs (hr : r ≠ 0) :
    l.fdiv r = if l.tmod r ≠ 0 ∧ (l < 0) ≠ (r < 0) then l.tdiv r - 1 else l.tdiv r := by
  have hdvd : r ∣ l ↔ l.tmod r = 0 := Int.dvd_iff_tmod_eq_zero
  rw [Int.fdiv_eq_tdiv]
  by_cases exact : l.tmod r = 0
  · rw [if_pos (hdvd.mpr exact), if_neg fun h => h.1 exact, Int.sub_zero]
  rw [if_neg fun h => exact (hdvd.mp h)]
  rcases Int.lt_or_gt_of_ne hr with hneg | hpos
  · rcases Int.lt_or_le l 0 with hl | hl
    · rw [if_neg (by omega), if_neg (by omega), Int.sign_eq_neg_one_of_neg hneg]
      simp [hl, hneg]
    · rw [if_pos hl, if_neg (by omega)]
      simp [exact, Int.not_lt.mpr hl, hneg]
  · rcases Int.lt_or_le l 0 with hl | hl
    · rw [if_neg (by omega), if_pos (by omega), Int.sign_eq_one_of_pos hpos]
      simp [exact, hl, Int.not_lt.mpr (Int.le_of_lt hpos)]
    · rw [if_pos hl, if_pos (by omega)]
      simp [Int.not_lt.mpr hl, Int.not_lt.mpr (Int.le_of_lt hpos)]

/-- The remainder is put right by the divisor where it has the other sign. -/
lemma fmod_eq_of_signs (hr : r ≠ 0) :
    l.fmod r = if l.tmod r ≠ 0 ∧ (l.tmod r < 0) ≠ (r < 0) then l.tmod r + r else l.tmod r := by
  rw [Int.fmod_def, fdiv_eq_of_signs hr]
  by_cases exact : l.tmod r = 0
  · rw [if_neg fun h => h.1 exact, if_neg fun h => h.1 exact, Int.tmod_def]
  · simp only [tmod_neg_iff exact]
    split
    · rw [Int.tmod_def, Int.mul_sub, Int.mul_one]
      omega
    · rw [Int.tmod_def]

/-- A quotient that leaves a remainder is at most half of the dividend. -/
lemma natAbs_tdiv_le_half (h : l.tmod r ≠ 0) : (l.tdiv r).natAbs ≤ l.natAbs / 2 := by
  -- A divisor of one or minus one leaves no remainder.
  have hunit : r.natAbs ≠ 1 := by
    intro hunit
    refine h (Int.natAbs_eq_zero.mp ?_)
    rw [Int.natAbs_tmod, hunit, Nat.mod_one]
  rw [Int.natAbs_tdiv]
  rcases Nat.eq_zero_or_pos r.natAbs with hzero | hpos
  · rw [hzero]
    exact Nat.le_trans (Nat.le_of_eq (Nat.div_zero _)) (Nat.zero_le _)
  · exact Nat.div_le_div_left (by omega) (by decide)

lemma fits_tmod (hl : Word.Fits l) : Word.Fits (l.tmod r) := by
  have hle : (l.tmod r).natAbs ≤ l.natAbs := by
    rw [Int.natAbs_tmod]
    exact Nat.mod_le _ _
  simp only [Word.Fits] at hl ⊢
  rcases Int.lt_or_le l 0 with hneg | hpos
  · have hsign := tmod_nonpos r (Int.le_of_lt hneg)
    omega
  · have hsign := Int.tmod_nonneg r hpos
    omega

/-- A quotient fits with either rounding or with none. -/
lemma fits_fdiv_iff (hl : Word.Fits l) (hr : r ≠ 0) :
    Word.Fits (l.fdiv r) ↔ Word.Fits (l.tdiv r) := by
  rw [fdiv_eq_of_signs hr]
  split
  next h =>
    have hhalf := natAbs_tdiv_le_half h.1
    simp only [Word.Fits] at hl ⊢
    omega
  next => exact Iff.rfl

/-- The remainder that was put right is smaller than the divisor. -/
lemma fits_fmod (hl : Word.Fits l) (hr : Word.Fits r) (h : r ≠ 0) : Word.Fits (l.fmod r) := by
  have hm := fits_tmod (r := r) hl
  rw [fmod_eq_of_signs h]
  simp only [Word.Fits] at hl hr hm ⊢
  split
  next signs =>
    simp only [ne_eq, eq_iff_iff] at signs
    omega
  next => exact hm

end Rounding

/-! ## The operators -/

lemma checked_of_fits {x : Int} (h : Word.Fits x) : Word.checked x = .ok ⟨x, h⟩ :=
  Word.checked_eq_ok_iff.mpr rfl

lemma known_checked_of_fits {x : Int} (h : Word.Fits x) : known (Word.checked x) = .ok ⟨x, h⟩ := by
  rw [checked_of_fits h]
  rfl

lemma known_checked_of_not_fits {x : Int} (h : ¬ Word.Fits x) :
    known (Word.checked x) = .error (.failed .arithmeticOverflow) := by
  rw [Word.checked_eq_error_iff.mpr ⟨rfl, h⟩]
  rfl

lemma truncated_run {l r : Word} (hr : r.toInt ≠ 0) (h : Word.Fits (l.toInt.tdiv r.toInt)) :
    truncated l r = .ok ⟨l.toInt.tmod r.toInt, fits_tmod l.fits⟩ := by
  rw [truncated, if_pos ⟨hr, h⟩, word_of_fits (fits_tmod l.fits)]

/-- Putting a result right, where it has to be, gives the exact value if that fits. -/
lemma corrected_run {c : Prop} [Decidable c] {x y z : Int} (hx : Word.Fits x) (hz : Word.Fits z)
    (value : x = if c then y else z) : (if c then word y else .ok ⟨z, hz⟩) = .ok ⟨x, hx⟩ := by
  split at value
  next h =>
    subst value
    rw [if_pos h, word_of_fits hx]
  next h =>
    subst value
    rw [if_neg h]

lemma quotient_eq (l r : Word) : quotient l r = known (Word.quotient l r) := by
  rw [quotient, Word.quotient]
  split
  next => rfl
  next hr =>
    by_cases h : Word.Fits (l.toInt.tdiv r.toInt)
    · have hdown := (fits_fdiv_iff l.fits hr).mpr h
      rw [known_checked_of_fits h, truncated_run hr h, known_checked_of_fits hdown]
      exact corrected_run hdown h (fdiv_eq_of_signs hr)
    · rw [known_checked_of_not_fits h,
        known_checked_of_not_fits fun hdown => h ((fits_fdiv_iff l.fits hr).mp hdown)]
      rfl

lemma remainder_eq (l r : Word) : remainder l r = known (Word.remainder l r) := by
  rw [remainder, Word.remainder, Word.quotient]
  split
  next => rfl
  next hr =>
    by_cases h : Word.Fits (l.toInt.tdiv r.toInt)
    · have hdown := fits_fmod l.fits r.fits hr
      rw [known_checked_of_fits h, truncated_run hr h,
        checked_of_fits ((fits_fdiv_iff l.fits hr).mpr h)]
      refine Eq.trans ?_ (known_checked_of_fits hdown).symm
      exact corrected_run hdown (fits_tmod l.fits) (fmod_eq_of_signs hr)
    · rw [known_checked_of_not_fits h,
        Word.checked_eq_error_iff.mpr ⟨rfl, fun hdown => h ((fits_fdiv_iff l.fits hr).mp hdown)⟩]
      rfl

/-- **No step of an operator overruns.** -/
theorem apply_eq (op : BinaryOp) (l r : Word) : apply op l r = known (op.apply l r) := by
  cases op with
  | divide => exact quotient_eq l r
  | modulo => exact remainder_eq l r
  | _ => rfl

end Strict
end StackMachine

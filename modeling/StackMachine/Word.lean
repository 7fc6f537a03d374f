/-!
# Machine words

Every cell of memory, every literal and every result of an operator is a signed integer of 64
bits.  A `Word` is such an integer together with the proof that it fits, so arithmetic is done on
`Int`, where nothing wraps, and the range is checked once, where a result becomes a word again.

* `Word.Fits` — the integers that a word can hold.
* `Word.ofInt?` — the checked way from integers to words; `Word.ofInt?_eq_some_iff` says that it
  finds exactly the word with that value.
* `Word.wrap` — the unchecked way, modulo `2 ^ 64`; `Word.toInt_wrap` says that it changes nothing
  for an integer that fits.
* `Word.unset` — what a cell reads as when nothing is stored there.
-/

namespace StackMachine

/-- An integer **fits** when 64 bits hold it in two's complement: from `-2 ^ 63` to `2 ^ 63 - 1`. -/
def Word.Fits (x : Int) : Prop := -0x8000000000000000 ≤ x ∧ x < 0x8000000000000000

instance (x : Int) : Decidable (Word.Fits x) := inferInstanceAs (Decidable (_ ∧ _))

/-- A signed integer of 64 bits. -/
structure Word where
  /-- The value of the word. -/
  toInt : Int
  /-- The value fits. -/
  fits : Word.Fits toInt
deriving DecidableEq

namespace Word

/-- The word with the value `x`, if `x` fits. -/
def ofInt? (x : Int) : Option Word := if h : Fits x then some ⟨x, h⟩ else none

/-- The word that agrees with `x` modulo `2 ^ 64`. -/
def wrap (x : Int) : Word where
  toInt := x.bmod 0x10000000000000000
  fits := by
    have lower := Int.le_bmod (x := x) (m := 0x10000000000000000) (by decide)
    have upper := Int.bmod_lt (x := x) (m := 0x10000000000000000) (by decide)
    simp only [Fits]
    omega

/-- A numeral stands for the word that agrees with it modulo `2 ^ 64`. -/
instance (n : Nat) : OfNat Word n := ⟨wrap n⟩

/-- The value of a cell that holds nothing. -/
def unset : Word := wrap (-1)

/-- The decimal form: a minus sign for a negative word, and no leading zeros. -/
def text (w : Word) : String := toString w.toInt

@[ext]
theorem ext {v w : Word} (h : v.toInt = w.toInt) : v = w := by
  cases v; cases w; cases h; rfl

theorem ofInt?_eq_some_iff {x : Int} {w : Word} : ofInt? x = some w ↔ w.toInt = x := by
  unfold ofInt?
  split
  next h => exact ⟨fun e => by cases e; rfl, fun e => congrArg some (ext e.symm)⟩
  next h =>
    refine ⟨nofun, ?_⟩
    rintro rfl
    exact absurd w.fits h

theorem ofInt?_eq_none_iff {x : Int} : ofInt? x = none ↔ ¬ Fits x := by
  unfold ofInt?
  split <;> simp_all

@[simp]
theorem ofInt?_toInt (w : Word) : ofInt? w.toInt = some w := ofInt?_eq_some_iff.2 rfl

theorem toInt_wrap {x : Int} (h : Fits x) : (wrap x).toInt = x := by
  unfold Fits at h
  show x.bmod 0x10000000000000000 = x
  rw [Int.bmod_def]
  omega

@[simp]
theorem wrap_toInt (w : Word) : wrap w.toInt = w := ext (toInt_wrap w.fits)

@[simp]
theorem toInt_zero : (0 : Word).toInt = 0 := rfl

@[simp]
theorem toInt_unset : unset.toInt = -1 := rfl

end Word

end StackMachine

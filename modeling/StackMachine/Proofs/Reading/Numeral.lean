import Mathlib.Data.List.Induction
import StackMachine.Text.Numeral

/-!
# What numerals denote

Numerals are read by testing their characters and adding up.  The rules by which they are written
say the same without a computation: a digit is a numeral, a digit more multiplies what was there by
ten, and a sign may stand in front.  A text is read exactly when these rules give it a value, and it
is read as that value, however many digits it has.

* `Numeral.Digits`, `Numeral.Unsigned`, `Numeral.Signed` — the rules.
* `Numeral.natural?_eq_some_iff` and the like — reading follows them.
* `Word.read?_eq_some_iff`, `Count.read?_eq_some_iff` — numerals that are operands.
-/

namespace StackMachine

namespace Numeral

/-! ## The rules -/

/-- **One or more ASCII digits**, and the number that they denote. -/
inductive Digits : List Char → Nat → Prop where
  | one (d : Fin 10) : Digits [Nat.digitChar d] d
  | more {digits : List Char} {n : Nat} (h : Digits digits n) (d : Fin 10) :
      Digits (digits ++ [Nat.digitChar d]) (10 * n + d)

/-- **Digits behind an optional plus sign.** -/
inductive Unsigned : List Char → Nat → Prop where
  | plain {digits : List Char} {n : Nat} (h : Digits digits n) : Unsigned digits n
  | plus {digits : List Char} {n : Nat} (h : Digits digits n) : Unsigned ('+' :: digits) n

/-- **Digits behind an optional sign.** -/
inductive Signed : List Char → Int → Prop where
  | unsigned {numeral : List Char} {n : Nat} (h : Unsigned numeral n) : Signed numeral n
  | minus {digits : List Char} {n : Nat} (h : Digits digits n) : Signed ('-' :: digits) (-n)

/-! ## Digits -/

lemma exists_digit {c : Char} (h : c.isDigit = true) : ∃ d : Fin 10, c = Nat.digitChar d := by
  obtain ⟨zero, nine⟩ : 48 ≤ c.toNat ∧ c.toNat ≤ 57 := Char.isDigit_iff_toNat.mp h
  refine ⟨⟨c.toNat - 48, by omega⟩, Char.toNat_inj.mp ?_⟩
  rw [Nat.toNat_digitChar_of_lt_ten (Fin.isLt _)]
  exact (Nat.add_sub_of_le zero).symm

lemma isDigit_digitChar (d : Fin 10) : (Nat.digitChar d).isDigit = true := by
  revert d
  decide

lemma toNat_digitChar (d : Fin 10) : (Nat.digitChar d).toNat - '0'.toNat = d := by
  revert d
  decide

namespace Digits

variable {digits : List Char} {n : Nat}

lemma ne_nil (h : Digits digits n) : digits ≠ [] := by
  cases h with
  | one d => exact List.cons_ne_nil _ _
  | more h d => exact List.append_ne_nil_of_right_ne_nil _ (List.cons_ne_nil _ _)

lemma isDigit (h : Digits digits n) : ∀ c ∈ digits, c.isDigit = true := by
  induction h with
  | one d =>
      intro c hc
      rw [List.mem_singleton.mp hc]
      exact isDigit_digitChar d
  | more h d ih =>
      intro c hc
      rcases List.mem_append.mp hc with before | last
      · exact ih c before
      · rw [List.mem_singleton.mp last]
        exact isDigit_digitChar d

lemma value (h : Digits digits n) : Nat.ofDigitChars 10 digits 0 = n := by
  induction h with
  | one d => simp only [Nat.ofDigitChars_cons, Nat.ofDigitChars_nil, toNat_digitChar, Nat.mul_zero,
      Nat.zero_add]
  | more h d ih =>
      rw [Nat.ofDigitChars_append, ih, Nat.ofDigitChars_cons, Nat.ofDigitChars_nil, toNat_digitChar]

/-- Digits denote a number whatever they are. -/
lemma of_isDigit (ne_nil : digits ≠ []) (h : ∀ c ∈ digits, c.isDigit = true) :
    Digits digits (Nat.ofDigitChars 10 digits 0) := by
  induction digits using List.reverseRecOn with
  | nil => exact absurd rfl ne_nil
  | append_singleton digits c ih =>
      obtain ⟨d, rfl⟩ := exists_digit (h c (by simp))
      by_cases first : digits = []
      · subst first
        rw [List.nil_append, (Digits.one d).value]
        exact .one d
      · have more := (ih first fun c hc => h c (List.mem_append_left _ hc)).more d
        rwa [more.value]

/-- No sign is in front of digits alone. -/
lemma ne_sign {c : Char} (h : Digits (c :: digits) n) : c ≠ '+' ∧ c ≠ '-' := by
  have digit := h.isDigit c (.head _)
  constructor <;>
    · rintro rfl
      exact absurd digit (by decide)

end Digits

/-! ## Reading -/

variable {cs : List Char}

lemma natural?_eq_some_iff {n : Nat} : natural? cs = some n ↔ Digits cs n := by
  rw [natural?, Option.ite_none_right_eq_some, List.all_eq_true]
  constructor
  · rintro ⟨⟨ne_nil, digits⟩, value⟩
    obtain rfl := Option.some.inj value
    exact .of_isDigit ne_nil digits
  · intro h
    exact ⟨⟨h.ne_nil, h.isDigit⟩, congrArg some h.value⟩

lemma unsigned?_eq_some_iff {n : Nat} : unsigned? cs = some n ↔ Unsigned cs n := by
  constructor
  · intro read
    unfold unsigned? at read
    split at read
    next digits => exact .plus (natural?_eq_some_iff.mp read)
    next => exact .plain (natural?_eq_some_iff.mp read)
  · rintro (h | h)
    · unfold unsigned?
      split
      next => exact absurd rfl h.ne_sign.1
      next => exact natural?_eq_some_iff.mpr h
    · exact natural?_eq_some_iff.mpr h

lemma Unsigned.ne_minus {numeral : List Char} {n : Nat} {c : Char}
    (h : Unsigned (c :: numeral) n) : c ≠ '-' := by
  cases h with
  | plain h => exact h.ne_sign.2
  | plus h => decide

lemma signed?_of_minus (digits : List Char) :
    signed? ('-' :: digits) = (natural? digits).map fun n : Nat => -(n : Int) := by
  rw [signed?]
  cases natural? digits <;> rfl

lemma signed?_of_ne (h : ∀ digits, cs ≠ '-' :: digits) :
    signed? cs = (unsigned? cs).map fun n : Nat => (n : Int) := by
  unfold signed?
  split
  next digits => exact absurd rfl (h digits)
  next => cases unsigned? cs <;> rfl

lemma signed?_eq_some_iff {x : Int} : signed? cs = some x ↔ Signed cs x := by
  constructor
  · intro read
    by_cases minus : ∃ digits, cs = '-' :: digits
    · obtain ⟨digits, rfl⟩ := minus
      rw [signed?_of_minus] at read
      obtain ⟨n, value, rfl⟩ := Option.map_eq_some_iff.mp read
      exact .minus (natural?_eq_some_iff.mp value)
    · rw [signed?_of_ne (not_exists.mp minus)] at read
      obtain ⟨n, value, rfl⟩ := Option.map_eq_some_iff.mp read
      exact .unsigned (unsigned?_eq_some_iff.mp value)
  · rintro (h | h)
    · have plain : ∀ digits, cs ≠ '-' :: digits := by
        rintro digits rfl
        exact h.ne_minus rfl
      rw [signed?_of_ne plain, unsigned?_eq_some_iff.mpr h, Option.map_some]
    · rw [signed?_of_minus, natural?_eq_some_iff.mpr h, Option.map_some]

end Numeral

/-- **A word is read from its numerals.** -/
lemma Word.read?_eq_some_iff {text : String} {w : Word} :
    Word.read? text = some w ↔ Numeral.Signed text.toList w.toInt := by
  rw [Word.read?, Option.bind_eq_some_iff, ← Numeral.signed?_eq_some_iff]
  constructor
  · rintro ⟨x, read, fits⟩
    rw [read, Word.ofInt?_eq_some_iff.mp fits]
  · intro read
    exact ⟨_, read, Word.ofInt?_toInt w⟩

/-- **A count is read from its numerals.** -/
lemma Count.read?_eq_some_iff {text : String} {n : Nat} :
    Count.read? text = some n ↔
      Numeral.Unsigned text.toList n ∧ n < 0x10000000000000000 := by
  rw [Count.read?, Option.filter_eq_some_iff, Numeral.unsigned?_eq_some_iff, decide_eq_true_iff]

end StackMachine

import StackMachine.Proofs.Source.Row
import StackMachine.Text.Numeral

/-!
# Numerals that are displayed

A number is displayed in its shortest form, with digits only and a minus sign where it is negative.
That form is read as the number again, and it is one word of source text: a display form never
falls apart when it is read.

* `Row.IsWord` — the words of source text.
* `Word.read?_text`, `Count.read?_toString` — what is displayed is read back.
* `Word.isWord_text`, `Count.isWord_toString` — and it is one word.
-/

namespace StackMachine

/-- **A word of source text**: it is not empty, and no blank and no comment mark is in it. -/
structure Row.IsWord (word : String) : Prop where
  ne_empty : word ≠ ""
  chars : ∀ c ∈ word.toList, Row.isWordChar c = true

instance (word : String) : Decidable (Row.IsWord word) :=
  decidable_of_iff (word ≠ "" ∧ word.toList.all Row.isWordChar = true)
    ⟨fun h => ⟨h.1, List.all_eq_true.mp h.2⟩, fun h => ⟨h.ne_empty, List.all_eq_true.mpr h.chars⟩⟩

namespace Numeral

lemma isDigit_of_mem_toDigits {n : Nat} {c : Char} (hc : c ∈ Nat.toDigits 10 n) :
    c.isDigit = true :=
  Nat.isDigit_of_mem_toDigits (by decide) (by decide) hc

lemma natural?_toDigits (n : Nat) : natural? (Nat.toDigits 10 n) = some n := by
  have hall : (Nat.toDigits 10 n).all Char.isDigit = true :=
    List.all_eq_true.mpr fun _ hc => isDigit_of_mem_toDigits hc
  rw [natural?, if_pos ⟨Nat.toDigits_ne_nil, hall⟩, Nat.ofDigitChars_ten_toDigits]

lemma unsigned?_toDigits (n : Nat) : unsigned? (Nat.toDigits 10 n) = some n := by
  unfold unsigned?
  split
  next plus =>
    have sign : '+' ∈ Nat.toDigits 10 n := by rw [plus]; exact List.mem_cons_self
    exact absurd (isDigit_of_mem_toDigits sign) (by decide)
  next => exact natural?_toDigits n

lemma signed?_toDigits (n : Nat) : signed? (Nat.toDigits 10 n) = some (n : Int) := by
  unfold signed?
  split
  next minus =>
    have sign : '-' ∈ Nat.toDigits 10 n := by rw [minus]; exact List.mem_cons_self
    exact absurd (isDigit_of_mem_toDigits sign) (by decide)
  next => rw [unsigned?_toDigits]; rfl

lemma signed?_minus_toDigits (n : Nat) : signed? ('-' :: Nat.toDigits 10 n) = some (-n : Int) := by
  rw [signed?, natural?_toDigits]
  rfl

lemma isWordChar_of_isDigit {c : Char} (h : c.isDigit = true) : Row.isWordChar c = true := by
  simp only [Row.isWordChar, Row.isBlank, Bool.and_eq_true, Bool.not_eq_true',
    Bool.or_eq_false_iff, decide_eq_false_iff_not, decide_eq_true_eq]
  refine ⟨⟨⟨⟨⟨?_, ?_⟩, ?_⟩, ?_⟩, ?_⟩, ?_⟩ <;>
    · rintro rfl
      exact absurd h (by decide)

end Numeral

open Numeral

lemma Count.lt_of_read? {text : String} {n : Nat} (h : Count.read? text = some n) :
    n < 0x10000000000000000 :=
  of_decide_eq_true (Option.filter_eq_some_iff.mp h).2

lemma Count.read?_toString {n : Nat} (h : n < 0x10000000000000000) :
    Count.read? (toString n) = some n := by
  rw [Count.read?, Nat.toString_eq_repr, Nat.toList_repr, unsigned?_toDigits]
  simp [h]

lemma Count.isWord_toString (n : Nat) : Row.IsWord (toString n) where
  ne_empty := by
    rw [Nat.toString_eq_repr]
    exact Nat.repr_ne_empty
  chars c hc := by
    rw [Nat.toString_eq_repr, Nat.toList_repr] at hc
    exact isWordChar_of_isDigit (isDigit_of_mem_toDigits hc)

/-- The characters of a displayed word: those of its absolute value, behind a minus sign where it is
negative. -/
lemma Word.toList_text (w : Word) :
    w.text.toList = if 0 ≤ w.toInt then Nat.toDigits 10 w.toInt.toNat
      else '-' :: Nat.toDigits 10 (-w.toInt).toNat := by
  rw [Word.text, Int.toString_eq_repr, Int.repr_eq_if]
  split
  · exact Nat.toList_repr
  · rw [String.toList_append, Nat.toList_repr]
    rfl

lemma Word.read?_text (w : Word) : Word.read? w.text = some w := by
  have hvalue : signed? w.text.toList = some w.toInt := by
    rw [Word.toList_text]
    split
    next nonneg => rw [signed?_toDigits, Int.toNat_of_nonneg nonneg]
    next negative =>
      rw [signed?_minus_toDigits, Int.toNat_of_nonneg (by omega), Int.neg_neg]
  rw [Word.read?, hvalue, Option.bind_some, Word.ofInt?_toInt]

lemma Word.isWord_text (w : Word) : Row.IsWord w.text where
  ne_empty h := by
    have hnil := congrArg String.toList h
    rw [Word.toList_text] at hnil
    split at hnil
    · exact Nat.toDigits_ne_nil hnil
    · exact nomatch hnil
  chars c hc := by
    rw [Word.toList_text] at hc
    split at hc
    · exact isWordChar_of_isDigit (isDigit_of_mem_toDigits hc)
    · rcases List.mem_cons.mp hc with rfl | hdigit
      · decide
      · exact isWordChar_of_isDigit (isDigit_of_mem_toDigits hdigit)

end StackMachine

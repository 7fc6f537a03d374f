import StackMachine.Proofs.Display.Numeral
import StackMachine.Proofs.Reading.Forms

/-!
# Lines that are written and read

A text in which no line ends, written with a line feed behind it, is read as one line, and what
follows it stays.  The decimal form of a word is such a text, and so is a single character other
than a line feed or a carriage return; the words that they are read as are the ones that they were
written for.

* `Console.Lined` — a text in which no line ends.
* `Console.firstLine_of_lined`, `Console.line_of_lined` — how it is read.
* `numberOfLine_text`, `codeOfLine_toString` — the word that it is read as.
* `characterOfCode_wrap` — how a character is written.
-/

namespace StackMachine

/-! ## One line -/

namespace Console

lemma tests_lineFeed : Tests (· ≠ lineFeed) (· ≠ '\n') := by
  refine Tests.of_ascii true (by decide) ?_ ?_
  · intro byte hbyte
    refine decide_eq_true ?_
    rintro rfl
    exact absurd hbyte (by decide)
  · intro c hc
    refine decide_eq_true ?_
    rintro rfl
    exact absurd hc (by decide)

/-- **A text in which no line ends.** -/
def Lined (text : List Char) : Prop := ∀ c ∈ text, isLineEnd c = false

/-- The bytes of a text that is a line, with its line feed. -/
def written (text : List Char) : List UInt8 := utf8 text ++ [lineFeed]

section Lined

variable {text : List Char} (h : Lined text) (rest : List UInt8)
include h

/-- The first line is read up to its line feed. -/
lemma firstLine_of_lined : firstLine (written text ++ rest) = (written text, rest) := by
  have inside : ∀ byte ∈ utf8 text, decide (byte ≠ lineFeed) = true := by
    intro byte hbyte
    obtain ⟨c, hc, mem⟩ := List.mem_flatMap.mp hbyte
    have unended := h c hc
    simp only [isLineEnd, Bool.or_eq_false_iff, decide_eq_false_iff_not] at unended
    exact (tests_lineFeed c byte mem).trans (decide_eq_true unended.1)
  have bytes : written text ++ rest = utf8 text ++ lineFeed :: rest := by
    rw [written, List.append_assoc, List.singleton_append]
  have htake : (written text ++ rest).takeWhile (· ≠ lineFeed) = utf8 text := by
    rw [bytes, List.takeWhile_append_of_pos inside, List.takeWhile_cons_of_neg (by decide),
      List.append_nil]
  have hdrop : (written text ++ rest).dropWhile (· ≠ lineFeed) = lineFeed :: rest := by
    rw [bytes, List.dropWhile_append_of_pos inside, List.dropWhile_cons_of_neg (by decide)]
  simp only [firstLine, htake, hdrop]
  rfl

/-- The line that is read is the text. -/
lemma line_of_lined : line (written text ++ rest) = .ok (String.ofList text) := by
  have nonempty : written text ++ rest ≠ [] := by simp [written]
  have first : (lines (written text ++ rest)).head? = some (written text) := by
    rw [lines_eq_cons nonempty, firstLine_of_lined h, List.head?_cons]
  refine line_of_bears first ⟨['\n'], ?_, by simp [isLineEnd], ?_⟩
  · rw [utf8_append]
    rfl
  · exact fun c hc => h c (List.mem_of_getLast? hc)

end Lined

end Console

/-! ## What is written in a line -/

namespace Word

/-- The characters of a displayed word: digits, and perhaps a minus sign. -/
lemma isDigit_or_minus_of_mem_text {w : Word} {c : Char} (hc : c ∈ w.text.toList) :
    c.isDigit = true ∨ c = '-' := by
  rw [toList_text] at hc
  split at hc
  · exact .inl (Numeral.isDigit_of_mem_toDigits hc)
  · rcases List.mem_cons.mp hc with rfl | digit
    · exact .inr rfl
    · exact .inl (Numeral.isDigit_of_mem_toDigits digit)

lemma lined_text (w : Word) : Console.Lined w.text.toList := by
  intro c hc
  rcases isDigit_or_minus_of_mem_text hc with digit | rfl
  · simp only [Console.isLineEnd, Bool.or_eq_false_iff, decide_eq_false_iff_not]
    constructor <;>
      · rintro rfl
        exact absurd digit (by decide)
  · decide

end Word

/-- A word is read as itself. -/
lemma numberOfLine_text (w : Word) : numberOfLine w.text = .ok w := by
  have signed : Numeral.Signed w.text.toList w.toInt := Word.read?_eq_some_iff.mp w.read?_text
  have accepts : Instruction.Accepts (.system .readNumber) ([] ++ w.text.toList ++ []) w :=
    .number (by simp) (by simp) signed
  rw [List.nil_append, List.append_nil] at accepts
  have read := Instruction.numberOfLine_eq_ok_iff.mpr accepts
  rwa [String.ofList_toList] at read

/-- A character is read as its code. -/
lemma codeOfLine_toString (c : Char) : codeOfLine c.toString = .ok (Word.wrap c.toNat) := by
  rw [codeOfLine, Char.toString, String.toList_singleton]

lemma ofNatAux_toNat {n : Nat} (h : n.isValidChar) {c : Char} (same : n = c.toNat) :
    Char.ofNatAux n h = c := by
  subst same
  exact Char.ext rfl

/-- The code of a character is written as the character. -/
lemma characterOfCode_wrap (c : Char) : characterOfCode (Word.wrap c.toNat) = .ok c := by
  have code : (Word.wrap c.toNat).toInt.toNat = c.toNat := by
    rw [Word.toInt_wrap_toNat, Int.toNat_natCast]
  have valid : 0 ≤ (Word.wrap c.toNat).toInt ∧ (Word.wrap c.toNat).toInt.toNat.isValidChar := by
    rw [code, Word.toInt_wrap_toNat]
    exact ⟨Int.natCast_nonneg _, c.valid⟩
  rw [characterOfCode, dif_pos valid, ofNatAux_toNat valid.2 code]

end StackMachine

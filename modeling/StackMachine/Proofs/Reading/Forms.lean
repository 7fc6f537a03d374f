import StackMachine.Proofs.Delivery.Reads
import StackMachine.Proofs.Reading.Lines
import StackMachine.Proofs.Reading.Numeral

/-!
# The forms of lines

An instruction that reads asks for a line of a certain form: a signed numeral with any blanks around
it, or a single character.  The forms are given by rules, and a word is taken from a line exactly
when these rules give it one.  So there are four things that a read can hear: a word, a text that
has not the form, noise that is no text, and nothing at all.

* `Instruction.Accepts` — the forms.
* `Instruction.wordOfLine_eq_ok_iff`, `Instruction.wordOfLine_refuses` — that they are exact.
* `Instruction.heard` — what a read hears, and each of its cases.
-/

namespace StackMachine

/-! ## Forms -/

/-- **The form of a line that an instruction asks for**, and the word that is pushed. -/
inductive Instruction.Accepts : Instruction → List Char → Word → Prop where
  /-- A signed numeral that fits a word, with Unicode blanks around it or without. -/
  | number {before numeral behind : List Char} {w : Word}
      (hbefore : ∀ c ∈ before, Blank.isUnicode c = true)
      (hbehind : ∀ c ∈ behind, Blank.isUnicode c = true)
      (h : Numeral.Signed numeral w.toInt) :
      Accepts (.system .readNumber) (before ++ numeral ++ behind) w
  /-- One character. -/
  | character {c : Char} {w : Word} (h : w.toInt = c.toNat) :
      Accepts (.system .readCharacter) [c] w

/-- The code of a character fits a word. -/
lemma Word.toInt_wrap_toNat (c : Char) : (Word.wrap c.toNat).toInt = c.toNat := by
  have small : c.toNat < 0x110000 := by
    rcases c.valid with h | h
    · exact Nat.lt_trans h (by decide)
    · exact h.2
  refine Word.toInt_wrap ⟨by omega, by omega⟩

namespace Numeral

lemma not_isUnicode_of_isDigit {c : Char} (h : c.isDigit = true) : Blank.isUnicode c = false := by
  obtain ⟨zero, nine⟩ : 48 ≤ c.toNat ∧ c.toNat ≤ 57 := Char.isDigit_iff_toNat.mp h
  simp only [Blank.isUnicode, Bool.or_eq_false_iff, Bool.and_eq_false_iff, decide_eq_false_iff_not]
  omega

lemma Digits.not_isUnicode {digits : List Char} {n : Nat} (h : Digits digits n) :
    ∀ c ∈ digits, Blank.isUnicode c = false :=
  fun c hc => not_isUnicode_of_isDigit (h.isDigit c hc)

/-- There is something in a numeral, and no blank. -/
lemma Signed.solid {numeral : List Char} {x : Int} (h : Signed numeral x) :
    numeral ≠ [] ∧ ∀ c ∈ numeral, Blank.isUnicode c = false := by
  rcases h with (h | h) | h
  · exact ⟨h.ne_nil, h.not_isUnicode⟩
  · exact ⟨List.cons_ne_nil _ _, List.forall_mem_cons.mpr ⟨by decide, h.not_isUnicode⟩⟩
  · exact ⟨List.cons_ne_nil _ _, List.forall_mem_cons.mpr ⟨by decide, h.not_isUnicode⟩⟩

end Numeral

namespace Instruction

variable {ins : Instruction} {text : List Char} {w : Word}

lemma numberOfLine_eq_ok_iff :
    numberOfLine (String.ofList text) = .ok w ↔ Accepts (.system .readNumber) text w := by
  have read : numberOfLine (String.ofList text) = .ok w ↔
      Word.read? (String.ofList (Blank.trim text)) = some w := by
    rw [numberOfLine, String.toList_ofList]
    cases Word.read? (String.ofList (Blank.trim text)) <;> simp
  rw [read, Word.read?_eq_some_iff, String.toList_ofList]
  constructor
  · intro signed
    obtain ⟨before, behind, same, hbefore, hbehind⟩ := Blank.exists_trim text
    rw [same]
    exact .number hbefore hbehind signed
  · rintro ⟨hbefore, hbehind, signed⟩
    rwa [Blank.trim_append hbefore hbehind signed.solid.2 signed.solid.1]

lemma codeOfLine_eq_ok_iff :
    codeOfLine (String.ofList text) = .ok w ↔ Accepts (.system .readCharacter) text w := by
  rw [codeOfLine, String.toList_ofList]
  constructor
  · intro read
    split at read
    next c =>
      obtain rfl := Except.ok.inj read
      exact .character (Word.toInt_wrap_toNat c)
    next => cases read
  · intro accepts
    cases accepts with
    | @character c _ value =>
        have same : Word.wrap c.toNat = w := by
          rw [← value, Word.wrap_toInt]
        rw [← same]

/-- **A word is taken from the lines that have the form asked for.** -/
lemma wordOfLine_eq_ok_iff (reads : ins.reads = true) :
    ins.wordOfLine (String.ofList text) = .ok w ↔ ins.Accepts text w := by
  rcases eq_of_reads reads with rfl | rfl
  · rw [wordOfLine_readNumber, numberOfLine_eq_ok_iff]
  · rw [wordOfLine_readCharacter, codeOfLine_eq_ok_iff]

/-- A line of another form is reported. -/
lemma wordOfLine_refuses (ins : Instruction) {line : String} {error : MachineError}
    (h : ins.wordOfLine line = .error error) : error = .invalidInput line := by
  have number : numberOfLine line = .error error → error = .invalidInput line := by
    rw [numberOfLine]
    cases Word.read? (String.ofList (Blank.trim line.toList)) <;> simp [eq_comm]
  have code : codeOfLine line = .error error → error = .invalidInput line := by
    rw [codeOfLine]
    split <;> simp [eq_comm]
  unfold wordOfLine at h
  split at h
  next => exact code h
  next => exact number h

/-! ## What is heard -/

/-- What an instruction hears from some input: the word on its first line, or what is wrong. -/
def heard (ins : Instruction) (input : List UInt8) : Except MachineError Word := do
  ins.wordOfLine (← Console.line input)

variable {input bytes : List UInt8}

lemma heard_of_bears (h : (Console.lines input).head? = some bytes)
    (bears : Console.Bears bytes text) : ins.heard input = ins.wordOfLine (String.ofList text) := by
  rw [heard, Console.line_of_bears h bears]
  rfl

lemma heard_of_none (h : (Console.lines input).head? = none) :
    ins.heard input = .error .endOfInput := by
  rw [heard, Console.line_of_none h]
  rfl

lemma heard_of_noise (h : (Console.lines input).head? = some bytes)
    (noise : ∀ text, utf8 text ≠ bytes) : ins.heard input = .error .inputNotUtf8 := by
  rw [heard, Console.line_of_noise h noise]
  rfl

/-- **There is nothing to hear, or noise, or a text.** -/
lemma heard_cases (ins : Instruction) (input : List UInt8) :
    ((Console.lines input).head? = none ∧ ins.heard input = .error .endOfInput) ∨
    (∃ bytes, (Console.lines input).head? = some bytes ∧ (∀ text, utf8 text ≠ bytes) ∧
      ins.heard input = .error .inputNotUtf8) ∨
    ∃ bytes text, (Console.lines input).head? = some bytes ∧ Console.Bears bytes text ∧
      ins.heard input = ins.wordOfLine (String.ofList text) := by
  cases h : (Console.lines input).head? with
  | none => exact .inl ⟨rfl, heard_of_none h⟩
  | some bytes =>
      by_cases noise : ∀ text, utf8 text ≠ bytes
      · exact .inr (.inl ⟨bytes, rfl, noise, heard_of_noise h noise⟩)
      · obtain ⟨text, rfl⟩ : ∃ text, utf8 text = bytes := by simpa using noise
        obtain ⟨borne, bears⟩ := Console.exists_bears text
        exact .inr (.inr ⟨_, borne, rfl, bears, heard_of_bears h bears⟩)

/-- **The input has ended** when there is no line. -/
lemma heard_eq_endOfInput_iff :
    ins.heard input = .error .endOfInput ↔ (Console.lines input).head? = none := by
  refine ⟨fun ended => ?_, heard_of_none⟩
  rcases ins.heard_cases input with ⟨h, -⟩ | ⟨bytes, -, -, garbled⟩ | ⟨bytes, text, -, -, word⟩
  · exact h
  · cases garbled.symm.trans ended
  · cases ins.wordOfLine_refuses (word.symm.trans ended)

/-- **A line is noise** when it is not the bytes of any text. -/
lemma heard_eq_inputNotUtf8_iff : ins.heard input = .error .inputNotUtf8 ↔
    ∃ bytes, (Console.lines input).head? = some bytes ∧ ∀ text, utf8 text ≠ bytes := by
  refine ⟨fun garbled => ?_, fun ⟨bytes, h, noise⟩ => heard_of_noise h noise⟩
  rcases ins.heard_cases input with ⟨-, ended⟩ | ⟨bytes, h, noise, -⟩ | ⟨bytes, text, -, -, word⟩
  · cases ended.symm.trans garbled
  · exact ⟨bytes, h, noise⟩
  · cases ins.wordOfLine_refuses (word.symm.trans garbled)

/-- A word is only heard in a text. -/
lemma exists_text_of_heard (read : ins.heard input = .ok w) :
    ∃ bytes text, (Console.lines input).head? = some bytes ∧ Console.Bears bytes text := by
  rcases ins.heard_cases input with ⟨-, ended⟩ | ⟨bytes, -, -, garbled⟩ | ⟨bytes, text, h, bears, -⟩
  · cases ended.symm.trans read
  · cases garbled.symm.trans read
  · exact ⟨bytes, text, h, bears⟩

section Text

variable (h : (Console.lines input).head? = some bytes) (bears : Console.Bears bytes text)
  (reads : ins.reads = true)
include h bears reads

/-- **A word is heard** in a text that has the form asked for. -/
lemma heard_eq_ok_iff : ins.heard input = .ok w ↔ ins.Accepts text w := by
  rw [heard_of_bears h bears, wordOfLine_eq_ok_iff reads]

/-- **A text is refused** when it has not that form. -/
lemma heard_eq_invalidInput_iff :
    ins.heard input = .error (.invalidInput (String.ofList text)) ↔ ∀ w, ¬ ins.Accepts text w := by
  constructor
  · intro refused w accepts
    rw [(heard_eq_ok_iff h bears reads).mpr accepts] at refused
    cases refused
  · intro none
    cases word : ins.heard input with
    | ok w => exact absurd ((heard_eq_ok_iff h bears reads).mp word) (none w)
    | error error => rw [ins.wordOfLine_refuses ((heard_of_bears h bears).symm.trans word)]

end Text

end Instruction

end StackMachine

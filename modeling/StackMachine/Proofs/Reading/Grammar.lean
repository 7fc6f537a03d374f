import StackMachine.Instruction.Decode
import StackMachine.Proofs.Reading.Numeral

/-!
# The rows that are instructions

A row is read by looking at its first word and then at the others.  Here the rows that are
instructions are listed: for each kind of operand the mnemonics that go with it, and how the operand
is written.  A row is read as an instruction exactly when it is in this list, and it is then read as
the instruction that stands there.  Every other row is kept as it is.

* `Instruction.bareForms`, `Instruction.wordForms` and the like — mnemonics by kind of operand.
* `Instruction.Denotes` — the grammar of rows.
* `Instruction.decode?_eq_some_iff` — reading follows it.
* `decode_iff_grammar` — every row, instruction or not.
-/

namespace StackMachine

namespace Instruction

/-! ## The grammar -/

/-- The instructions without operands. -/
def bareForms : List (String × Instruction) :=
  [("NOP", .nop), ("HALT", .halt), ("DUP", .dup), ("SWAP", .swap)]

/-- The instructions with a signed number. -/
def wordForms : List (String × (Word → Instruction)) :=
  [("LIT", .literal), ("LLV", .loadLocal), ("LGV", .loadGlobal), ("SLV", .storeLocal),
    ("SGV", .storeGlobal), ("LLA", .localAddress), ("LGA", .globalAddress)]

/-- The instructions with an unsigned number. -/
def countForms : List (String × (Nat → Instruction)) :=
  [("POP", .pop), ("CALL", .call), ("RTN", .ret)]

/-- The instructions with one label. -/
def labelForms : List (String × (String → Instruction)) := [("GOTO", .goto), ("CODE", .code)]

/-- **The words that denote an instruction.**  A number is written as any numeral that has its
value, an operator or a system call as its own word, and a label as any word. -/
inductive Denotes : List String → Instruction → Prop where
  | bare {mnemonic : String} {ins : Instruction} (form : (mnemonic, ins) ∈ bareForms) :
      Denotes [mnemonic] ins
  | word {mnemonic operand : String} {make : Word → Instruction} {w : Word}
      (form : (mnemonic, make) ∈ wordForms) (value : Numeral.Signed operand.toList w.toInt) :
      Denotes [mnemonic, operand] (make w)
  | count {mnemonic operand : String} {make : Nat → Instruction} {n : Nat}
      (form : (mnemonic, make) ∈ countForms) (value : Numeral.Unsigned operand.toList n)
      (small : n < 0x10000000000000000) : Denotes [mnemonic, operand] (make n)
  | unary (op : UnaryOp) : Denotes ["UOP", Mnemonic.text op] (.unary op)
  | binary (op : BinaryOp) : Denotes ["BOP", Mnemonic.text op] (.binary op)
  | system (service : SystemCall) : Denotes ["SOS", Mnemonic.text service] (.system service)
  | label {mnemonic : String} {make : String → Instruction} (form : (mnemonic, make) ∈ labelForms)
      (name : String) : Denotes [mnemonic, name] (make name)
  | branch (yes no : String) : Denotes ["COND", yes, no] (.branch yes no)

/-- The first word is the mnemonic of the instruction. -/
lemma Denotes.mnemonic?_eq {words : List String} {ins : Instruction} (h : Denotes words ins) :
    ∃ mnemonic operands, words = mnemonic :: operands ∧ ins.mnemonic? = some mnemonic := by
  have bare : ∀ form ∈ bareForms, form.2.mnemonic? = some form.1 := by
    simp [bareForms, mnemonic?]
  have word : ∀ form ∈ wordForms, ∀ w, (form.2 w).mnemonic? = some form.1 := by
    simp [wordForms, mnemonic?]
  have count : ∀ form ∈ countForms, ∀ n, (form.2 n).mnemonic? = some form.1 := by
    simp [countForms, mnemonic?]
  have label : ∀ form ∈ labelForms, ∀ name, (form.2 name).mnemonic? = some form.1 := by
    simp [labelForms, mnemonic?]
  cases h with
  | bare form => exact ⟨_, _, rfl, bare _ form⟩
  | word form value => exact ⟨_, _, rfl, word _ form _⟩
  | count form value small => exact ⟨_, _, rfl, count _ form _⟩
  | label form name => exact ⟨_, _, rfl, label _ form name⟩
  | unary op | binary op | system service | branch yes no => exact ⟨_, _, rfl, rfl⟩

/-- A row that is not an instruction is none of them. -/
lemma Denotes.ne_unknown {words : List String} {ins : Instruction} (h : Denotes words ins)
    (row : String) : ins ≠ .unknown row := by
  rintro rfl
  obtain ⟨mnemonic, operands, -, opens⟩ := h.mnemonic?_eq
  exact nomatch opens

/-! ## Reading -/

lemma bare?_eq_some_iff {mnemonic : String} {ins : Instruction} :
    bare? mnemonic = some ins ↔ (mnemonic, ins) ∈ bareForms := by
  simp only [bareForms, List.mem_cons, Prod.mk.injEq, List.not_mem_nil, or_false]
  constructor
  · intro read
    unfold bare? at read
    split at read
    case h_5 => exact nomatch read
    all_goals
      obtain rfl := Option.some.inj read
      simp
  · rintro (⟨rfl, rfl⟩ | ⟨rfl, rfl⟩ | ⟨rfl, rfl⟩ | ⟨rfl, rfl⟩) <;> rfl

lemma withOperand?_of_denotes {mnemonic operand : String} {ins : Instruction}
    (h : Denotes [mnemonic, operand] ins) : withOperand? mnemonic operand = some ins := by
  cases h with
  | word form value =>
      have read := Word.read?_eq_some_iff.mpr value
      simp only [wordForms, List.mem_cons, Prod.mk.injEq, List.not_mem_nil, or_false] at form
      rcases form with ⟨rfl, rfl⟩ | ⟨rfl, rfl⟩ | ⟨rfl, rfl⟩ | ⟨rfl, rfl⟩ | ⟨rfl, rfl⟩ | ⟨rfl, rfl⟩ |
        ⟨rfl, rfl⟩ <;> simp only [withOperand?, read, Option.map_some]
  | count form value small =>
      have read := Count.read?_eq_some_iff.mpr ⟨value, small⟩
      simp only [countForms, List.mem_cons, Prod.mk.injEq, List.not_mem_nil, or_false] at form
      rcases form with ⟨rfl, rfl⟩ | ⟨rfl, rfl⟩ | ⟨rfl, rfl⟩ <;>
        simp only [withOperand?, read, Option.map_some]
  | unary op | binary op | system service =>
      simp only [withOperand?, Mnemonic.read?_text, Option.map_some]
  | label form name =>
      simp only [labelForms, List.mem_cons, Prod.mk.injEq, List.not_mem_nil, or_false] at form
      rcases form with ⟨rfl, rfl⟩ | ⟨rfl, rfl⟩ <;> rfl

lemma denotes_of_withOperand? {mnemonic operand : String} {ins : Instruction}
    (read : withOperand? mnemonic operand = some ins) : Denotes [mnemonic, operand] ins := by
  unfold withOperand? at read
  split at read
  case h_1 | h_2 | h_3 | h_4 | h_5 | h_6 | h_7 =>
    obtain ⟨w, value, rfl⟩ := Option.map_eq_some_iff.mp read
    exact .word (by simp [wordForms]) (Word.read?_eq_some_iff.mp value)
  case h_8 =>
    obtain ⟨op, value, rfl⟩ := Option.map_eq_some_iff.mp read
    obtain rfl := Mnemonic.read?_eq_some_iff.mp value
    exact .unary op
  case h_9 =>
    obtain ⟨op, value, rfl⟩ := Option.map_eq_some_iff.mp read
    obtain rfl := Mnemonic.read?_eq_some_iff.mp value
    exact .binary op
  case h_10 =>
    obtain ⟨service, value, rfl⟩ := Option.map_eq_some_iff.mp read
    obtain rfl := Mnemonic.read?_eq_some_iff.mp value
    exact .system service
  case h_11 | h_12 | h_13 =>
    obtain ⟨n, value, rfl⟩ := Option.map_eq_some_iff.mp read
    obtain ⟨numeral, small⟩ := Count.read?_eq_some_iff.mp value
    exact .count (by simp [countForms]) numeral small
  case h_14 | h_15 =>
    obtain rfl := Option.some.inj read
    exact .label (by simp [labelForms]) operand
  case h_16 => exact nomatch read

/-- **A row is read as an instruction exactly when its words denote it.** -/
lemma decode?_eq_some_iff {words : List String} {ins : Instruction} :
    decode? words = some ins ↔ Denotes words ins := by
  constructor
  · intro read
    unfold decode? at read
    split at read
    next mnemonic => exact .bare (bare?_eq_some_iff.mp read)
    next mnemonic operand => exact denotes_of_withOperand? read
    next mnemonic yes no =>
      obtain ⟨rfl, read⟩ := Option.ite_none_right_eq_some.mp read
      obtain rfl := Option.some.inj read
      exact .branch yes no
    next => exact nomatch read
  · intro h
    cases h with
    | bare form => exact bare?_eq_some_iff.mpr form
    | branch yes no => rfl
    | word form value => exact withOperand?_of_denotes (.word form value)
    | count form value small => exact withOperand?_of_denotes (.count form value small)
    | unary op => exact withOperand?_of_denotes (.unary op)
    | binary op => exact withOperand?_of_denotes (.binary op)
    | system service => exact withOperand?_of_denotes (.system service)
    | label form name => exact withOperand?_of_denotes (.label form name)

end Instruction

open Instruction in
/-- **Reading follows the grammar.**  Any list of words is read as an instruction exactly when the
words denote it.  Otherwise they are kept as an unknown row, with single blanks between them. -/
theorem decode_iff_grammar (words : List String) :
    (∀ ins, (∀ row, ins ≠ .unknown row) → (decode words = ins ↔ Denotes words ins)) ∧
    ((∃ row, decode words = .unknown row) ↔ ∀ ins, ¬ Denotes words ins) ∧
    ∀ row, decode words = .unknown row → row = " ".intercalate words := by
  cases read : decode? words with
  | some ins =>
      have denotes := decode?_eq_some_iff.mp read
      have same : decode words = ins := by rw [decode, read, Option.getD_some]
      rw [same]
      refine ⟨?_, ⟨?_, ?_⟩, ?_⟩
      · intro other known
        constructor
        · rintro rfl
          exact denotes
        · intro h
          exact Option.some.inj (read.symm.trans (decode?_eq_some_iff.mpr h))
      · rintro ⟨row, unknown⟩
        exact absurd unknown (denotes.ne_unknown row)
      · intro none
        exact absurd denotes (none ins)
      · intro row unknown
        exact absurd unknown (denotes.ne_unknown row)
  | none =>
      have none : ∀ ins, ¬ Denotes words ins := by
        intro ins h
        exact nomatch read.symm.trans (decode?_eq_some_iff.mpr h)
      have same : decode words = .unknown (" ".intercalate words) := by
        rw [decode, read, Option.getD_none]
      rw [same]
      refine ⟨?_, ⟨fun _ => none, fun _ => ⟨_, rfl⟩⟩, ?_⟩
      · intro other known
        constructor
        · rintro rfl
          exact absurd rfl (known _)
        · intro h
          exact absurd h (none other)
      · intro row unknown
        exact (Instruction.unknown.inj unknown).symm

/-- Zeros in front do no harm, but an unsigned number has no minus sign and a mnemonic no small
letter. -/
example : Instruction.decode ["LIT", "-0007"] = .literal (Word.wrap (-7)) ∧
    Instruction.decode ["POP", "-0"] = .unknown "POP -0" ∧
    Instruction.decode ["Halt"] = .unknown "Halt" := by decide

end StackMachine

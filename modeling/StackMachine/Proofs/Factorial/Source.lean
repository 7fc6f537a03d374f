import StackMachine.Proofs.Loading.Layout
import StackMachine.Proofs.Reading.Numeral

/-!
# The source of a recursive routine

The routine computes factorials.  Its argument is the first word of its frame.  Up to one it returns
one, and above it calls itself with one less, from above two copies of its argument of which the
second one becomes a factor.  The text begins with a literal, the argument of the first call.

* `Factorial.source`, `Factorial.code` — the text and its instructions.
* `Program.IsFactorial` — what a run of them has to know of the program.
* `Factorial.exists_loaded` — the text is loaded as such a program, in whatever form the literal is
  written.
-/

namespace StackMachine

/-! ## Numerals in source texts -/

lemma Numeral.Digits.isWordChar {digits : List Char} {n : Nat} (h : Digits digits n) :
    ∀ c ∈ digits, Row.isWordChar c = true :=
  fun c mem => isWordChar_of_isDigit (h.isDigit c mem)

lemma Numeral.Signed.isWordChar {numeral : List Char} {x : Int} (h : Signed numeral x) :
    numeral ≠ [] ∧ ∀ c ∈ numeral, Row.isWordChar c = true := by
  have signed : ∀ {sign : Char} {digits : List Char} {n : Nat}, Row.isWordChar sign = true →
      Digits digits n → ∀ c ∈ sign :: digits, Row.isWordChar c = true := by
    intro sign digits n first rest c mem
    rcases List.mem_cons.mp mem with rfl | mem
    · exact first
    · exact rest.isWordChar c mem
  rcases h with (h | h) | h
  · exact ⟨h.ne_nil, h.isWordChar⟩
  · exact ⟨List.cons_ne_nil _ _, signed (by decide) h⟩
  · exact ⟨List.cons_ne_nil _ _, signed (by decide) h⟩

/-- Every numeral is one word of source text. -/
lemma Word.isWord_of_read? {numeral : String} {w : Word} (h : Word.read? numeral = some w) :
    Row.IsWord numeral := by
  obtain ⟨nonempty, chars⟩ := (Word.read?_eq_some_iff.mp h).isWordChar
  exact ⟨by simpa using nonempty, chars⟩

/-- No word ends a line. -/
lemma Row.IsWord.unended {word : String} (h : IsWord word) :
    '\n' ∉ word.toList ∧ '\r' ∉ word.toList := by
  have solid := fun c (mem : c ∈ word.toList) => (of_isWordChar (h.chars c mem)).1
  exact ⟨fun mem => absurd (solid _ mem) (by decide), fun mem => absurd (solid _ mem) (by decide)⟩

/-- The row of a line with two words, of which the second one is known to be a word. -/
lemma Row.ofChars_operand {front : List Char} {mnemonic operand : String}
    (before : Row.ofChars front = ⟨"", [mnemonic]⟩) (unmarked : '#' ∉ front)
    (isWord : Row.IsWord operand) :
    Row.ofChars (front ++ [' '] ++ operand.toList) = ⟨"", [mnemonic, operand]⟩ := by
  have one : ∀ word ∈ [operand], IsWord word := by
    intro word mem
    rwa [List.mem_singleton.mp mem]
  have marks : ∀ c ∈ operand.toList, decide (c ≠ '#') = true :=
    fun c mem => decide_eq_true (of_isWordChar (isWord.chars c mem)).2
  have piece := pieces_of_words one
  rw [List.map_singleton, List.intercalate_singleton] at piece
  rw [ofChars_gap unmarked (by simp) (by simp [isBlank]), List.takeWhile_eq_self_iff.mpr marks,
    piece, before, List.map_singleton, String.ofList_toList, List.singleton_append]

/-! ## The program -/

namespace Factorial

/-- The lines behind the first one. -/
def body : List String :=
  ["      CODE fact",
    "      CALL 0",
    "      SOS OUTPUT",
    "      HALT",
    "fact  LLV 0",
    "      LIT 1",
    "      BOP BLE",
    "      COND base rec",
    "base  LIT 1",
    "      RTN 1",
    "rec   LLV 0",
    "      LLV 0",
    "      UOP UPRED",
    "      CODE fact",
    "      CALL 2",
    "      BOP BMULT",
    "      RTN 1"]

/-- **The source**, with a numeral for the argument. -/
def source (numeral : String) : String :=
  String.join ((("      LIT " ++ numeral) :: body).map (· ++ "\n"))

/-- The instructions, with the argument. -/
def code (n : Word) : List Instruction :=
  [.literal n, .code "fact", .call 0, .system .writeNumber, .halt,
    .loadLocal 0, .literal 1, .binary .atMost, .branch "base" "rec",
    .literal 1, .ret 1,
    .loadLocal 0, .loadLocal 0, .unary .predecessor, .code "fact", .call 2, .binary .times, .ret 1]

end Factorial

/-- **A program that computes a factorial**: its instructions, and where the labels point. -/
structure Program.IsFactorial (program : Program) (n : Word) : Prop where
  code : program.instructions.toList = Factorial.code n
  fact : program.label "fact" = .ok 5
  base : program.label "base" = .ok 9
  again : program.label "rec" = .ok 11

lemma Program.IsFactorial.fetched {program : Program} {n : Word} (h : program.IsFactorial n)
    {index : Nat} {ins : Instruction} (here : (Factorial.code n)[index]? = some ins) :
    program.instructions[index]? = some ins := by
  rw [← Array.getElem?_toList, h.code, here]

namespace Factorial

/-- The rows of the lines behind the first one. -/
def bodyRows : List Row :=
  [⟨"", ["CODE", "fact"]⟩, ⟨"", ["CALL", "0"]⟩, ⟨"", ["SOS", "OUTPUT"]⟩, ⟨"", ["HALT"]⟩,
    ⟨"fact", ["LLV", "0"]⟩, ⟨"", ["LIT", "1"]⟩, ⟨"", ["BOP", "BLE"]⟩, ⟨"", ["COND", "base", "rec"]⟩,
    ⟨"base", ["LIT", "1"]⟩, ⟨"", ["RTN", "1"]⟩,
    ⟨"rec", ["LLV", "0"]⟩, ⟨"", ["LLV", "0"]⟩, ⟨"", ["UOP", "UPRED"]⟩, ⟨"", ["CODE", "fact"]⟩,
    ⟨"", ["CALL", "2"]⟩, ⟨"", ["BOP", "BMULT"]⟩, ⟨"", ["RTN", "1"]⟩]

section Loading

variable {numeral : String} {n : Word} (reads : Word.read? numeral = some n)
include reads

lemma rows_source : (Source.lines (source numeral).toList).map Row.ofChars =
    ⟨"", ["LIT", numeral]⟩ :: bodyRows := by
  have isWord := Word.isWord_of_read? reads
  have first : Row.ofChars ("      LIT".toList ++ [' '] ++ numeral.toList) =
      ⟨"", ["LIT", numeral]⟩ := Row.ofChars_operand (by decide +kernel) (by decide) isWord
  have rest : (body.map String.toList).map Row.ofChars = bodyRows := by decide +kernel
  have plain : ∀ line ∈ body.map String.toList, '\n' ∉ line ∧ '\r' ∉ line := by decide
  have ended : ∀ line ∈ ("      LIT".toList ++ [' '] ++ numeral.toList) :: body.map String.toList,
      '\n' ∉ line ∧ '\r' ∉ line := by
    intro line mem
    rcases List.mem_cons.mp mem with rfl | mem
    · have front : '\n' ∉ "      LIT".toList ++ [' '] ∧ '\r' ∉ "      LIT".toList ++ [' '] := by
        decide
      have back := isWord.unended
      exact ⟨mt List.mem_append.mp (not_or.mpr ⟨front.1, back.1⟩),
        mt List.mem_append.mp (not_or.mpr ⟨front.2, back.2⟩)⟩
    · exact plain line mem
  have text : (source numeral).toList = (("      LIT".toList ++ [' '] ++ numeral.toList) ::
      body.map String.toList).flatMap (· ++ ['\n']) := by
    simp [source, String.toList_join, List.flatMap_map]
  rw [text, Source.lines_of_ended ended, List.map_cons, first, rest]

omit reads in
/-- A label points to the last row that bears it. -/
lemma label_of_body (k : Nat) (row : Row) (here : bodyRows[k]? = some row) (label : row.label ≠ "")
    (last : ∀ later ∈ bodyRows.drop (k + 1), later.label ≠ row.label)
    (counted : (bodyRows.take k).countP Row.carries = k) :
    (Program.ofRows (⟨"", ["LIT", numeral]⟩ :: bodyRows)).program.label row.label =
      .ok (k + 1) := by
  have split : bodyRows = bodyRows.take k ++ row :: bodyRows.drop (k + 1) := by
    obtain ⟨inside, rfl⟩ := List.getElem?_eq_some_iff.mp here
    rw [List.getElem_cons_drop, List.take_append_drop]
  have before : (⟨"", ["LIT", numeral]⟩ :: bodyRows.take k).countP Row.carries = k + 1 := by
    rw [List.countP_cons_of_pos (by simp [Row.carries]), counted]
  have place : (Draft.ofRows (⟨"", ["LIT", numeral]⟩ :: bodyRows.take k ++
      row :: bodyRows.drop (k + 1))).place? row.label = some _ :=
    Draft.place?_ofRows_of_last label last
  rw [before, List.cons_append, ← split] at place
  exact (Program.label_ofRows_eq_ok_iff _ _ _).mpr place

/-- **The source is loaded as a program that computes a factorial.** -/
theorem exists_loaded : ∃ loaded, Program.ofSource? (source numeral) = .ok loaded ∧
    loaded.program.IsFactorial n := by
  refine ⟨_, Program.ofSource?_eq _, ?_⟩
  rw [rows_source reads]
  refine ⟨?_, ?_, ?_, ?_⟩
  · have first : Instruction.decode ["LIT", numeral] = .literal n := by
      simp [Instruction.decode, Instruction.decode?, Instruction.withOperand?, reads]
    have rest : Row.code bodyRows = (code n).tail := by
      show Row.code bodyRows = (code 0).tail
      decide +kernel
    rw [Program.instructions_ofRows, Draft.instructions_ofRows]
    show Row.code _ = _
    rw [Row.code_cons (by simp [Row.carries]), first, rest]
    rfl
  · exact label_of_body 4 ⟨"fact", ["LLV", "0"]⟩ rfl (by decide) (by decide) (by decide)
  · exact label_of_body 8 ⟨"base", ["LIT", "1"]⟩ rfl (by decide) (by decide) (by decide)
  · exact label_of_body 10 ⟨"rec", ["LLV", "0"]⟩ rfl (by decide) (by decide) (by decide)

end Loading

end Factorial

end StackMachine

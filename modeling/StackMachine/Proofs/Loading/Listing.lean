import StackMachine.Proofs.Display.RoundTrip
import StackMachine.Proofs.Loading.Labels

/-!
# Listings

The display forms of some instructions, one to a line, are a source text.  It is loaded as these
instructions, unless one of them is not displayed with words that spell it.

* `Source.lines_of_ended` — the lines of a text in which every line is ended.
* `Program.listing` — the source text of some instructions.
* `Program.ofSource?_listing` — the program that a listing is loaded as.
-/

namespace StackMachine

/-! ## Lines that are ended -/

namespace Source

/-- The first line of a text ends at the first line feed. -/
lemma lines_append_lineFeed {line : List Char} (feed : '\n' ∉ line) (rest : List Char) :
    lines (line ++ '\n' :: rest) = dropReturn line :: lines rest := by
  have inside : ∀ c ∈ line, decide (c ≠ '\n') = true := by
    intro c hc
    exact decide_eq_true (ne_of_mem_of_not_mem hc feed)
  have htake : (line ++ '\n' :: rest).takeWhile (· ≠ '\n') = line := by
    rw [List.takeWhile_append_of_pos inside, List.takeWhile_cons_of_neg (by decide),
      List.append_nil]
  have hdrop : (line ++ '\n' :: rest).dropWhile (· ≠ '\n') = '\n' :: rest := by
    rw [List.dropWhile_append_of_pos inside, List.dropWhile_cons_of_neg (by decide)]
  rw [lines, if_neg (by simp)]
  simp only [htake]
  split
  next hnil => exact absurd (hdrop.symm.trans hnil) (List.cons_ne_nil _ _)
  next hcons =>
    obtain ⟨-, rfl⟩ := List.cons.inj (hcons.symm.trans hdrop)
    rfl

/-- The last line of a text may lack its line feed. -/
lemma lines_of_last {line : List Char} (feed : '\n' ∉ line) (nonempty : line ≠ []) :
    lines line = [line] := by
  have inside : ∀ c ∈ line, decide (c ≠ '\n') = true := by
    intro c hc
    exact decide_eq_true (ne_of_mem_of_not_mem hc feed)
  have hdrop : line.dropWhile (· ≠ '\n') = [] := List.dropWhile_eq_nil_iff.mpr inside
  rw [lines, if_neg nonempty]
  split
  next => rw [List.takeWhile_eq_self_iff.mpr inside]
  next hcons => exact absurd (hcons.symm.trans hdrop) (List.cons_ne_nil _ _)

lemma lines_cons {line : List Char} (feed : '\n' ∉ line) (back : '\r' ∉ line) (rest : List Char) :
    lines (line ++ '\n' :: rest) = line :: lines rest := by
  rw [lines_append_lineFeed feed, dropReturn, if_neg]
  intro last
  exact back (List.mem_of_getLast? last)

/-- Lines that are ended one by one are the lines of the text. -/
lemma lines_of_ended {ls : List (List Char)} (h : ∀ line ∈ ls, '\n' ∉ line ∧ '\r' ∉ line) :
    lines (ls.flatMap (· ++ ['\n'])) = ls := by
  induction ls with
  | nil => simp [lines]
  | cons line ls ih =>
      obtain ⟨feed, back⟩ := h line (.head _)
      have ih := ih fun other mem => h other (.tail _ mem)
      rw [List.flatMap_cons, List.append_assoc, List.singleton_append, lines_cons feed back, ih]

end Source

/-! ## Listings -/

lemma Instruction.words_ne_nil (ins : Instruction) : ins.words ≠ [] := by
  cases ins <;> simp [words, mnemonic?, operands]

/-- The line of a listing, by its characters. -/
def Instruction.line (ins : Instruction) : List Char := (" " ++ ins.text).toList

namespace Instruction.Spelling

variable {ins : Instruction} (h : ins.Spelling ins.words)
include h

/-- The line of a listing is one row, without a label. -/
lemma ofChars_line : Row.ofChars ins.line = ⟨"", ins.words⟩ := by
  have split := Row.split?_of_words h.isWord
  rw [← h.text, Row.split?_eq_ofChars] at split
  exact Option.some.inj split

lemma not_lineEnd_of_mem_line {c : Char} (hc : c ∈ ins.line) : c ≠ '\n' ∧ c ≠ '\r' := by
  rw [line, String.toList_append, h.text, String.toList_intercalate, List.mem_append] at hc
  rcases hc with hblank | hc
  · obtain rfl := List.mem_singleton.mp hblank
    decide
  rcases mem_of_mem_intercalate hc with hblank | ⟨_, hword, hc⟩
  · obtain rfl := List.mem_singleton.mp hblank
    decide
  obtain ⟨word, mem, rfl⟩ := List.mem_map.mp hword
  have blank := (Row.of_isWordChar ((h.isWord word mem).chars c hc)).1
  constructor
  · rintro rfl
    exact absurd blank (by decide)
  · rintro rfl
    exact absurd blank (by decide)

end Instruction.Spelling

namespace Program

/-- The source text of some instructions: a line for each of them, with its display form behind a
blank. -/
def listing (code : List Instruction) : String :=
  String.join (code.map fun ins => " " ++ ins.text ++ "\n")

lemma toList_listing (code : List Instruction) :
    (listing code).toList = (code.map Instruction.line).flatMap (· ++ ['\n']) := by
  simp [listing, Instruction.line, String.toList_join, List.flatMap_map]

/-- The instructions of rows without labels. -/
lemma instructions_of_lines {code : List Instruction} (h : ∀ ins ∈ code, ins.Spelling ins.words) :
    (((code.map Instruction.line).map Row.ofChars).filter Row.carries).map
      (fun row => Instruction.decode row.words) = code := by
  induction code with
  | nil => rfl
  | cons ins code ih =>
      have ih := ih fun other mem => h other (.tail _ mem)
      have spelling := h ins (.head _)
      have carries : Row.carries ⟨"", ins.words⟩ = true := by
        simp [Row.carries, ins.words_ne_nil]
      rw [List.map_cons, List.map_cons, spelling.ofChars_line, List.filter_cons_of_pos carries,
        List.map_cons, ih, spelling.decode]

/-- **A listing is loaded as its instructions.** -/
theorem ofSource?_listing {code : List Instruction} (h : ∀ ins ∈ code, ins.Spelling ins.words) :
    ∃ loaded, ofSource? (listing code) = .ok loaded ∧
      loaded.program.instructions.toList = code := by
  have lines : Source.lines (listing code).toList = code.map Instruction.line := by
    rw [toList_listing]
    refine Source.lines_of_ended fun line hline => ?_
    obtain ⟨ins, mem, rfl⟩ := List.mem_map.mp hline
    have inside := fun c (hc : c ∈ ins.line) => (h ins mem).not_lineEnd_of_mem_line hc
    exact ⟨fun feed => (inside _ feed).1 rfl, fun back => (inside _ back).2 rfl⟩
  refine ⟨_, ofSource?_eq _, ?_⟩
  rw [lines, instructions_ofRows, Draft.instructions_ofRows, instructions_of_lines h]

end Program

end StackMachine

import StackMachine.Proofs.Loading.Listing
import StackMachine.Proofs.Padding.Simulation

/-!
# A source text with an idle line more

A line that holds nothing but an idle instruction is put between the lines of a source text.  It
moves the instructions of all lines behind it by one place.  The labels of these lines move with
them, and those of the lines before it stay, also where no instruction stood between them and the
new line.

* `Draft.place?_padded` — where labels point in the two texts.
* `Program.paddedAt_ofRows` — the program of the longer text is the other one, padded.
* `idle_line_changes_nothing` — both programs come to the same end, or to none.
-/

namespace StackMachine

/-! ## Rows -/

section Rows

variable {row : Row} (before after : List Row)

/-- A row without a label moves the labels behind it, and no others. -/
lemma Draft.place?_padded (nameless : row.label = "") (carries : row.carries = true)
    (name : String) :
    (∃ i i', (ofRows (before ++ after)).place? name = some i ∧
      (ofRows (before ++ row :: after)).place? name = some i' ∧
      Faces (before.countP Row.carries) i i') ∨
    (ofRows (before ++ after)).place? name = none ∧
      (ofRows (before ++ row :: after)).place? name = none := by
  induction after using List.reverseRecOn with
  | nil =>
      have same : (ofRows (before ++ [row])).place? name = (ofRows before).place? name := by
        rw [place?_ofRows_concat, if_neg fun h => h.1 nameless]
      rw [List.append_nil, same]
      cases place : (ofRows before).place? name with
      | none => exact .inr ⟨rfl, rfl⟩
      | some i => exact .inl ⟨i, i, rfl, rfl, .before (place?_ofRows_le place)⟩
  | append_singleton after last ih =>
      rw [← List.append_assoc, ← List.cons_append, ← List.append_assoc, place?_ofRows_concat,
        place?_ofRows_concat]
      by_cases here : last.label ≠ "" ∧ last.label = name
      · rw [if_pos here, if_pos here]
        refine .inl ⟨_, _, rfl, rfl, ?_⟩
        rw [List.countP_append, List.countP_append, List.countP_cons_of_pos carries]
        exact .behind (Nat.le_add_right _ _)
      · rw [if_neg here, if_neg here]
        exact ih

/-- **The program of some rows with an idle row more** is the other one, padded. -/
lemma Program.paddedAt_ofRows (nameless : row.label = "") (carries : row.carries = true)
    (idle : (Instruction.decode row.words).Idle) :
    (ofRows (before ++ row :: after)).program.PaddedAt (before.countP Row.carries)
      (ofRows (before ++ after)).program where
  idle := by
    refine ⟨_, ?_, idle⟩
    rw [getElem?_ofRows, Row.code_append, Row.code_cons carries, ← Row.length_code,
      List.getElem?_append_right (Nat.le_refl _), Nat.sub_self, List.getElem?_cons_zero]
  others := by
    intro i i' faces elsewhere
    rw [getElem?_ofRows, getElem?_ofRows, Row.code_append, Row.code_append, Row.code_cons carries]
    rw [← Row.length_code] at faces elsewhere
    cases faces with
    | before h =>
        have inside : i < (Row.code before).length := Nat.lt_of_le_of_ne h elsewhere
        rw [List.getElem?_append_left inside, List.getElem?_append_left inside]
    | behind h =>
        rw [List.getElem?_append_right h, List.getElem?_append_right (by omega),
          Nat.sub_add_comm h, List.getElem?_cons_succ]
  labels := by
    intro name
    rcases Draft.place?_padded before after nameless carries name with
      ⟨i, i', place, place', faces⟩ | ⟨none, none'⟩
    · exact .inl ⟨i, i', (label_ofRows_eq_ok_iff _ _ _).mpr place,
        (label_ofRows_eq_ok_iff _ _ _).mpr place', faces⟩
    · exact .inr ⟨_, (label_ofRows_eq_error_iff _ _).mpr none,
        (label_ofRows_eq_error_iff _ _).mpr none'⟩

end Rows

/-! ## Lines -/

/-- The lines that hold nothing but an idle instruction. -/
def idleLines : List String := ["  NOP", "  POP 0"]

lemma row_of_idleLine {line : String} (h : line ∈ idleLines) :
    (Row.ofChars line.toList).label = "" ∧ (Row.ofChars line.toList).carries = true ∧
      (Instruction.decode (Row.ofChars line.toList).words).Idle := by
  simp only [idleLines, List.mem_cons, List.not_mem_nil, or_false] at h
  rcases h with rfl | rfl
  · exact ⟨by decide, by decide, .inl (by decide)⟩
  · exact ⟨by decide, by decide, .inr (by decide)⟩

/-- **Idle lines change nothing.**  Put a line with nothing but an idle instruction anywhere between
the lines of a source text.  Both texts have a program.  If that of the shorter one has no
instruction that takes, leaves or shows places of the program, run both programs on new machines
with the trace off, at the same console.  Then neither run ends, or both end, and their ends differ
in places of the program only: both halt, or both fault with the same error at instructions that
are displayed alike, or both reach the end of the program.  All that is left of the machines and
consoles is the same, but for the instruction pointer. -/
theorem idle_line_changes_nothing (source padded line : String) (before after : List (List Char))
    (idle : line ∈ idleLines) (plainLines : Source.lines source.toList = before ++ after)
    (paddedLines : Source.lines padded.toList = before ++ line.toList :: after) :
    ∃ plain longer : Loaded, Program.ofSource? source = .ok plain ∧
      Program.ofSource? padded = .ok longer ∧
      ((∀ ins ∈ plain.program.instructions, ins.sensitive = false) → ∀ console : Console,
        let run := fun count =>
          Execution.run plain.program count (Execution.fresh plain.program false console)
        let run' := fun count =>
          Execution.run longer.program count (Execution.fresh longer.program false console)
        ((∀ count, (run count).outcome = none) ∧ ∀ count, (run' count).outcome = none) ∨
        ∃ count count', Execution.EndsAlike (run count) (run' count')) := by
  refine ⟨_, _, Program.ofSource?_eq source, Program.ofSource?_eq padded, ?_⟩
  obtain ⟨nameless, carries, idle⟩ := row_of_idleLine idle
  rw [plainLines, paddedLines, List.map_append, List.map_append, List.map_cons]
  intro plainly console
  have pads := Program.paddedAt_ofRows (before.map Row.ofChars) (after.map Row.ofChars) nameless
    carries idle
  exact (Execution.beside_fresh _ _ _ console).ends pads plainly

/-- A label in a line of its own points to the line that is put behind it.  The jump there comes to
the halt in either program. -/
theorem idle_line_changes_nothing_behind_label :
    ∃ plain longer : Loaded, Program.ofSource? "  GOTO end\nend\n  HALT\n" = .ok plain ∧
      Program.ofSource? "  GOTO end\nend\n  NOP\n  HALT\n" = .ok longer ∧
      plain.program.label "end" = .ok 1 ∧ longer.program.label "end" = .ok 1 ∧
      ∃ count count', Execution.EndsAlike
        (Execution.run plain.program count
          (Execution.fresh plain.program false (Console.ofInput [])))
        (Execution.run longer.program count'
          (Execution.fresh longer.program false (Console.ofInput []))) := by
  have plainLines : Source.lines "  GOTO end\nend\n  HALT\n".toList =
      ["  GOTO end".toList, "end".toList] ++ ["  HALT".toList] := by
    have ended : ∀ line ∈ ["  GOTO end".toList, "end".toList, "  HALT".toList],
        '\n' ∉ line ∧ '\r' ∉ line := by decide
    exact Source.lines_of_ended ended
  have longerLines : Source.lines "  GOTO end\nend\n  NOP\n  HALT\n".toList =
      ["  GOTO end".toList, "end".toList] ++ "  NOP".toList :: ["  HALT".toList] := by
    have ended : ∀ line ∈ ["  GOTO end".toList, "end".toList, "  NOP".toList, "  HALT".toList],
        '\n' ∉ line ∧ '\r' ∉ line := by decide
    exact Source.lines_of_ended ended
  obtain ⟨plain, longer, loaded, loaded', ends⟩ := idle_line_changes_nothing _ _ _ _ _
    (by decide : "  NOP" ∈ idleLines) plainLines longerLines
  have rows : plain = Program.ofRows
      [⟨"", ["GOTO", "end"]⟩, ⟨"end", []⟩, ⟨"", ["HALT"]⟩] := by
    rw [Program.ofSource?_eq, plainLines] at loaded
    exact (Except.ok.inj loaded).symm.trans (congrArg Program.ofRows (by decide))
  have rows' : longer = Program.ofRows
      [⟨"", ["GOTO", "end"]⟩, ⟨"end", []⟩, ⟨"", ["NOP"]⟩, ⟨"", ["HALT"]⟩] := by
    rw [Program.ofSource?_eq, longerLines] at loaded'
    exact (Except.ok.inj loaded').symm.trans (congrArg Program.ofRows (by decide))
  refine ⟨plain, longer, loaded, loaded', ?_, ?_, ?_⟩
  · subst rows
    decide +kernel
  · subst rows'
    decide +kernel
  have plainly : ∀ ins ∈ plain.program.instructions, ins.sensitive = false := by
    subst rows
    decide +kernel
  rcases ends plainly (Console.ofInput []) with ⟨forever, -⟩ | alike
  · have halted : (Execution.run plain.program 2
        (Execution.fresh plain.program false (Console.ofInput []))).outcome = some .halted := by
      subst rows
      decide +kernel
    exact nomatch (forever 2).symm.trans halted
  · exact alike

end StackMachine

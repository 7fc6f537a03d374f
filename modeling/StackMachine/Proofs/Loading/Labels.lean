import Mathlib.Data.List.Induction
import StackMachine.Proofs.Source.Row

/-!
# Where labels point

While a program is loaded, a label is kept in a queue until the next instruction comes, and then
bound in a table where a later binding replaces an earlier one.  None of this shows in the result:
a label points to the number of instructions before the last row that bears it.

* `Draft.place?` — where a label would point if the next row was an instruction.
* `Draft.place?_addRow` — a row changes this for its own label only, however queue and table stand.
* `Draft.label_finish` — at the end a label points there.
* `Row.code`, `Draft.instructions_ofRows` — the instructions of rows.
* `program_of_source` — the instructions and labels of a source text, by counting rows.
-/

namespace StackMachine

/-- A row carries an instruction if it has words. -/
def Row.carries (row : Row) : Bool := row.words ≠ []

namespace Draft

variable {draft : Draft}

/-! ## Binding -/

@[simp]
lemma instructions_bind (label : String) (index : Nat) :
    (draft.bind label index).program.instructions = draft.program.instructions := by
  simp only [bind]
  split <;> rfl

@[simp]
lemma labels_bind (label : String) (index : Nat) :
    (draft.bind label index).program.labels = draft.program.labels.insert label index := by
  simp only [bind]
  split <;> rfl

@[simp]
lemma pending_bind (label : String) (index : Nat) :
    (draft.bind label index).pending = draft.pending := by
  simp only [bind]
  split <;> rfl

@[simp]
lemma program_note (event : Event) : (draft.note event).program = draft.program := rfl

section Fold

variable {f : Draft → String → Draft} (labels : List String) (draft : Draft)

lemma foldl_pending (hf : ∀ d label, (f d label).pending = d.pending) :
    (labels.foldl f draft).pending = draft.pending := by
  induction labels generalizing draft with
  | nil => rfl
  | cons label labels ih => rw [List.foldl_cons, ih, hf]

lemma foldl_instructions
    (hf : ∀ d label, (f d label).program.instructions = d.program.instructions) :
    (labels.foldl f draft).program.instructions = draft.program.instructions := by
  induction labels generalizing draft with
  | nil => rfl
  | cons label labels ih => rw [List.foldl_cons, ih, hf]

/-- Labels that are bound to one place, in whatever order, all point there. -/
lemma foldl_labels {index : Nat}
    (hf : ∀ d label, (f d label).program.labels = d.program.labels.insert label index)
    (name : String) :
    (labels.foldl f draft).program.labels[name]? =
      if name ∈ labels then some index else draft.program.labels[name]? := by
  induction labels generalizing draft with
  | nil => simp
  | cons label labels ih =>
      rw [List.foldl_cons, ih, hf, Std.TreeMap.getElem?_insert]
      by_cases hname : label = name
      · simp [hname]
      · simp [hname, Ne.symm hname]

end Fold

/-! ## Rows -/

/-- **Where a label would point** if the next row was an instruction: there if it waits for one, and
else where it is bound. -/
def place? (draft : Draft) (name : String) : Option Nat :=
  if name ∈ draft.pending then some draft.program.instructions.size
  else draft.program.labels[name]?

lemma place?_addLabel (label name : String) :
    (draft.addLabel label).place? name =
      if label ≠ "" ∧ label = name then some draft.program.instructions.size
      else draft.place? name := by
  simp only [addLabel, place?]
  by_cases hlabel : label = ""
  · simp [hlabel]
  by_cases hname : label = name
  · subst hname
    simp [hlabel]
  · simp [hlabel, hname, Ne.symm hname]

lemma instructions_addInstruction (ins : Instruction) :
    (draft.addInstruction ins).program.instructions = draft.program.instructions.push ins := by
  simp only [addInstruction, bindPending]
  rw [foldl_instructions _ _ fun _ _ => instructions_bind _ _]

/-- An instruction binds the labels that wait to where they would point anyway. -/
lemma place?_addInstruction (ins : Instruction) (name : String) :
    (draft.addInstruction ins).place? name = draft.place? name := by
  have hpending : (draft.addInstruction ins).pending = [] :=
    foldl_pending _ _ fun _ _ => pending_bind _ _
  rw [place?, hpending, if_neg List.not_mem_nil]
  exact foldl_labels _ _ (fun _ _ => labels_bind _ _) name

/-- **A row moves its own label** to the next instruction, and no other. -/
lemma place?_addRow (row : Row) (name : String) :
    (draft.addRow row).place? name =
      if row.label ≠ "" ∧ row.label = name then some draft.program.instructions.size
      else draft.place? name := by
  rw [addRow]
  split
  · exact place?_addLabel _ _
  · rw [place?_addInstruction, place?_addLabel]

lemma instructions_addRow (row : Row) :
    (draft.addRow row).program.instructions.toList = draft.program.instructions.toList ++
      if row.carries then [Instruction.decode row.words] else [] := by
  have hlabel : (draft.addLabel row.label).program = draft.program := by
    rw [addLabel]
    split <;> rfl
  rw [addRow]
  split
  next hwords => simp [hlabel, Row.carries, hwords]
  next hwords => simp [instructions_addInstruction, hlabel, Row.carries, hwords]

/-- At the end of the rows a label points to where it would point if an instruction followed. -/
lemma labels_finish (name : String) : draft.finish.program.labels[name]? = draft.place? name := by
  simp only [finish, program_note, bindDangling]
  refine foldl_labels _ _ (fun d label => ?_) name
  exact labels_bind label _

lemma instructions_finish : draft.finish.program.instructions = draft.program.instructions := by
  simp only [finish, program_note, bindDangling]
  refine foldl_instructions _ _ fun d label => ?_
  exact instructions_bind label _

/-! ## All rows -/

/-- The draft of some rows. -/
def ofRows (rows : List Row) : Draft := rows.foldl addRow empty

lemma ofRows_concat (rows : List Row) (row : Row) :
    ofRows (rows ++ [row]) = (ofRows rows).addRow row := by
  rw [ofRows, List.foldl_append]
  rfl

lemma instructions_ofRows (rows : List Row) :
    (ofRows rows).program.instructions.toList =
      (rows.filter Row.carries).map fun row => Instruction.decode row.words := by
  induction rows using List.reverseRecOn with
  | nil => rfl
  | append_singleton rows row ih =>
      rw [ofRows_concat, instructions_addRow, ih, List.filter_append, List.map_append]
      by_cases hrow : row.carries = true <;> simp [hrow]

lemma size_ofRows (rows : List Row) :
    (ofRows rows).program.instructions.size = rows.countP Row.carries := by
  rw [← Array.length_toList, instructions_ofRows, List.length_map, List.countP_eq_length_filter]

lemma place?_ofRows_concat (rows : List Row) (row : Row) (name : String) :
    (ofRows (rows ++ [row])).place? name =
      if row.label ≠ "" ∧ row.label = name then some (rows.countP Row.carries)
      else (ofRows rows).place? name := by
  rw [ofRows_concat, place?_addRow, size_ofRows]

/-- A label is unknown exactly when no row bears it. -/
lemma place?_ofRows_eq_none_iff (rows : List Row) (name : String) :
    (ofRows rows).place? name = none ↔ name = "" ∨ ∀ row ∈ rows, row.label ≠ name := by
  induction rows using List.reverseRecOn with
  | nil => simp [ofRows, place?, empty, Program.empty]
  | append_singleton rows row ih =>
      rw [place?_ofRows_concat]
      by_cases hrow : row.label ≠ "" ∧ row.label = name
      · obtain ⟨hlabel, rfl⟩ := hrow
        simp [hlabel]
      · rw [if_neg hrow, ih, List.forall_mem_append]
        by_cases hname : name = ""
        · simp [hname]
        · have hne : row.label ≠ name := by
            rintro rfl
            exact hrow ⟨hname, rfl⟩
          simp [hname, hne]

/-- **The last row with a label** says where it points. -/
lemma place?_ofRows_of_last {before after : List Row} {row : Row} (hlabel : row.label ≠ "")
    (hlast : ∀ later ∈ after, later.label ≠ row.label) :
    (ofRows (before ++ row :: after)).place? row.label = some (before.countP Row.carries) := by
  induction after using List.reverseRecOn with
  | nil => rw [place?_ofRows_concat, if_pos ⟨hlabel, rfl⟩]
  | append_singleton after later ih =>
      rw [← List.cons_append, ← List.append_assoc, place?_ofRows_concat, if_neg]
      · exact ih fun other hother => hlast other (List.mem_append_left _ hother)
      · exact fun h => hlast later (List.mem_append_right _ (.head _)) h.2

/-- No label points further than behind the last instruction. -/
lemma place?_ofRows_le {rows : List Row} {name : String} {index : Nat}
    (h : (ofRows rows).place? name = some index) : index ≤ rows.countP Row.carries := by
  induction rows using List.reverseRecOn with
  | nil => simp [ofRows, place?, empty, Program.empty] at h
  | append_singleton rows row ih =>
      rw [place?_ofRows_concat] at h
      rw [List.countP_append]
      split at h
      · rw [← Option.some.inj h]
        exact Nat.le_add_right _ _
      · exact Nat.le_trans (ih h) (Nat.le_add_right _ _)

end Draft

/-- The instructions of some rows. -/
def Row.code (rows : List Row) : List Instruction :=
  (rows.filter Row.carries).map fun row => Instruction.decode row.words

lemma Row.length_code (rows : List Row) : (code rows).length = rows.countP Row.carries := by
  rw [code, List.length_map, List.countP_eq_length_filter]

lemma Row.code_append (rows rows' : List Row) : code (rows ++ rows') = code rows ++ code rows' := by
  simp only [code, List.filter_append, List.map_append]

lemma Row.code_cons {row : Row} (carries : row.carries = true) (rows : List Row) :
    code (row :: rows) = Instruction.decode row.words :: code rows := by
  rw [code, List.filter_cons_of_pos carries, List.map_cons]
  rfl

namespace Program

lemma instructions_ofRows (rows : List Row) :
    (ofRows rows).program.instructions = (Draft.ofRows rows).program.instructions :=
  Draft.instructions_finish

lemma getElem?_ofRows (rows : List Row) (i : Nat) :
    (ofRows rows).program.instructions[i]? = (Row.code rows)[i]? := by
  rw [← Array.getElem?_toList, instructions_ofRows, Draft.instructions_ofRows]
  rfl

lemma label_ofRows_eq_ok_iff (rows : List Row) (name : String) (index : Nat) :
    (ofRows rows).program.label name = .ok index ↔
      (Draft.ofRows rows).place? name = some index := by
  rw [← Draft.labels_finish]
  show _ ↔ (ofRows rows).program.labels[name]? = _
  cases h : (ofRows rows).program.labels[name]? <;> simp [label, h]

lemma label_ofRows_eq_error_iff (rows : List Row) (name : String) :
    (ofRows rows).program.label name = .error (.undefinedLabel name) ↔
      (Draft.ofRows rows).place? name = none := by
  rw [← Draft.labels_finish]
  show _ ↔ (ofRows rows).program.labels[name]? = _
  cases h : (ofRows rows).program.labels[name]? <;> simp [label, h]

end Program

/-! ## Source texts -/

/-- **The program of a source text.**  Every text has one.  Its instructions are those of the rows
with words, in order.  A label that is borne by no row is unknown, and any other one points to the
number of rows with words before the last row that bears it, which may be behind the last
instruction but not further. -/
theorem program_of_source (source : String) :
    ∃ (rows : List Row) (loaded : Loaded),
      (Source.lines source.toList).map (fun line => Row.split? (String.ofList line)) =
        rows.map some ∧
      Program.ofSource? source = .ok loaded ∧
      loaded.program.instructions.toList =
        (rows.filter Row.carries).map (fun row => Instruction.decode row.words) ∧
      (∀ name, loaded.program.label name = .error (.undefinedLabel name) ↔
        name = "" ∨ ∀ row ∈ rows, row.label ≠ name) ∧
      (∀ before row after, rows = before ++ row :: after → row.label ≠ "" →
        (∀ later ∈ after, later.label ≠ row.label) →
        loaded.program.label row.label = .ok (before.countP Row.carries)) ∧
      ∀ name index, loaded.program.label name = .ok index →
        index ≤ loaded.program.instructions.size := by
  refine ⟨(Source.lines source.toList).map Row.ofChars, _, ?_, Program.ofSource?_eq source, ?_⟩
  · simp [Row.split?_eq_ofChars]
  generalize (Source.lines source.toList).map Row.ofChars = rows
  refine ⟨?_, ?_, ?_, ?_⟩
  · rw [Program.instructions_ofRows, Draft.instructions_ofRows]
  · intro name
    rw [Program.label_ofRows_eq_error_iff, Draft.place?_ofRows_eq_none_iff]
  · intro before row after hrows hne hlast
    rw [Program.label_ofRows_eq_ok_iff, hrows, Draft.place?_ofRows_of_last hne hlast]
  · intro name index h
    rw [Program.instructions_ofRows, Draft.size_ofRows]
    exact Draft.place?_ofRows_le ((Program.label_ofRows_eq_ok_iff rows name index).mp h)

end StackMachine

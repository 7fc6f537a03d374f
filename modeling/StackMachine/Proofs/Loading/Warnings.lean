import Mathlib.Data.Finset.Card
import StackMachine.Proofs.Loading.Labels

/-!
# What loading logs

A label is bound when the next instruction comes, or at the end of the text, and only then it is
seen that it was bound before or that nothing follows it.  Nevertheless the log tells of the rows in
the order in which they stand, and it names the places where the last row with the same label stood
and where this one stands, as if all this were known when a row is read.

* `Row.place`, `Row.previous?`, `Row.warnings` — what is to be told of a row, by counting rows.
* `Draft.settled` — the draft if the next row was an instruction, with `Draft.log_settled`.
* `Draft.log_bindDangling` — the log of all rows.
* `log_of_source` — the log of a source text.
-/

namespace StackMachine

/-- Whether an event tells that a label was bound again. -/
def Event.redefines : Event → Bool
  | .labelRedefined .. => true
  | _ => false

/-! ## What is to be told -/

namespace Row

variable {rows more : List Row} {k : Nat}

/-- The place of a row: the number of rows with words before it. -/
def place (rows : List Row) (k : Nat) : Nat := (rows.take k).countP Row.carries

/-- The nearest row before row `k` that bears a label. -/
def previous? (rows : List Row) (label : String) : (k : Nat) → Option Nat
  | 0 => none
  | k + 1 => if rows[k]?.map Row.label = some label then some k else previous? rows label k

/-- The label of row `k`, if it bears one. -/
def labelAt? (rows : List Row) (k : Nat) : Option String :=
  (rows[k]?.map Row.label).filter (· ≠ "")

/-- A label without an instruction: no row from row `k` on carries one. -/
def dangling (rows : List Row) (k : Nat) (label : String) : List Event :=
  if (rows.drop k).any Row.carries then [] else [.labelDangling label]

/-- A label that was borne before, by another row. -/
def redefined (rows : List Row) (k : Nat) (label : String) : List Event :=
  (previous? rows label k).toList.map fun j =>
    .labelRedefined label (place rows j) (place rows k)

/-- **What is to be told of row `k`**: first that no instruction follows its label, then where the
nearest row before it with the same label stands. -/
def warnings (rows : List Row) (k : Nat) : List Event :=
  (labelAt? rows k).toList.flatMap fun label => dangling rows k label ++ redefined rows k label

/-- The number of different labels. -/
def countLabels (rows : List Row) : Nat := ((rows.map Row.label).toFinset.erase "").card

/-! Rows that are added behind a row change nothing that is told of it, but that an instruction may
follow now. -/

lemma place_append (h : k ≤ rows.length) : place (rows ++ more) k = place rows k := by
  rw [place, place, List.take_append_of_le_length h]

lemma place_length (rows : List Row) : place rows rows.length = rows.countP Row.carries := by
  rw [place, List.take_length]

lemma previous?_append (label : String) (h : k ≤ rows.length) :
    previous? (rows ++ more) label k = previous? rows label k := by
  induction k with
  | zero => rfl
  | succ k ih => rw [previous?, previous?, List.getElem?_append_left h, ih (Nat.le_of_lt h)]

lemma previous?_lt {label : String} {j : Nat} (h : previous? rows label k = some j) : j < k := by
  induction k with
  | zero => exact nomatch h
  | succ k ih =>
      rw [previous?] at h
      split at h
      · obtain rfl := Option.some.inj h
        exact Nat.lt_succ_self k
      · exact Nat.lt_succ_of_lt (ih h)

lemma redefined_append (label : String) (h : k ≤ rows.length) :
    redefined (rows ++ more) k label = redefined rows k label := by
  rw [redefined, redefined, previous?_append label h, place_append h]
  cases found : previous? rows label k with
  | none => rfl
  | some j =>
      have before : j ≤ rows.length := Nat.le_trans (Nat.le_of_lt (previous?_lt found)) h
      simp only [Option.toList_some, List.map_cons, List.map_nil, place_append before]

lemma labelAt?_append (h : k < rows.length) : labelAt? (rows ++ more) k = labelAt? rows k := by
  rw [labelAt?, labelAt?, List.getElem?_append_left h]

lemma labelAt?_length (row : Row) :
    labelAt? (rows ++ [row]) rows.length = if row.label = "" then none else some row.label := by
  by_cases nameless : row.label = "" <;> simp [labelAt?, nameless]

/-- **No row before bears a label** that has no nearest one. -/
lemma previous?_eq_none_iff {label : String} :
    previous? rows label rows.length = none ↔ label ∉ rows.map Row.label := by
  induction rows using List.reverseRecOn with
  | nil => simp [previous?]
  | append_singleton rows row ih =>
      rw [List.length_append, List.length_singleton, previous?, List.getElem?_concat_length,
        previous?_append label (Nat.le_refl _), List.map_append, List.mem_append, not_or, ← ih]
      by_cases here : row.label = label
      · simp [here]
      · simp [here, Ne.symm here]

/-! ## All rows -/

/-- The redefinitions of some rows, in order. -/
def redefinitions (rows : List Row) : List Event :=
  (List.range rows.length).flatMap fun k =>
    (labelAt? rows k).toList.flatMap fun label => redefined rows k label

lemma redefinitions_concat (rows : List Row) (row : Row) :
    redefinitions (rows ++ [row]) = redefinitions rows ++
      if row.label = "" then [] else redefined (rows ++ [row]) rows.length row.label := by
  rw [redefinitions, List.length_append, List.length_singleton, List.range_succ,
    List.flatMap_append, List.flatMap_singleton, labelAt?_length]
  congr 1
  · refine List.flatMap_congr fun k hk => ?_
    have inside : k < rows.length := List.mem_range.mp hk
    rw [labelAt?_append inside]
    refine List.flatMap_congr fun label _ => ?_
    exact redefined_append label (Nat.le_of_lt inside)
  · split <;> simp

/-- Where the last row carries an instruction, no label dangles. -/
lemma warnings_concat_of_carries (rows : List Row) {row : Row} (h : row.carries = true) :
    (List.range (rows ++ [row]).length).flatMap (warnings (rows ++ [row])) =
      redefinitions (rows ++ [row]) := by
  refine List.flatMap_congr fun k hk => ?_
  have inside : k ≤ rows.length := by
    rw [List.mem_range, List.length_append, List.length_singleton] at hk
    omega
  have followed (label : String) : dangling (rows ++ [row]) k label = [] := by
    rw [dangling, List.drop_append_of_le_length inside, List.any_append, List.any_cons, h,
      Bool.true_or, Bool.or_true, if_pos rfl]
  simp only [warnings, followed, List.nil_append]

/-- A row without an instruction adds only what is to be told of itself. -/
lemma warnings_concat_of_not_carries (rows : List Row) {row : Row} (h : row.carries = false) :
    (List.range (rows ++ [row]).length).flatMap (warnings (rows ++ [row])) =
      (List.range rows.length).flatMap (warnings rows) ++
        if row.label = "" then []
        else .labelDangling row.label ::
          redefined (rows ++ [row]) rows.length row.label := by
  have followed {k : Nat} (inside : k ≤ rows.length) (label : String) :
      dangling (rows ++ [row]) k label = dangling rows k label := by
    rw [dangling, dangling, List.drop_append_of_le_length inside, List.any_append, List.any_cons, h,
      List.any_nil, Bool.or_false, Bool.or_false]
  rw [List.length_append, List.length_singleton, List.range_succ, List.flatMap_append,
    List.flatMap_singleton]
  congr 1
  · refine List.flatMap_congr fun k hk => ?_
    have inside : k < rows.length := List.mem_range.mp hk
    rw [warnings, warnings, labelAt?_append inside]
    refine List.flatMap_congr fun label _ => ?_
    rw [followed (Nat.le_of_lt inside), redefined_append label (Nat.le_of_lt inside)]
  · have last : dangling (rows ++ [row]) rows.length row.label = [.labelDangling row.label] := by
      rw [followed (Nat.le_refl _), dangling, List.drop_length]
      rfl
    rw [warnings, labelAt?_length]
    split
    next => rfl
    next =>
      rw [Option.toList_some, List.flatMap_singleton, last]
      rfl

/-! ## Counting -/

lemma countLabels_concat (rows : List Row) (row : Row) :
    countLabels (rows ++ [row]) = countLabels rows +
      if row.label = "" ∨ row.label ∈ rows.map Row.label then 0 else 1 := by
  have union : ((rows ++ [row]).map Row.label).toFinset =
      insert row.label (rows.map Row.label).toFinset := by
    ext name
    rw [List.map_append, List.mem_toFinset, Finset.mem_insert, List.mem_toFinset, List.mem_append,
      List.map_singleton, List.mem_singleton, or_comm]
  rw [countLabels, countLabels, union]
  by_cases nameless : row.label = ""
  · rw [if_pos (.inl nameless), nameless, Finset.erase_insert_eq_erase, Nat.add_zero]
  by_cases known : row.label ∈ rows.map Row.label
  · rw [if_pos (.inr known), Finset.insert_eq_of_mem (List.mem_toFinset.mpr known), Nat.add_zero]
  · have fresh : row.label ∉ (rows.map Row.label).toFinset.erase "" :=
      fun mem => known (List.mem_toFinset.mp (Finset.mem_of_mem_erase mem))
    rw [if_neg (not_or.mpr ⟨nameless, known⟩), Finset.erase_insert_of_ne nameless,
      Finset.card_insert_of_notMem fresh]

/-- A label is redefined by a row if it was borne before. -/
lemma length_redefined_concat (rows : List Row) (row : Row) :
    (redefined (rows ++ [row]) rows.length row.label).length =
      if row.label ∈ rows.map Row.label then 1 else 0 := by
  have fresh : previous? rows row.label rows.length = none ↔ row.label ∉ rows.map Row.label :=
    previous?_eq_none_iff
  rw [redefined_append _ (Nat.le_refl _), redefined, List.length_map]
  cases found : previous? rows row.label rows.length with
  | none =>
      rw [if_neg (fresh.mp found)]
      rfl
  | some j =>
      have known : row.label ∈ rows.map Row.label := by
        refine Decidable.of_not_not fun new => ?_
        exact nomatch found.symm.trans (fresh.mpr new)
      rw [if_pos known]
      rfl

/-- **Every label but the first of its name is a redefinition.** -/
lemma length_redefinitions (rows : List Row) :
    (redefinitions rows).length + countLabels rows =
      rows.countP fun row => row.label ≠ "" := by
  induction rows using List.reverseRecOn with
  | nil => rfl
  | append_singleton rows row ih =>
      rw [redefinitions_concat, List.length_append, countLabels_concat, List.countP_append, ← ih,
        List.countP_singleton]
      by_cases nameless : row.label = ""
      · simp only [nameless, if_true, true_or, List.length_nil, ne_eq, not_true, decide_false,
          Bool.false_eq_true, if_false]
        omega
      · simp only [nameless, if_false, false_or, ne_eq, not_false_iff, decide_true, if_true,
          length_redefined_concat]
        split <;> omega

/-- The redefinitions are among what is told, and there are no others. -/
lemma countP_redefines (rows : List Row) :
    ((List.range rows.length).flatMap (warnings rows)).countP Event.redefines =
      (redefinitions rows).length := by
  have one (k : Nat) (label : String) :
      (dangling rows k label ++ redefined rows k label).countP Event.redefines =
        (redefined rows k label).length := by
    rw [List.countP_append, dangling, redefined]
    cases previous? rows label k <;> split <;> rfl
  rw [redefinitions, List.countP_flatMap, List.length_flatMap]
  congr 1
  refine List.map_congr_left fun k _ => ?_
  show (warnings rows k).countP Event.redefines = _
  rw [warnings]
  cases labelAt? rows k with
  | none => rfl
  | some label => simpa using one k label

end Row

/-! ## Binding and its log -/

namespace Draft

open Row

variable {draft : Draft}

/-- What is logged when a label is bound that points to a place already, or to none. -/
def rebinding (label : String) (before : Option Nat) (now : Nat) : List Event :=
  before.toList.map fun index => .labelRedefined label index now

lemma log_bind (label : String) (index : Nat) :
    (draft.bind label index).log.toList =
      draft.log.toList ++ rebinding label draft.program.labels[label]? index := by
  simp only [bind]
  cases draft.program.labels[label]? with
  | none => simp [rebinding]
  | some before => simp [rebinding, note]

lemma log_note (event : Event) : (draft.note event).log.toList = draft.log.toList ++ [event] := by
  simp [note]

/-- **The draft if the next row was an instruction**, before that instruction is added. -/
def settled (draft : Draft) : Draft := draft.bindPending draft.program.instructions.size

lemma labels_settled (name : String) : draft.settled.program.labels[name]? = draft.place? name :=
  foldl_labels _ _ (fun _ _ => labels_bind _ _) name

lemma settled_of_no_pending (h : draft.pending = []) : draft.settled = draft := by
  cases draft
  obtain rfl := h
  rfl

lemma settled_addLabel {label : String} (h : label ≠ "") :
    (draft.addLabel label).settled =
      draft.settled.bind label draft.program.instructions.size := by
  simp only [settled, bindPending, addLabel, if_neg h, List.foldl_append, List.foldl_cons,
    List.foldl_nil]

lemma pending_addInstruction (ins : Instruction) : (draft.addInstruction ins).pending = [] :=
  foldl_pending _ _ fun _ _ => pending_bind _ _

lemma log_settled_addInstruction (ins : Instruction) :
    (draft.addInstruction ins).settled.log = draft.settled.log := by
  rw [settled_of_no_pending (pending_addInstruction ins)]
  rfl

/-- **A row binds its own label**, as soon as an instruction comes. -/
lemma log_settled_addRow (row : Row) :
    (draft.addRow row).settled.log.toList = draft.settled.log.toList ++
      if row.label = "" then []
      else rebinding row.label (draft.place? row.label) draft.program.instructions.size := by
  have labelled : (draft.addLabel row.label).settled.log.toList = draft.settled.log.toList ++
      if row.label = "" then []
      else rebinding row.label (draft.place? row.label) draft.program.instructions.size := by
    by_cases nameless : row.label = ""
    · rw [if_pos nameless, List.append_nil, addLabel, if_pos nameless]
    · rw [if_neg nameless, settled_addLabel nameless, log_bind, labels_settled]
  rw [addRow]
  split
  next => exact labelled
  next => rw [log_settled_addInstruction, labelled]

/-! ## The rows in order -/

/-- A label points to the place of the last row that bears it. -/
lemma place?_ofRows_eq (rows : List Row) {name : String} (h : name ≠ "") :
    (ofRows rows).place? name = (previous? rows name rows.length).map (Row.place rows) := by
  induction rows using List.reverseRecOn with
  | nil => simp [ofRows, place?, empty, Program.empty, previous?]
  | append_singleton rows row ih =>
      rw [place?_ofRows_concat, List.length_append, List.length_singleton, previous?,
        List.getElem?_concat_length, Option.map_some, previous?_append name (Nat.le_refl _), ih]
      by_cases here : row.label = name
      · subst here
        rw [if_pos ⟨h, rfl⟩, if_pos rfl, Option.map_some, Row.place_append (Nat.le_refl _),
          Row.place_length]
      · rw [if_neg fun both => here both.2, if_neg fun same => here (Option.some.inj same)]
        cases found : previous? rows name rows.length with
        | none => rfl
        | some j =>
            rw [Option.map_some, Option.map_some,
              Row.place_append (Nat.le_of_lt (previous?_lt found))]

/-- The rebinding of a label by a row is what is to be told of it. -/
lemma rebinding_ofRows (rows : List Row) {row : Row} (h : row.label ≠ "") :
    rebinding row.label ((ofRows rows).place? row.label)
        (ofRows rows).program.instructions.size =
      redefined (rows ++ [row]) rows.length row.label := by
  rw [redefined_append _ (Nat.le_refl _), redefined, place?_ofRows_eq rows h, size_ofRows,
    ← Row.place_length, rebinding]
  cases previous? rows row.label rows.length <;> rfl

/-- **The redefinitions are logged in the order of the rows**, if an instruction follows. -/
lemma log_settled (rows : List Row) :
    (ofRows rows).settled.log.toList = redefinitions rows := by
  induction rows using List.reverseRecOn with
  | nil => rfl
  | append_singleton rows row ih =>
      rw [ofRows_concat, log_settled_addRow, ih, redefinitions_concat]
      by_cases nameless : row.label = ""
      · rw [if_pos nameless, if_pos nameless]
      · rw [if_neg nameless, if_neg nameless, rebinding_ofRows rows nameless]

/-! ## The end of the rows -/

lemma bindDangling_of_no_pending (h : draft.pending = []) : draft.bindDangling = draft := by
  cases draft
  obtain rfl := h
  rfl

lemma labels_bindDangling (name : String) :
    draft.bindDangling.program.labels[name]? = draft.place? name :=
  labels_finish name

lemma instructions_bindDangling :
    draft.bindDangling.program.instructions = draft.program.instructions :=
  instructions_finish

lemma log_bindDangling_addLabel {label : String} (h : label ≠ "") :
    (draft.addLabel label).bindDangling.log.toList =
      draft.bindDangling.log.toList ++ .labelDangling label ::
        rebinding label (draft.place? label) draft.program.instructions.size := by
  have last : (draft.addLabel label).bindDangling =
      (draft.bindDangling.note (.labelDangling label)).bind label
        draft.program.instructions.size := by
    simp only [bindDangling, addLabel, if_neg h, List.foldl_append, List.foldl_cons,
      List.foldl_nil]
  rw [last, log_bind, log_note, program_note, labels_bindDangling, List.append_assoc,
    List.singleton_append]

/-- Behind an instruction no label waits. -/
lemma pending_ofRows_concat (rows : List Row) {row : Row} (h : row.carries = true) :
    (ofRows (rows ++ [row])).pending = [] := by
  have words : row.words ≠ [] := of_decide_eq_true h
  rw [ofRows_concat, addRow, if_neg words, pending_addInstruction]

lemma ofRows_concat_of_not_carries (rows : List Row) {row : Row} (h : row.carries = false) :
    ofRows (rows ++ [row]) = (ofRows rows).addLabel row.label := by
  have words : row.words = [] := Decidable.of_not_not (of_decide_eq_false h)
  rw [ofRows_concat, addRow, if_pos words]

/-- **All that is to be told of some rows is logged in their order**, also where the labels wait for
an instruction that does not come. -/
lemma log_bindDangling (rows : List Row) :
    (ofRows rows).bindDangling.log.toList = (List.range rows.length).flatMap (warnings rows) := by
  induction rows using List.reverseRecOn with
  | nil => rfl
  | append_singleton rows row ih =>
      cases carries : row.carries with
      | true =>
          have pending := pending_ofRows_concat rows carries
          rw [bindDangling_of_no_pending pending, ← settled_of_no_pending pending, log_settled,
            warnings_concat_of_carries rows carries]
      | false =>
          rw [ofRows_concat_of_not_carries rows carries,
            warnings_concat_of_not_carries rows carries, ← ih]
          by_cases nameless : row.label = ""
          · rw [if_pos nameless, List.append_nil, addLabel, if_pos nameless]
          · rw [if_neg nameless, log_bindDangling_addLabel nameless,
              rebinding_ofRows rows nameless]

lemma size_labels_bindDangling (rows : List Row) :
    (ofRows rows).bindDangling.program.labels.size = countLabels rows := by
  have keys : (ofRows rows).bindDangling.program.labels.keys.toFinset =
      (rows.map Row.label).toFinset.erase "" := by
    ext name
    have bound : name ∈ (ofRows rows).bindDangling.program.labels ↔
        (ofRows rows).place? name ≠ none := by
      rw [← labels_bindDangling, Std.TreeMap.mem_iff_isSome_getElem?, Option.isSome_iff_ne_none]
    rw [List.mem_toFinset, Std.TreeMap.mem_keys, bound, Ne, place?_ofRows_eq_none_iff]
    simp
  rw [countLabels, ← keys, List.toFinset_card_of_nodup Std.TreeMap.nodup_keys,
    Std.TreeMap.length_keys]

end Draft

/-! ## Source texts -/

/-- **What loading logs.**  Every source text is loaded.  The log tells of its rows in order.  Of a
row with a label it tells first, if no row from there on carries an instruction, that the label is
not followed by one, and then, if there is a row before it with the same label, that the label
pointed to the place of the nearest such row and points to the place of this one now, be they
different or not.  Of other rows it tells nothing.  At the end it gives the number of rows with
words and the number of different labels.  So every row with a label, but the first with each label,
is told of as a redefinition.  Both warnings and the numbers are shown with these texts. -/
theorem log_of_source (source : String) :
    ∃ (rows : List Row) (loaded : Loaded),
      (Source.lines source.toList).map (fun line => Row.split? (String.ofList line)) =
        rows.map some ∧
      Program.ofSource? source = .ok loaded ∧
      loaded.log.toList = (List.range rows.length).flatMap (Row.warnings rows) ++
        [.loaded (rows.countP Row.carries) (Row.countLabels rows)] ∧
      (loaded.log.toList.countP Event.redefines + Row.countLabels rows =
        rows.countP fun row => row.label ≠ "") ∧
      ∀ label place now number,
        ((Event.labelDangling label).level, (Event.labelDangling label).message) =
          (.warn, "label `" ++ label ++ "` is not followed by an instruction") ∧
        ((Event.labelRedefined label place now).level,
            (Event.labelRedefined label place now).message) =
          (.warn, "label `" ++ label ++ "` redefined: " ++ toString place ++ " -> " ++
            toString now) ∧
        ((Event.loaded place number).level, (Event.loaded place number).message) =
          (.debug, "loaded " ++ toString place ++ " instructions, " ++ toString number ++
            " labels") := by
  refine ⟨(Source.lines source.toList).map Row.ofChars, _, ?_, Program.ofSource?_eq source, ?_⟩
  · simp [Row.split?_eq_ofChars]
  generalize (Source.lines source.toList).map Row.ofChars = rows
  have log : (Program.ofRows rows).log.toList =
      (List.range rows.length).flatMap (Row.warnings rows) ++
        [.loaded (rows.countP Row.carries) (Row.countLabels rows)] := by
    show ((Draft.ofRows rows).finish).log.toList = _
    rw [Draft.finish, Draft.log_note, Draft.log_bindDangling, Draft.size_labels_bindDangling,
      Draft.instructions_bindDangling, Draft.size_ofRows]
  refine ⟨log, ?_, fun label place now number => ⟨rfl, rfl, rfl⟩⟩
  rw [log, List.countP_append, Row.countP_redefines, ← Row.length_redefinitions]
  rfl

/-- Two labels dangle, and one of them is bound for the third time, to the place where it was. -/
example :
    (Program.ofRows [⟨"x", ["NOP"]⟩, ⟨"x", []⟩, ⟨"y", []⟩, ⟨"x", []⟩]).log.toList =
      [.labelDangling "x", .labelRedefined "x" 0 1, .labelDangling "y", .labelDangling "x",
        .labelRedefined "x" 1 1, .loaded 1 2] := by decide

end StackMachine

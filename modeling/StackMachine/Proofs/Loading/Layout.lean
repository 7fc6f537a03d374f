import Mathlib.Logic.Relation
import StackMachine.Proofs.Loading.Listing

/-!
# The layout of a source text

A program is loaded from the rows of its text, and most of the layout of a text is not in its rows.
Comments and the lengths of gaps are not, and neither is how a line ends: a carriage return that is
left at its end is a blank like any other.  Lines with an empty row do nothing to a draft, so they
can come and go.

A change of layout is made within one line or between two.  The rows of a text are those of its
lines, one after the other, so only the row of that line has to be looked at, and it has to stay the
same behind whatever the line begins with.

* `Source.line_induction` — a text, line by line.
* `Row.ofChars_comment`, `Row.ofChars_gap` — what is not in a row.
* `Source.rows`, `Program.ofSource?_eq_rows` — the rows that a program is loaded from.
* `Source.Edit`, `Source.Edit.rows_eq` — the changes of layout.
* `layout_does_not_matter` — they do not change what is loaded.
-/

namespace StackMachine

/-! ## What is not in a row -/

section Stop

variable {α : Type} {p : α → Bool} {x : α}

lemma takeWhile_append_stop (stops : p x = false) (xs ys : List α) :
    (xs ++ x :: ys).takeWhile p = xs.takeWhile p := by
  induction xs with
  | nil => simp [stops]
  | cons y xs ih => simp only [List.cons_append, List.takeWhile_cons, ih]

lemma dropWhile_append_stop (stops : p x = false) (xs ys : List α) :
    (xs ++ x :: ys).dropWhile p = xs.dropWhile p ++ x :: ys := by
  induction xs with
  | nil => simp [stops]
  | cons y xs ih =>
      simp only [List.cons_append, List.dropWhile_cons, ih]
      split <;> rfl

end Stop

namespace Row

/-- The row of a line that says nothing. -/
def blank : Row := ⟨"", []⟩

variable {line run : List Char}

/-- A comment is not in the row. -/
lemma ofChars_comment (line comment : List Char) :
    ofChars (line ++ '#' :: comment) = ofChars line := by
  have stops : (line ++ '#' :: comment).takeWhile (· ≠ '#') = line.takeWhile (· ≠ '#') :=
    takeWhile_append_stop (by decide) line comment
  simp only [ofChars, stops]

/-- **A gap ends the label or a word**, and its length is not in the row. -/
lemma ofChars_gap (unmarked : '#' ∉ line) (nonempty : run ≠ [])
    (blanks : ∀ c ∈ run, isBlank c = true) (rest : List Char) :
    ofChars (line ++ run ++ rest) =
      ⟨(ofChars line).label, (ofChars line).words ++
        (pieces isBlank (rest.takeWhile (· ≠ '#'))).map String.ofList⟩ := by
  have before : ∀ c ∈ line, decide (c ≠ '#') = true :=
    fun c hc => decide_eq_true (ne_of_mem_of_not_mem hc unmarked)
  have inside : ∀ c ∈ run, decide (c ≠ '#') = true :=
    fun c hc => decide_eq_true (ne_mark_of_blank (blanks c hc))
  have text : (line ++ run ++ rest).takeWhile (· ≠ '#') =
      line ++ run ++ rest.takeWhile (· ≠ '#') := by
    rw [List.append_assoc, List.takeWhile_append_of_pos before,
      List.takeWhile_append_of_pos inside, List.append_assoc]
  have whole : line.takeWhile (· ≠ '#') = line := List.takeWhile_eq_self_iff.mpr before
  obtain ⟨c, run, rfl⟩ := List.exists_cons_of_ne_nil nonempty
  have blank : isBlank c = true := blanks c (.head _)
  simp only [ofChars, text, whole]
  rw [List.append_assoc, List.cons_append, takeWhile_append_stop (by simp [blank]),
    dropWhile_append_stop (by simp [blank]), pieces_append_cons blank,
    pieces_append fun d hd => blanks d (.tail _ hd), List.map_append]

/-- Blanks at the end of a line are not in its row. -/
lemma ofChars_append_blanks (line : List Char) (blanks : ∀ c ∈ run, isBlank c = true) :
    ofChars (line ++ run) = ofChars line := by
  by_cases marked : '#' ∈ line
  · obtain ⟨text, comment, rfl⟩ := List.append_of_mem marked
    rw [List.append_assoc, List.cons_append, ofChars_comment, ofChars_comment]
  by_cases empty : run = []
  · rw [empty, List.append_nil]
  · have gap := ofChars_gap marked empty blanks []
    rw [List.append_nil] at gap
    rw [gap, List.takeWhile_nil, pieces_nil, List.map_nil, List.append_nil]

/-- One gap is as good as another. -/
lemma ofChars_gap_eq {run' : List Char} (nonempty : run ≠ []) (nonempty' : run' ≠ [])
    (blanks : ∀ c ∈ run, isBlank c = true) (blanks' : ∀ c ∈ run', isBlank c = true)
    (line rest : List Char) :
    ofChars (line ++ run ++ rest) = ofChars (line ++ run' ++ rest) := by
  by_cases marked : '#' ∈ line
  · obtain ⟨text, comment, rfl⟩ := List.append_of_mem marked
    simp only [List.append_assoc, List.cons_append, ofChars_comment]
  · rw [ofChars_gap marked nonempty blanks, ofChars_gap marked nonempty' blanks']

end Row

/-! ## The rows of a text -/

namespace Source

/-- **A text, line by line.**  What holds of a last line, and of a text if it holds behind its first
line, holds of every text. -/
theorem line_induction {P : List Char → Prop} (last : ∀ line, '\n' ∉ line → P line)
    (more : ∀ line rest, '\n' ∉ line → P rest → P (line ++ '\n' :: rest)) (text : List Char) :
    P text := by
  by_cases feed : '\n' ∈ text
  · obtain ⟨line, rest, rfl, free⟩ := List.eq_append_cons_of_mem feed
    exact more line rest free (line_induction last more rest)
  · exact last text feed
termination_by text.length
decreasing_by simp only [*, List.length_append, List.length_cons]; omega

/-- The rows of a text that say something. -/
def rows (text : List Char) : List Row :=
  ((pieces (· = '\n') text).map Row.ofChars).filter (· ≠ Row.blank)

@[simp]
lemma rows_nil : rows [] = [] := by simp [rows]

/-- The rows of a text are those of its parts, which are cut at a line feed. -/
lemma rows_append_lineFeed (front back : List Char) :
    rows (front ++ '\n' :: back) = rows front ++ rows back := by
  rw [rows, pieces_append_cons (by decide), List.map_append, List.filter_append]
  rfl

variable {line line' front back : List Char}

/-- The same holds where either part has a line feed at the cut, or is empty. -/
lemma rows_append (cut : (∀ c ∈ front.getLast?, c = '\n') ∨ ∀ c ∈ back.head?, c = '\n') :
    rows (front ++ back) = rows front ++ rows back := by
  rcases cut with before | behind
  · cases last : front.getLast? with
    | none => rw [List.getLast?_eq_none_iff.mp last, rows_nil, List.nil_append, List.nil_append]
    | some c =>
        obtain ⟨front, rfl⟩ := List.getLast?_eq_some_iff.mp last
        obtain rfl := before c last
        rw [List.append_assoc, List.singleton_append, rows_append_lineFeed, rows_append_lineFeed,
          rows_nil, List.append_nil]
  · cases back with
    | nil => rw [rows_nil, List.append_nil, List.append_nil]
    | cons c back =>
        obtain rfl := behind c rfl
        have alone := rows_append_lineFeed [] back
        rw [List.nil_append, rows_nil, List.nil_append] at alone
        rw [rows_append_lineFeed, alone]

lemma rows_of_line (free : '\n' ∉ line) :
    rows line = [Row.ofChars line].filter (· ≠ Row.blank) := by
  by_cases empty : line = []
  · subst empty
    decide
  · have inside : ∀ c ∈ line, decide (c = '\n') = false :=
      fun c hc => decide_eq_false (ne_of_mem_of_not_mem hc free)
    have piece : pieces (· = '\n') (line ++ []) = line :: pieces (· = '\n') [] :=
      pieces_of_word empty inside (by simp)
    rw [List.append_nil, pieces_nil] at piece
    rw [rows, piece, List.map_singleton]

/-- **Two ends of a line** that make the same row behind every beginning of it have the same rows
behind every text. -/
lemma rows_append_congr (free : '\n' ∉ line) (free' : '\n' ∉ line')
    (same : ∀ start, Row.ofChars (start ++ line) = Row.ofChars (start ++ line'))
    (text : List Char) : rows (text ++ line) = rows (text ++ line') := by
  -- The last line of the text is the beginning that the ends are put behind.
  induction text using line_induction with
  | last start unended =>
      rw [rows_of_line (by simp [unended, free]), rows_of_line (by simp [unended, free']),
        same start]
  | more start rest _ ih =>
      simp only [List.append_assoc, List.cons_append, rows_append_lineFeed, ih]

lemma ofChars_dropReturn (line : List Char) : Row.ofChars (dropReturn line) = Row.ofChars line := by
  rw [dropReturn]
  split
  next last =>
    obtain ⟨start, rfl⟩ := List.getLast?_eq_some_iff.mp last
    rw [List.dropLast_concat, Row.ofChars_append_blanks start (by simp [Row.isBlank])]
  next => rfl

/-- How the lines of a text end is not in their rows. -/
lemma rows_lines (text : List Char) :
    ((lines text).map Row.ofChars).filter (· ≠ Row.blank) = rows text := by
  induction text using line_induction with
  | last line free =>
      rw [rows_of_line free]
      by_cases empty : line = []
      · subst empty
        rw [lines, if_pos rfl]
        decide
      · rw [lines_of_last free empty, List.map_singleton]
  | more line rest free ih =>
      rw [lines_append_lineFeed free, rows_append_lineFeed, rows_of_line free, ← ih,
        ← List.filter_append, List.map_cons, ofChars_dropReturn]
      rfl

end Source

lemma Draft.addRow_blank (draft : Draft) : draft.addRow Row.blank = draft := by
  simp [addRow, addLabel, Row.blank]

/-- Rows that say nothing do nothing. -/
lemma Draft.foldl_addRow (rows : List Row) (draft : Draft) :
    (rows.filter (· ≠ Row.blank)).foldl addRow draft = rows.foldl addRow draft := by
  induction rows generalizing draft with
  | nil => rfl
  | cons row rows ih =>
      by_cases idle : row = Row.blank
      · rw [List.filter_cons_of_neg (by simpa using idle), ih, List.foldl_cons, idle, addRow_blank]
      · rw [List.filter_cons_of_pos (by simpa using idle), List.foldl_cons, ih, List.foldl_cons]

/-- **A program is loaded from the rows that say something.** -/
theorem Program.ofSource?_eq_rows (source : String) :
    ofSource? source = .ok (ofRows (Source.rows source.toList)) := by
  rw [ofSource?_eq, ← Source.rows_lines, ofRows, ofRows, Draft.foldl_addRow]

/-! ## Changes of layout -/

namespace Source

/-- A blank that does not end the line. -/
def isGap (c : Char) : Bool := Row.isBlank c && c ≠ '\n'

/-- **A line that says nothing**: blanks only, or a comment behind them. -/
inductive Idle : List Char → Prop where
  | blanks (run : List Char) (gap : ∀ c ∈ run, isGap c = true) : Idle run
  | comment (run comment : List Char) (gap : ∀ c ∈ run, isGap c = true) (free : '\n' ∉ comment) :
      Idle (run ++ '#' :: comment)

/-- A character, with a carriage return before it if it is a line feed. -/
def withReturn (c : Char) : List Char := if c = '\n' then ['\r', '\n'] else [c]

/-- **A change of layout.** -/
inductive Edit : List Char → List Char → Prop where
  /-- Every line feed gets a carriage return before it. -/
  | returns (text : List Char) : Edit text (text.flatMap withReturn)
  /-- A line feed is put at the end. -/
  | lineFeed (text : List Char) : Edit text (text ++ ['\n'])
  /-- A comment is put at the end of a line, behind the blanks there or before some of them. -/
  | comment (before comment run after : List Char) (free : '\n' ∉ comment)
      (gap : ∀ c ∈ run, isGap c = true) (ended : ∀ c ∈ after.head?, c = '\n') :
      Edit (before ++ run ++ after) (before ++ '#' :: comment ++ run ++ after)
  /-- A gap is replaced by another one. -/
  | gap (before run run' after : List Char) (nonempty : run ≠ []) (nonempty' : run' ≠ [])
      (gap : ∀ c ∈ run, isGap c = true) (gap' : ∀ c ∈ run', isGap c = true) :
      Edit (before ++ run ++ after) (before ++ run' ++ after)
  /-- A line that says nothing is put before a line. -/
  | lineBefore (before line after : List Char) (started : ∀ c ∈ before.getLast?, c = '\n')
      (idle : Idle line) : Edit (before ++ after) (before ++ line ++ '\n' :: after)
  /-- A line that says nothing is put behind a line. -/
  | lineBehind (before line after : List Char) (ended : ∀ c ∈ after.head?, c = '\n')
      (idle : Idle line) : Edit (before ++ after) (before ++ '\n' :: line ++ after)

variable {run text text' : List Char}

lemma of_isGap (gap : ∀ c ∈ run, isGap c = true) :
    (∀ c ∈ run, Row.isBlank c = true) ∧ '\n' ∉ run := by
  constructor
  · intro c hc
    exact (Bool.and_eq_true_iff.mp (gap c hc)).1
  · intro feed
    exact absurd (gap _ feed) (by decide)

/-- A line that says nothing has no rows. -/
lemma Idle.rows_eq (idle : Idle text) : rows text = [] := by
  have empty : ∀ {run : List Char}, (∀ c ∈ run, isGap c = true) → Row.ofChars run = Row.blank :=
    fun gap => Row.ofChars_append_blanks [] (of_isGap gap).1
  cases idle with
  | blanks run gap =>
      rw [rows_of_line (of_isGap gap).2, empty gap]
      simp
  | comment run comment gap free =>
      rw [rows_of_line (by simp [(of_isGap gap).2, free]), Row.ofChars_comment, empty gap]
      simp

lemma flatMap_withReturn (free : '\n' ∉ text) : text.flatMap withReturn = text := by
  induction text with
  | nil => rfl
  | cons c text ih =>
      rw [List.mem_cons, not_or] at free
      rw [List.flatMap_cons, ih free.2, withReturn, if_neg (Ne.symm free.1), List.singleton_append]

/-- A carriage return before every line feed is not in the rows. -/
lemma rows_flatMap_withReturn (text : List Char) : rows (text.flatMap withReturn) = rows text := by
  induction text using line_induction with
  | last line free => rw [flatMap_withReturn free]
  | more line rest free ih =>
      have ended : rows (line ++ ['\r']) = rows line := by
        rw [rows_of_line (by simp [free]), rows_of_line free,
          Row.ofChars_append_blanks line (by simp [Row.isBlank])]
      have text : (line ++ '\n' :: rest).flatMap withReturn =
          line ++ ['\r'] ++ '\n' :: rest.flatMap withReturn := by
        rw [List.flatMap_append, flatMap_withReturn free, List.flatMap_cons, withReturn, if_pos rfl]
        simp
      rw [text, rows_append_lineFeed, rows_append_lineFeed, ended, ih]

/-- The rest of a line, and what follows it. -/
lemma exists_line_end (text : List Char) : ∃ rest behind, text = rest ++ behind ∧ '\n' ∉ rest ∧
    ∀ c ∈ behind.head?, c = '\n' := by
  refine ⟨text.takeWhile (· ≠ '\n'), text.dropWhile (· ≠ '\n'), ?_, fun feed => ?_, fun c hc => ?_⟩
  · exact List.takeWhile_append_dropWhile.symm
  · simpa using List.mem_takeWhile_imp feed
  · simpa using not_of_mem_head?_dropWhile hc

/-- **No change of layout is in the rows.** -/
theorem Edit.rows_eq (edit : Edit text text') : rows text' = rows text := by
  cases edit with
  | returns => exact rows_flatMap_withReturn text
  | lineFeed => rw [rows_append_lineFeed, rows_nil, List.append_nil]
  | comment before comment run after free gap ended =>
      obtain ⟨blanks, free'⟩ := of_isGap gap
      have same : ∀ start, Row.ofChars (start ++ ('#' :: comment ++ run)) =
          Row.ofChars (start ++ run) := by
        intro start
        rw [List.cons_append, Row.ofChars_comment, Row.ofChars_append_blanks start blanks]
      rw [rows_append (.inr ended), rows_append (.inr ended), List.append_assoc,
        rows_append_congr (by simp [free, free']) free' same]
  | gap before run run' after nonempty nonempty' gap gap' =>
      obtain ⟨blanks, free⟩ := of_isGap gap
      obtain ⟨blanks', free'⟩ := of_isGap gap'
      obtain ⟨rest, behind, rfl, unended, ended⟩ := exists_line_end after
      have same : ∀ start, Row.ofChars (start ++ (run' ++ rest)) =
          Row.ofChars (start ++ (run ++ rest)) := by
        intro start
        simp only [← List.append_assoc]
        exact Row.ofChars_gap_eq nonempty' nonempty blanks' blanks start rest
      have parts : ∀ gap,
          before ++ gap ++ (rest ++ behind) = before ++ (gap ++ rest) ++ behind := by
        simp
      rw [parts, parts, rows_append (.inr ended), rows_append (.inr ended),
        rows_append_congr (by simp [free', unended]) (by simp [free, unended]) same]
  | lineBefore before line after started idle =>
      rw [rows_append_lineFeed, rows_append (.inl started), rows_append (.inl started),
        idle.rows_eq, List.append_nil]
  | lineBehind before line after ended idle =>
      rw [rows_append (.inr ended), rows_append (.inr ended), rows_append_lineFeed, idle.rows_eq,
        List.append_nil]

end Source

/-- **The layout of a source text does not matter.** -/
theorem layout_does_not_matter {source source' : String}
    (alike : Relation.EqvGen Source.Edit source.toList source'.toList) :
    ∃ loaded, Program.ofSource? source = .ok loaded ∧ Program.ofSource? source' = .ok loaded := by
  have rows : ∀ {text text'}, Relation.EqvGen Source.Edit text text' →
      Source.rows text = Source.rows text' := by
    intro text text' alike
    induction alike with
    | rel _ _ edit => exact edit.rows_eq.symm
    | refl _ => rfl
    | symm _ _ _ ih => exact ih.symm
    | trans _ _ _ _ _ ih ih' => exact ih.trans ih'
  refine ⟨_, Program.ofSource?_eq_rows source, ?_⟩
  rw [Program.ofSource?_eq_rows, rows alike]

/-- A text with another gap, a comment, an idle line and other line ends, the last of which is left
out half-way. -/
theorem layout_does_not_matter_mixed : ∃ loaded,
    Program.ofSource? "a LIT 1\n  HALT\n" = .ok loaded ∧
      Program.ofSource? "a\t LIT 1#one\r\n #\r\n  HALT\r" = .ok loaded := by
  have gap : Source.Edit "a LIT 1\n  HALT\n".toList "a\t LIT 1\n  HALT\n".toList :=
    .gap ['a'] [' '] ['\t', ' '] "LIT 1\n  HALT\n".toList (by simp) (by simp)
      (by simp [Source.isGap, Row.isBlank]) (by simp [Source.isGap, Row.isBlank])
  have comment : Source.Edit "a\t LIT 1\n  HALT\n".toList "a\t LIT 1#one\n  HALT\n".toList :=
    .comment "a\t LIT 1".toList "one".toList [] ('\n' :: "  HALT\n".toList) (by simp) (by simp)
      (by simp)
  have idle : Source.Edit "a\t LIT 1#one\n  HALT\n".toList
      "a\t LIT 1#one\n #\n  HALT\n".toList :=
    .lineBefore ("a\t LIT 1#one".toList ++ ['\n']) [' ', '#'] "  HALT\n".toList (by simp)
      (.comment [' '] [] (by simp [Source.isGap, Row.isBlank]) (by simp))
  have returns : Source.Edit "a\t LIT 1#one\n #\n  HALT\n".toList
      "a\t LIT 1#one\r\n #\r\n  HALT\r\n".toList := .returns _
  have lineFeed : Source.Edit "a\t LIT 1#one\r\n #\r\n  HALT\r".toList
      "a\t LIT 1#one\r\n #\r\n  HALT\r\n".toList := .lineFeed _
  refine layout_does_not_matter ?_
  refine Relation.EqvGen.trans _ _ _ (Relation.EqvGen.rel _ _ gap) ?_
  refine Relation.EqvGen.trans _ _ _ (Relation.EqvGen.rel _ _ comment) ?_
  refine Relation.EqvGen.trans _ _ _ (Relation.EqvGen.rel _ _ idle) ?_
  refine Relation.EqvGen.trans _ _ _ (Relation.EqvGen.rel _ _ returns) ?_
  exact Relation.EqvGen.symm _ _ (Relation.EqvGen.rel _ _ lineFeed)

end StackMachine

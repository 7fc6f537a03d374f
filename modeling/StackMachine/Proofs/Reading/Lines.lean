import Mathlib.Data.List.TakeWhile
import StackMachine.Proofs.Console
import StackMachine.Proofs.Source.Utf8

/-!
# The lines of an input

The input is cut behind every line feed, and what is left at its end is a line as well if it is not
empty.  A read takes the first line and leaves the others as they are.  The line says something if
it is text, and then all line feeds and carriage returns at its end are no part of what it says.

The lines are cut here by looking at one byte after the other, which has nothing to do with how a
line is read.

* `Blank.dropTrailing_append`, `Blank.exists_dropTrailing` — ends of texts.
* `Console.lines`, `Console.lines_eq_cons` — the lines, of which the first is read.
* `Console.Bears` — the text of a line.
* `Console.line_of_bears`, `Console.line_of_noise`, `Console.line_of_none` — what a read gets.
-/

namespace StackMachine

/-! ## Ends of texts -/

namespace Blank

variable {α : Type} {p : α → Bool}

/-- A list ends in the suffix that is dropped. -/
lemma exists_dropTrailing (p : α → Bool) (xs : List α) :
    ∃ ending, xs = dropTrailing p xs ++ ending ∧ ∀ x ∈ ending, p x = true := by
  refine ⟨(xs.reverse.takeWhile p).reverse, ?_, fun x hx => ?_⟩
  · rw [dropTrailing, ← List.reverse_append, List.takeWhile_append_dropWhile, List.reverse_reverse]
  · exact List.mem_takeWhile_imp (List.mem_reverse.mp hx)

/-- What is left does not end in what is dropped. -/
lemma getLast?_dropTrailing (p : α → Bool) (xs : List α) :
    ∀ x ∈ (dropTrailing p xs).getLast?, p x = false := by
  intro x hx
  rw [dropTrailing, List.getLast?_reverse] at hx
  have kept := List.head?_dropWhile_not p xs.reverse
  rw [hx] at kept
  simpa using kept

lemma dropTrailing_append {xs ending : List α} (hending : ∀ x ∈ ending, p x = true)
    (hlast : ∀ x ∈ xs.getLast?, p x = false) : dropTrailing p (xs ++ ending) = xs := by
  have kept : xs.reverse.dropWhile p = xs.reverse := by
    cases back : xs.reverse with
    | nil => rfl
    | cons x rest =>
        have last : p x = false := hlast x (by rw [← List.head?_reverse, back]; rfl)
        exact List.dropWhile_cons_of_neg (by simp [last])
  rw [dropTrailing, List.reverse_append,
    List.dropWhile_append_of_pos fun x hx => hending x (List.mem_reverse.mp hx), kept,
    List.reverse_reverse]

/-- **A text without the blanks around it** is what is left by trimming. -/
lemma trim_append {before text behind : List Char} (hbefore : ∀ c ∈ before, isUnicode c = true)
    (hbehind : ∀ c ∈ behind, isUnicode c = true) (htext : ∀ c ∈ text, isUnicode c = false)
    (nonempty : text ≠ []) : trim (before ++ text ++ behind) = text := by
  have kept : (text ++ behind).dropWhile isUnicode = text ++ behind := by
    obtain ⟨c, rest, rfl⟩ := List.exists_cons_of_ne_nil nonempty
    exact List.dropWhile_cons_of_neg (by simp [htext c (.head _)])
  rw [trim, List.append_assoc, List.dropWhile_append_of_pos hbefore, kept]
  exact dropTrailing_append hbehind fun c hc => htext c (List.mem_of_getLast? hc)

/-- A text is what trimming leaves, with blanks around it. -/
lemma exists_trim (text : List Char) : ∃ before behind, text = before ++ trim text ++ behind ∧
    (∀ c ∈ before, isUnicode c = true) ∧ ∀ c ∈ behind, isUnicode c = true := by
  obtain ⟨behind, same, hbehind⟩ := exists_dropTrailing isUnicode (text.dropWhile isUnicode)
  refine ⟨text.takeWhile isUnicode, behind, ?_, fun _ => List.mem_takeWhile_imp, hbehind⟩
  rw [trim, List.append_assoc, ← same, List.takeWhile_append_dropWhile]

end Blank

/-! ## Lines -/

namespace Console

/-- **The lines of some bytes.**  A line ends with its line feed, or else with the bytes. -/
def lines : List UInt8 → List (List UInt8)
  | [] => []
  | byte :: bytes =>
    if byte = lineFeed then
      [byte] :: lines bytes
    else
      match lines bytes with
      | [] => [[byte]]
      | line :: rest => (byte :: line) :: rest

lemma lines_lineFeed (bytes : List UInt8) : lines (lineFeed :: bytes) = [lineFeed] :: lines bytes :=
  if_pos rfl

lemma lines_cons {byte : UInt8} (h : byte ≠ lineFeed) (bytes : List UInt8) :
    lines (byte :: bytes) = (byte :: (lines bytes).headD []) :: (lines bytes).tail := by
  rw [lines, if_neg h]
  cases lines bytes <;> rfl

lemma firstLine_lineFeed (bytes : List UInt8) :
    firstLine (lineFeed :: bytes) = ([lineFeed], bytes) := by
  simp [firstLine]

lemma firstLine_cons {byte : UInt8} (h : byte ≠ lineFeed) (bytes : List UInt8) :
    firstLine (byte :: bytes) = (byte :: (firstLine bytes).1, (firstLine bytes).2) := by
  have inside : decide (byte ≠ lineFeed) = true := decide_eq_true h
  simp only [firstLine, List.takeWhile_cons, List.dropWhile_cons, inside, if_true]
  cases bytes.dropWhile fun byte => decide (byte ≠ lineFeed) <;> rfl

/-- No byte is lost between the lines, or belongs to two of them. -/
lemma flatten_lines (input : List UInt8) : (lines input).flatten = input := by
  induction input with
  | nil => rfl
  | cons byte bytes ih =>
      by_cases feed : byte = lineFeed
      · subst feed
        rw [lines_lineFeed, List.flatten_cons, ih, List.singleton_append]
      · rw [lines_cons feed]
        cases cut : lines bytes with
        | nil =>
            rw [cut] at ih
            simp [← ih]
        | cons line rest =>
            rw [cut] at ih
            simp [← ih]

/-- **The line that is read is the first one**, and the others are left. -/
lemma lines_eq_cons {input : List UInt8} (h : input ≠ []) :
    lines input = (firstLine input).1 :: lines (firstLine input).2 := by
  induction input with
  | nil => exact absurd rfl h
  | cons byte bytes ih =>
      by_cases feed : byte = lineFeed
      · subst feed
        rw [lines_lineFeed, firstLine_lineFeed]
      · rw [lines_cons feed, firstLine_cons feed]
        by_cases last : bytes = []
        · subst last
          rfl
        · rw [ih last, List.headD_cons, List.tail_cons]

lemma lines_rest (input : List UInt8) : lines (firstLine input).2 = (lines input).tail := by
  by_cases h : input = []
  · subst h
    rfl
  · rw [lines_eq_cons h, List.tail_cons]

/-! ## Texts -/

/-- **The text of a line**: what is left of it without all line feeds and carriage returns at its
end. -/
def Bears (line : List UInt8) (text : List Char) : Prop :=
  ∃ ending, line = utf8 (text ++ ending) ∧ (∀ c ∈ ending, isLineEnd c = true) ∧
    ∀ c ∈ text.getLast?, isLineEnd c = false

variable {input bytes : List UInt8} {text : List Char}

/-- Every line of text bears one, which may be empty. -/
lemma exists_bears (text : List Char) : ∃ said, Bears (utf8 text) said := by
  obtain ⟨ending, same, hending⟩ := Blank.exists_dropTrailing isLineEnd text
  exact ⟨_, ending, congrArg utf8 same, hending, Blank.getLast?_dropTrailing isLineEnd text⟩

lemma isValidUTF8_iff : bytes.toByteArray.IsValidUTF8 ↔ ∃ text, utf8 text = bytes := by
  constructor
  · rintro ⟨text, same⟩
    refine ⟨text, ?_⟩
    have listed := congrArg (fun array => array.data.toList) same
    simpa [List.utf8Encode, utf8] using listed.symm
  · rintro ⟨text, rfl⟩
    exact ⟨text, rfl⟩

lemma line_of_none (h : (lines input).head? = none) : line input = .error .endOfInput := by
  by_cases empty : input = []
  · subst empty
    rfl
  · rw [lines_eq_cons empty] at h
    cases h

/-- A line that is there is decoded. -/
lemma line_of_some (h : (lines input).head? = some bytes) :
    line input = match String.fromUTF8? bytes.toByteArray with
      | some text => .ok (String.ofList (Blank.dropTrailing isLineEnd text.toList))
      | none => .error .inputNotUtf8 := by
  have nonempty : input ≠ [] := by
    rintro rfl
    cases h
  rw [lines_eq_cons nonempty, List.head?_cons, Option.some.injEq] at h
  subst h
  cases decoded : String.fromUTF8? (firstLine input).1.toByteArray <;>
    simp [line, nonempty, decoded]

lemma line_of_noise (h : (lines input).head? = some bytes)
    (noise : ∀ text, utf8 text ≠ bytes) : line input = .error .inputNotUtf8 := by
  have invalid : ¬ bytes.toByteArray.IsValidUTF8 := by
    intro valid
    obtain ⟨text, same⟩ := isValidUTF8_iff.mp valid
    exact noise text same
  rw [line_of_some h, String.fromUTF8?, dif_neg invalid]

lemma line_of_bears (h : (lines input).head? = some bytes)
    (bears : Bears bytes text) : line input = .ok (String.ofList text) := by
  obtain ⟨ending, rfl, hending, hlast⟩ := bears
  have decoded : String.fromUTF8? (utf8 (text ++ ending)).toByteArray =
      some (String.ofList (text ++ ending)) :=
    decode?_utf8 _
  rw [line_of_some h, decoded]
  simp only [String.toList_ofList, Blank.dropTrailing_append hending hlast]

end Console

end StackMachine

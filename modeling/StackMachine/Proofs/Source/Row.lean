import Mathlib.Data.List.TakeWhile
import StackMachine.Program.Load
import StackMachine.Proofs.Source.Utf8

/-!
# Rows by characters

What the splitter finds in the bytes of a line can be said of its characters: up to the comment, the
label is what comes before the first blank, and the words are the pieces between the blanks that
follow.  Every line has such a row, so no line is malformed, and a program fails to load only when
it is not text at all.

* `pieces` — what lies between separators, without the empty pieces.
* `Row.ofChars` — the row of a line, by its characters.
* `Row.takeWords_utf8` — the loop over words finds the bytes of the pieces, and stops at a comment
  or at the end of the line.
* `row_of_line` — the splitter finds this row in every line, and cuts no character in two.
-/

namespace StackMachine

/-! ## Pieces -/

lemma not_of_mem_head?_dropWhile {α : Type} {p : α → Bool} {xs : List α} {x : α}
    (h : x ∈ (xs.dropWhile p).head?) : p x = false := by
  have hnot := List.head?_dropWhile_not p xs
  rw [Option.mem_def] at h
  rwa [h] at hnot

section Pieces

variable {α : Type} {separates : α → Bool}

/-- What lies between separators.  Separators that follow each other have nothing between them. -/
def pieces (separates : α → Bool) (xs : List α) : List (List α) :=
  (xs.splitOnP separates).filter (· ≠ [])

@[simp]
lemma pieces_nil : pieces separates [] = [] := by simp [pieces]

/-- A separator at the beginning has nothing before it. -/
lemma pieces_cons {x : α} (hx : separates x = true) (xs : List α) :
    pieces separates (x :: xs) = pieces separates xs := by
  rw [pieces, List.splitOnP_cons_eq_if_modifyHead, if_pos hx, List.filter_cons_of_neg (by simp)]
  rfl

lemma pieces_append {blanks : List α} (h : ∀ x ∈ blanks, separates x = true) (xs : List α) :
    pieces separates (blanks ++ xs) = pieces separates xs := by
  induction blanks with
  | nil => rfl
  | cons x blanks ih =>
      rw [List.cons_append, pieces_cons (h x (.head _)), ih fun y hy => h y (.tail _ hy)]

/-- No piece goes on behind a separator. -/
lemma pieces_append_cons {x : α} (hx : separates x = true) (xs ys : List α) :
    pieces separates (xs ++ x :: ys) = pieces separates xs ++ pieces separates ys := by
  rw [pieces, List.splitOnP_append_cons xs ys hx, List.filter_append]
  rfl

/-- The first piece ends before the first separator behind it. -/
lemma pieces_of_word {word rest : List α} (hne : word ≠ [])
    (hword : ∀ x ∈ word, separates x = false) (hrest : ∀ x ∈ rest.head?, separates x = true) :
    pieces separates (word ++ rest) = word :: pieces separates rest := by
  cases rest with
  | nil => simp [pieces, List.splitOnP_eq_singleton hword, hne]
  | cons x rest =>
      have hx : separates x = true := hrest x rfl
      rw [pieces_cons hx, pieces, List.splitOnP_append_cons_of_forall_mem hword x hx,
        List.filter_cons_of_pos (by simpa using hne)]
      rfl

lemma mem_of_mem_pieces {piece xs : List α} (h : piece ∈ pieces separates xs) {x : α}
    (hx : x ∈ piece) : x ∈ xs := by
  have hsplit : piece ∈ xs.splitOnP separates := (List.mem_filter.mp h).1
  clear h
  induction xs generalizing piece with
  | nil =>
      rw [List.splitOnP_nil, List.mem_singleton] at hsplit
      rwa [hsplit] at hx
  | cons y xs ih =>
      obtain ⟨first, others, hxs⟩ := List.exists_cons_of_ne_nil
        (List.splitOnP_ne_nil separates xs)
      rw [List.splitOnP_cons_eq_if_modifyHead] at hsplit
      split at hsplit
      · rcases List.mem_cons.mp hsplit with rfl | hrest
        · exact nomatch hx
        · exact List.mem_cons_of_mem _ (ih hx hrest)
      · rw [hxs, List.modifyHead_cons, List.mem_cons] at hsplit
        rcases hsplit with rfl | hrest
        · rcases List.mem_cons.mp hx with rfl | hx
          · exact List.mem_cons_self
          · exact List.mem_cons_of_mem _ (ih hx (by simp [hxs]))
        · exact List.mem_cons_of_mem _ (ih hx (by simp [hxs, hrest]))

end Pieces

/-! ## The row of a line -/

namespace Row

/-- The ASCII blanks, as characters. -/
def isBlank (c : Char) : Bool := c = ' ' || c = '\t' || c = '\n' || c = '\x0c' || c = '\r'

/-- **The row of a line, by its characters.**  It is found in what comes before the comment: the
label before the first blank, and the words between blanks behind it. -/
def ofChars (line : List Char) : Row :=
  let text := line.takeWhile (· ≠ '#')
  { label := String.ofList (text.takeWhile (!isBlank ·))
    words := (pieces isBlank (text.dropWhile (!isBlank ·))).map String.ofList }

/-- The characters of labels and words. -/
def isWordChar (c : Char) : Bool := !isBlank c && c ≠ '#'

lemma tests_isAscii : Tests Blank.isAscii isBlank := by
  refine Tests.of_ascii false (by decide) ?_ ?_
  · intro byte hbyte
    simp only [Blank.isAscii, Bool.or_eq_false_iff, decide_eq_false_iff_not]
    refine ⟨⟨⟨⟨?_, ?_⟩, ?_⟩, ?_⟩, ?_⟩ <;>
      · rintro rfl
        exact absurd hbyte (by decide)
  · intro c hc
    simp only [isBlank, Bool.or_eq_false_iff, decide_eq_false_iff_not]
    refine ⟨⟨⟨⟨?_, ?_⟩, ?_⟩, ?_⟩, ?_⟩ <;>
      · rintro rfl
        exact absurd hc (by decide)

lemma tests_isWordByte : Tests isWordByte isWordChar := by
  have hmark : Tests (· != commentMark) (· ≠ '#') := by
    refine Tests.of_ascii true (by decide) ?_ ?_
    · intro byte hbyte
      refine bne_iff_ne.mpr ?_
      rintro rfl
      exact absurd hbyte (by decide)
    · intro c hc
      refine decide_eq_true ?_
      rintro rfl
      exact absurd hc (by decide)
  intro c byte hbyte
  have hmark' : (byte != commentMark) = decide (c ≠ '#') := hmark c byte hbyte
  simp only [isWordByte, isWordChar, tests_isAscii c byte hbyte, hmark']

/-! ## The loop over words -/

lemma takeWords_of_none {bytes : List UInt8} (h : nextWord? bytes = none) :
    takeWords bytes = ([], bytes) := by
  rw [takeWords]
  split
  next => rfl
  next hsome => cases h.symm.trans hsome

lemma takeWords_of_some {bytes word rest : List UInt8} (h : nextWord? bytes = some (word, rest)) :
    takeWords bytes = (word :: (takeWords rest).1, (takeWords rest).2) := by
  rw [takeWords]
  split
  next hnone => cases h.symm.trans hnone
  next hsome =>
    obtain ⟨rfl, rfl⟩ := Prod.mk.inj (Option.some.inj (h.symm.trans hsome))
    rfl

lemma isBlank_of_not_word {c : Char} (hword : isWordChar c = false) (hmark : c ≠ '#') :
    isBlank c = true := by
  simpa [isWordChar, hmark] using hword

lemma of_isWordChar {c : Char} (hword : isWordChar c = true) : isBlank c = false ∧ c ≠ '#' := by
  simpa [isWordChar] using hword

lemma ne_mark_of_blank {c : Char} (hblank : isBlank c = true) : c ≠ '#' := by
  rintro rfl
  exact absurd hblank (by decide)

/-- **The next word.**  A line is blanks, then a word, then what does not go on with the word; the
word is found when there are blanks before it.  Without a word the blanks reach up to the comment or
the end of the line. -/
lemma nextWord?_utf8 (cs : List Char) :
    ∃ blanks word rest, cs = blanks ++ (word ++ rest) ∧
      (∀ c ∈ blanks, isBlank c = true) ∧ (∀ c ∈ word, isWordChar c = true) ∧
      (∀ c ∈ rest.head?, isWordChar c = false) ∧ (word = [] → ∀ c ∈ rest.head?, c = '#') ∧
      nextWord? (utf8 cs) =
        if blanks ≠ [] ∧ word ≠ [] then some (utf8 word, utf8 rest) else none := by
  have hsplit := List.takeWhile_append_dropWhile (p := isBlank) (l := cs)
  have hsplit' := List.takeWhile_append_dropWhile (p := isWordChar) (l := cs.dropWhile isBlank)
  have hstop : ∀ c ∈ ((cs.dropWhile isBlank).dropWhile isWordChar).head?, isWordChar c = false :=
    fun _ => not_of_mem_head?_dropWhile
  refine ⟨_, _, _, by rw [hsplit', hsplit], fun _ => List.mem_takeWhile_imp,
    fun _ => List.mem_takeWhile_imp, hstop, ?_, ?_⟩
  · intro hword c hc
    have hblank : isBlank c = false := by
      rw [hword, List.nil_append] at hsplit'
      rw [hsplit'] at hc
      exact not_of_mem_head?_dropWhile hc
    by_contra hmark
    exact absurd (isBlank_of_not_word (hstop c hc) hmark) (by simp [hblank])
  · have hblanks : (utf8 (cs.dropWhile isBlank)).length < (utf8 cs).length ↔
        cs.takeWhile isBlank ≠ [] := by
      have hlength := congrArg List.length
        (utf8_append (cs.takeWhile isBlank) (cs.dropWhile isBlank))
      rw [hsplit, List.length_append] at hlength
      rw [hlength, ← utf8_ne_nil, ← List.length_pos_iff]
      omega
    simp only [nextWord?, tests_isAscii.dropWhile_utf8, tests_isWordByte.takeWhile_utf8,
      tests_isWordByte.dropWhile_utf8, hblanks, utf8_ne_nil]

/-- **The loop over words**, from a place where no word begins, finds the pieces up to the comment.
Behind them there are only blanks before the comment or the end of the line. -/
theorem takeWords_utf8 (cs : List Char) (h : ∀ c ∈ cs.head?, isWordChar c = false) :
    ∃ rest, takeWords (utf8 cs) =
        ((pieces isBlank (cs.takeWhile (· ≠ '#'))).map utf8, utf8 rest) ∧
      ∀ c ∈ (rest.dropWhile isBlank).head?, c = '#' := by
  obtain ⟨blanks, word, rest, rfl, hblanks, hword, hrest, hmark, hnext⟩ := nextWord?_utf8 cs
  have htext : ∀ xs, (blanks ++ xs).takeWhile (· ≠ '#') = blanks ++ xs.takeWhile (· ≠ '#') :=
    fun xs => List.takeWhile_append_of_pos fun c hc => by
      simpa using ne_mark_of_blank (hblanks c hc)
  by_cases hne : word = []
  · subst hne
    refine ⟨blanks ++ rest, ?_, ?_⟩
    · have hend : rest.takeWhile (· ≠ '#') = [] := by
        cases rest with
        | nil => rfl
        | cons c rest => simp [hmark rfl c rfl]
      rw [takeWords_of_none (by simpa using hnext), List.nil_append, htext, hend,
        pieces_append hblanks, pieces_nil, List.map_nil]
    · intro c hc
      rw [List.dropWhile_append_of_pos hblanks] at hc
      cases rest with
      | nil => exact nomatch hc
      | cons d rest =>
          have hd := hmark rfl d rfl
          subst hd
          exact (Option.some.inj hc).symm
  · have hne' : blanks ≠ [] := by
      rintro rfl
      obtain ⟨first, word, rfl⟩ := List.exists_cons_of_ne_nil hne
      exact absurd (hword first (.head _)) (by simp [h first rfl])
    have hshort : rest.length < (blanks ++ (word ++ rest)).length := by
      have := List.length_pos_iff.mpr hne
      simp only [List.length_append]
      omega
    obtain ⟨last, hwords, hlast⟩ := takeWords_utf8 rest hrest
    refine ⟨last, ?_, hlast⟩
    have hfirst : (word ++ rest).takeWhile (· ≠ '#') = word ++ rest.takeWhile (· ≠ '#') :=
      List.takeWhile_append_of_pos fun c hc => by simpa using (of_isWordChar (hword c hc)).2
    have hnext' : ∀ c ∈ (rest.takeWhile (· ≠ '#')).head?, isBlank c = true := by
      intro c hc
      rw [List.head?_takeWhile, Option.mem_def, Option.filter_eq_some_iff] at hc
      exact isBlank_of_not_word (hrest c hc.1) (by simpa using hc.2)
    rw [takeWords_of_some (by simpa [hne, hne'] using hnext), hwords, htext, hfirst,
      pieces_append hblanks, pieces_of_word hne (fun c hc => (of_isWordChar (hword c hc)).1) hnext',
      List.map_cons]
termination_by cs.length

/-! ## Lines -/

/-- Cutting at a mark and dropping a prefix without it can be done in either order. -/
lemma dropWhile_takeWhile {α : Type} (p q : α → Bool) (xs : List α) :
    (xs.takeWhile q).dropWhile p = (xs.dropWhile fun x => p x && q x).takeWhile q := by
  induction xs with
  | nil => rfl
  | cons x xs ih =>
      by_cases hq : q x = true
      · by_cases hp : p x = true
        · simp [hp, hq, ih]
        · simp [hp, hq]
      · simp [hq]

lemma ofChars_label (line : List Char) :
    (ofChars line).label = String.ofList (line.takeWhile isWordChar) := by
  simp only [ofChars, List.takeWhile_takeWhile]
  congr 2
  funext c
  simp [isWordChar]

lemma ofChars_words (line : List Char) :
    (ofChars line).words = (pieces isBlank
      ((line.dropWhile isWordChar).takeWhile (· ≠ '#'))).map String.ofList := by
  simp only [ofChars, dropWhile_takeWhile]
  rfl

lemma mapM_decode?_utf8 (words : List String) :
    (words.map fun word => utf8 word.toList).mapM decode? = some words := by
  induction words with
  | nil => rfl
  | cons word words ih => simp [decode?_utf8, ih]

lemma mem_of_mem_ofChars {line : List Char} {c : Char}
    (h : c ∈ (ofChars line).label.toList ∨ ∃ word ∈ (ofChars line).words, c ∈ word.toList) :
    c ∈ line := by
  rcases h with hlabel | ⟨word, hword, hc⟩
  · rw [ofChars_label, String.toList_ofList] at hlabel
    exact List.takeWhile_subset _ hlabel
  · rw [ofChars_words] at hword
    obtain ⟨piece, hpiece, rfl⟩ := List.mem_map.mp hword
    rw [String.toList_ofList] at hc
    have hmem := List.takeWhile_subset _ (mem_of_mem_pieces hpiece hc)
    exact (List.dropWhile_sublist _).subset hmem

/-- What the splitter cuts out of a line are the bytes of its label and of its words. -/
lemma cuts_of_line (line : List Char) :
    (utf8 line).takeWhile isWordByte = utf8 (ofChars line).label.toList ∧
    ∃ rest, takeWords ((utf8 line).dropWhile isWordByte) =
        ((ofChars line).words.map fun word => utf8 word.toList, utf8 rest) ∧
      ∀ c ∈ (rest.dropWhile isBlank).head?, c = '#' := by
  have hstop : ∀ c ∈ (line.dropWhile isWordChar).head?, isWordChar c = false :=
    fun _ => not_of_mem_head?_dropWhile
  obtain ⟨rest, hwords, hrest⟩ := takeWords_utf8 _ hstop
  refine ⟨?_, rest, ?_, hrest⟩
  · rw [tests_isWordByte.takeWhile_utf8, ofChars_label, String.toList_ofList]
  · rw [tests_isWordByte.dropWhile_utf8, hwords, ofChars_words, List.map_map]
    simp [Function.comp_def]

/-- The splitter finds the row of every line. -/
lemma split?_eq_ofChars (line : String) : split? line = some (ofChars line.toList) := by
  obtain ⟨hlabel, rest, hwords, hrest⟩ := cuts_of_line line.toList
  have hend : (utf8 rest).dropWhile Blank.isAscii = utf8 (rest.dropWhile isBlank) :=
    tests_isAscii.dropWhile_utf8 rest
  rw [split?, toList_toUTF8, hwords]
  dsimp only
  rw [hlabel, hend, decode?_utf8, mapM_decode?_utf8, String.ofList_toList]
  cases hlast : rest.dropWhile isBlank with
  | nil => rfl
  | cons c cs =>
      rw [hrest c (by rw [hlast]; rfl)]
      rfl

/-- The vertical tab and the no-break space are no blanks. -/
example : split? "fünf\t LIT\x0b5\u00a0 # LIT 5" = some ⟨"fünf", ["LIT\x0b5\u00a0"]⟩ := by
  rw [split?_eq_ofChars]
  decide

end Row

/-! ## Loading -/

namespace Program

lemma rows?_eq (number : Nat) (lines : List (List Char)) :
    rows? number lines = .ok (lines.map Row.ofChars) := by
  induction lines generalizing number with
  | nil => rfl
  | cons line lines ih =>
      simp only [rows?, Row.split?_eq_ofChars, String.toList_ofList, ih]
      rfl

/-- Every text is the text of a program. -/
lemma ofSource?_eq (source : String) :
    ofSource? source = .ok (ofRows ((Source.lines source.toList).map Row.ofChars)) := by
  rw [ofSource?, rows?_eq]
  rfl

lemma ofBytes?_eq_error_iff (bytes : ByteArray) :
    (∃ error, ofBytes? bytes = .error error) ↔ ¬ bytes.IsValidUTF8 := by
  simp only [ofBytes?, String.fromUTF8?]
  by_cases h : bytes.IsValidUTF8
  · simp [h, ofSource?_eq]
  · simp [h]

end Program

/-- **The splitter reads characters.**  Whatever a line holds, the splitter finds in it the row that
its characters say: up to the first `#`, the label before the first ASCII blank, and behind it the
words, which are the non-empty pieces between such blanks.  The bytes that it cuts out are those of
the label and of the words, so no character is cut in two, and whatever character they have was in
the line.  So a program fails to load exactly when its bytes are not UTF-8. -/
theorem row_of_line :
    (∀ line : String,
      let row := Row.ofChars line.toList
      let bytes := line.toUTF8.toList
      Row.split? line = some row ∧
      bytes.takeWhile Row.isWordByte = row.label.toUTF8.toList ∧
      (Row.takeWords (bytes.dropWhile Row.isWordByte)).1 =
        row.words.map (fun word => word.toUTF8.toList) ∧
      ∀ c, c ∈ row.label.toList ∨ (∃ word ∈ row.words, c ∈ word.toList) → c ∈ line.toList) ∧
    ∀ bytes : ByteArray,
      (∃ error, Program.ofBytes? bytes = .error error) ↔ ¬ bytes.IsValidUTF8 := by
  refine ⟨fun line => ?_, Program.ofBytes?_eq_error_iff⟩
  intro row bytes
  obtain ⟨hlabel, rest, hwords, -⟩ := Row.cuts_of_line line.toList
  refine ⟨Row.split?_eq_ofChars line, ?_, ?_, fun c => Row.mem_of_mem_ofChars⟩
  · simp only [bytes, toList_toUTF8, hlabel, row]
  · simp only [bytes, toList_toUTF8, hwords, row]

end StackMachine

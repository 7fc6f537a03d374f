import StackMachine.Instruction.Decode
import StackMachine.Proofs.Display.Numeral

/-!
# Display forms are read back

The display form of an instruction is a line of source text again.  The splitter cuts it into words
that spell the same instruction, so a display form, as a trace or a fault shows it, stands for one
instruction only.  This holds of unknown rows as well: their words are displayed as they were read,
and what did not spell an instruction before does not do so now.

The words need not be the ones that were read: a number is displayed in its shortest form, whatever
sign and zeros it was written with.

* `Instruction.Spelling` — words that an instruction is displayed with and that spell it.
* `Instruction.exists_spelling` — whatever was read has such words.
* `Row.split?_of_words` — words are cut where they were joined.
* `decode_of_display` — from words to an instruction, to its display form, and back.
-/

namespace StackMachine

/-! ## Spelling -/

namespace Instruction

/-- **Words that an instruction is displayed with.**  They are words of source text, and they spell
the instruction. -/
structure Spelling (ins : Instruction) (words : List String) : Prop where
  isWord : ∀ word ∈ words, Row.IsWord word
  text : ins.text = " ".intercalate words
  decode : Instruction.decode words = ins

lemma isWord_unary (op : UnaryOp) : Row.IsWord (Mnemonic.text op) := by cases op <;> decide

lemma isWord_binary (op : BinaryOp) : Row.IsWord (Mnemonic.text op) := by cases op <;> decide

lemma isWord_system (service : SystemCall) : Row.IsWord (Mnemonic.text service) := by
  cases service <;> decide

/-- An instruction with one operand is displayed with its mnemonic and a word that is read as the
same operand. -/
lemma withOperand?_shown {mnemonic operand : String} {ins : Instruction}
    (isWord : Row.IsWord operand) (found : withOperand? mnemonic operand = some ins) :
    ∃ shown, ins.words = [mnemonic, shown] ∧ Row.IsWord mnemonic ∧ Row.IsWord shown ∧
      withOperand? mnemonic shown = some ins := by
  unfold withOperand? at found
  split at found
  case h_1 | h_2 | h_3 | h_4 | h_5 | h_6 | h_7 =>
    obtain ⟨w, -, rfl⟩ := Option.map_eq_some_iff.mp found
    exact ⟨w.text, rfl, by decide, w.isWord_text, by simp [withOperand?, w.read?_text]⟩
  case h_8 =>
    obtain ⟨op, -, rfl⟩ := Option.map_eq_some_iff.mp found
    exact ⟨_, rfl, by decide, isWord_unary op, by simp [withOperand?]⟩
  case h_9 =>
    obtain ⟨op, -, rfl⟩ := Option.map_eq_some_iff.mp found
    exact ⟨_, rfl, by decide, isWord_binary op, by simp [withOperand?]⟩
  case h_10 =>
    obtain ⟨service, -, rfl⟩ := Option.map_eq_some_iff.mp found
    exact ⟨_, rfl, by decide, isWord_system service, by simp [withOperand?]⟩
  case h_11 | h_12 | h_13 =>
    obtain ⟨n, hn, rfl⟩ := Option.map_eq_some_iff.mp found
    have hread := Count.read?_toString (Count.lt_of_read? hn)
    exact ⟨_, rfl, by decide, Count.isWord_toString n, by
      simp only [withOperand?, hread, Option.map_some]⟩
  case h_14 | h_15 =>
    obtain rfl := Option.some.inj found
    exact ⟨operand, rfl, by decide, isWord, rfl⟩
  case h_16 => exact nomatch found

/-- What words spell is displayed with words that spell it. -/
lemma spelling_of_decode? {words : List String} {ins : Instruction}
    (isWord : ∀ word ∈ words, Row.IsWord word) (found : decode? words = some ins) :
    ins.Spelling ins.words := by
  suffices h : (∀ word ∈ ins.words, Row.IsWord word) ∧ decode? ins.words = some ins from
    ⟨h.1, rfl, by rw [decode, h.2, Option.getD_some]⟩
  unfold decode? at found
  split at found
  case h_1 mnemonic =>
    unfold bare? at found
    split at found
    case h_5 => exact nomatch found
    all_goals
      obtain rfl := Option.some.inj found
      exact ⟨isWord, rfl⟩
  case h_2 mnemonic operand =>
    obtain ⟨shown, hwords, hmnemonic, hshown, hfound⟩ :=
      withOperand?_shown (isWord operand (by simp)) found
    rw [hwords]
    exact ⟨by simp [hmnemonic, hshown], hfound⟩
  case h_3 mnemonic yes no =>
    obtain ⟨rfl, hins⟩ := Option.ite_none_right_eq_some.mp found
    obtain rfl := Option.some.inj hins
    exact ⟨isWord, rfl⟩
  case h_4 => exact nomatch found

/-- **Whatever words are read as, it is displayed with words that spell it.** -/
theorem exists_spelling {words : List String} (isWord : ∀ word ∈ words, Row.IsWord word) :
    ∃ shown, (decode words).Spelling shown := by
  cases found : decode? words with
  | some ins =>
      rw [decode, found, Option.getD_some]
      exact ⟨ins.words, spelling_of_decode? isWord found⟩
  | none =>
      have hunknown : decode words = .unknown (" ".intercalate words) := by
        rw [decode, found, Option.getD_none]
      exact ⟨words, isWord, by rw [hunknown]; exact String.intercalate_singleton, rfl⟩

end Instruction

/-! ## Splitting -/

section Pieces

variable {α : Type} {separates : α → Bool}

/-- Pieces that are joined by separators are found again. -/
lemma pieces_intercalate {separator : α} (hsep : separates separator = true) {words : List (List α)}
    (h : ∀ word ∈ words, word ≠ [] ∧ ∀ x ∈ word, separates x = false) :
    pieces separates ([separator].intercalate words) = words := by
  induction words with
  | nil => rw [List.intercalate_nil, pieces_nil]
  | cons word words ih =>
      obtain ⟨hne, hword⟩ := h word (.head _)
      have ih := ih fun word hword => h word (.tail _ hword)
      cases words with
      | nil =>
          have hpieces := @pieces_of_word _ separates word [] hne hword (by simp)
          rw [List.append_nil, pieces_nil] at hpieces
          rw [List.intercalate_singleton, hpieces]
      | cons next words =>
          rw [List.intercalate_cons_cons, List.append_assoc, List.singleton_append,
            pieces_of_word hne hword (by simp [hsep]), pieces_cons hsep, ih]

/-- A piece is not empty, and no separator is in it. -/
lemma of_mem_pieces {piece xs : List α} (h : piece ∈ pieces separates xs) :
    piece ≠ [] ∧ ∀ x ∈ piece, separates x = false := by
  obtain ⟨hsplit, hne⟩ := List.mem_filter.mp h
  refine ⟨by simpa using hne, ?_⟩
  clear h hne
  induction xs generalizing piece with
  | nil =>
      rw [List.splitOnP_nil, List.mem_singleton] at hsplit
      simp [hsplit]
  | cons y xs ih =>
      obtain ⟨first, others, hxs⟩ := List.exists_cons_of_ne_nil
        (List.splitOnP_ne_nil separates xs)
      rw [List.splitOnP_cons_eq_if_modifyHead] at hsplit
      split at hsplit
      next =>
        rcases List.mem_cons.mp hsplit with rfl | hrest
        · exact nofun
        · exact ih hrest
      next hy =>
        rw [hxs, List.modifyHead_cons, List.mem_cons] at hsplit
        rcases hsplit with rfl | hrest
        · intro x hx
          rcases List.mem_cons.mp hx with rfl | hx
          · simpa using hy
          · exact ih (by simp [hxs]) x hx
        · exact ih (by simp [hxs, hrest])

/-- What is in joined words is in one of them or between them. -/
lemma mem_of_mem_intercalate {separator : List α} {words : List (List α)} {x : α}
    (hx : x ∈ separator.intercalate words) : x ∈ separator ∨ ∃ word ∈ words, x ∈ word := by
  induction words with
  | nil => exact nomatch hx
  | cons word words ih =>
      cases words with
      | nil =>
          rw [List.intercalate_singleton] at hx
          exact .inr ⟨word, .head _, hx⟩
      | cons next words =>
          rw [List.intercalate_cons_cons, List.mem_append, List.mem_append] at hx
          rcases hx with (hx | hx) | hx
          · exact .inr ⟨word, .head _, hx⟩
          · exact .inl hx
          · exact (ih hx).imp id fun ⟨other, hmem, hx⟩ => ⟨other, .tail _ hmem, hx⟩

end Pieces

namespace Row

/-- The words that the splitter finds are words. -/
lemma isWord_of_mem_ofChars {line : List Char} {word : String} (h : word ∈ (ofChars line).words) :
    IsWord word := by
  rw [ofChars_words] at h
  obtain ⟨piece, hpiece, rfl⟩ := List.mem_map.mp h
  obtain ⟨hne, hblank⟩ := of_mem_pieces hpiece
  refine ⟨by simpa using hne, fun c hc => ?_⟩
  rw [String.toList_ofList] at hc
  have hmark := List.mem_takeWhile_imp (mem_of_mem_pieces hpiece hc)
  simpa [isWordChar, hblank c hc] using hmark

/-- No comment begins in words that are joined. -/
lemma ne_mark_of_mem_intercalate {words : List String} (h : ∀ word ∈ words, IsWord word) {c : Char}
    (hc : c ∈ [' '].intercalate (words.map String.toList)) : c ≠ '#' := by
  rcases mem_of_mem_intercalate hc with hblank | ⟨_, hcs, hc⟩
  · obtain rfl := List.mem_singleton.mp hblank
    exact ne_mark_of_blank (by decide)
  · obtain ⟨word, hword, rfl⟩ := List.mem_map.mp hcs
    exact (of_isWordChar ((h word hword).chars c hc)).2

lemma pieces_of_words {words : List String} (h : ∀ word ∈ words, IsWord word) :
    pieces isBlank ([' '].intercalate (words.map String.toList)) = words.map String.toList := by
  refine pieces_intercalate (by decide) fun cs hcs => ?_
  obtain ⟨word, hword, rfl⟩ := List.mem_map.mp hcs
  refine ⟨by simpa using (h word hword).ne_empty, fun c hc => ?_⟩
  exact (of_isWordChar ((h word hword).chars c hc)).1

/-- **Words are cut where they were joined.** -/
theorem split?_of_words {words : List String} (h : ∀ word ∈ words, IsWord word) :
    split? (" " ++ " ".intercalate words) = some ⟨"", words⟩ := by
  have hline : (" " ++ " ".intercalate words).toList =
      ' ' :: [' '].intercalate (words.map String.toList) := by
    rw [String.toList_append, String.toList_intercalate]
    rfl
  have hmark : ∀ c ∈ ' ' :: [' '].intercalate (words.map String.toList),
      decide (c ≠ '#') = true := by
    intro c hc
    rcases List.mem_cons.mp hc with rfl | hc
    · decide
    · exact decide_eq_true (ne_mark_of_mem_intercalate h hc)
  -- The line begins with a blank, so the label is empty and all that follows are words.
  have hlabel : (ofChars (" " ++ " ".intercalate words).toList).label = "" := by
    rw [ofChars_label, hline, List.takeWhile_cons_of_neg (by decide), String.ofList_nil]
  have hwords : (ofChars (" " ++ " ".intercalate words).toList).words = words := by
    rw [ofChars_words, hline, List.dropWhile_cons_of_neg (by decide),
      List.takeWhile_eq_self_iff.mpr hmark, pieces_cons (by decide), pieces_of_words h,
      List.map_map]
    simp [Function.comp_def]
  rw [split?_eq_ofChars]
  exact congrArg some (congrArg₂ Row.mk hlabel hwords)

/-- The words that a splitter can find are all lists of words. -/
lemma isWord_iff_split? (words : List String) :
    (∀ word ∈ words, IsWord word) ↔ ∃ line row, split? line = some row ∧ row.words = words := by
  constructor
  · intro h
    exact ⟨_, _, split?_of_words h, rfl⟩
  · rintro ⟨line, row, hsplit, rfl⟩ word hword
    rw [split?_eq_ofChars] at hsplit
    obtain rfl := Option.some.inj hsplit
    exact isWord_of_mem_ofChars hword

end Row

/-! ## There and back -/

/-- The display form of what was read is split into words that are read as the same again. -/
lemma Instruction.split?_text {words : List String} (h : ∀ word ∈ words, Row.IsWord word) :
    ∃ row, Row.split? (" " ++ (decode words).text) = some row ∧ row.label = "" ∧
      decode row.words = decode words := by
  obtain ⟨shown, hshown⟩ := exists_spelling h
  refine ⟨⟨"", shown⟩, ?_, rfl, hshown.decode⟩
  rw [hshown.text]
  exact Row.split?_of_words hshown.isWord

/-- **Display forms are read back.**  A list of words, as the splitter finds them in lines, is read
as an instruction or kept as an unknown row; a line with a blank and the display form of that has no
label, and its words are read as the same again.  So the display form says which instruction it is:
no two that can be read have the same one. -/
theorem decode_of_display (words : List String) :
    ((∀ word ∈ words, Row.IsWord word) ↔
      ∃ line row, Row.split? line = some row ∧ row.words = words) ∧
    ((∀ word ∈ words, Row.IsWord word) →
      let ins := Instruction.decode words
      (∃ row, Row.split? (" " ++ ins.text) = some row ∧ row.label = "" ∧
        Instruction.decode row.words = ins) ∧
      ∀ words' : List String, (∀ word ∈ words', Row.IsWord word) →
        (Instruction.decode words').text = ins.text → Instruction.decode words' = ins) := by
  refine ⟨Row.isWord_iff_split? words, fun h => ?_⟩
  obtain ⟨row, hsplit, hlabel, hdecode⟩ := Instruction.split?_text h
  refine ⟨⟨row, hsplit, hlabel, hdecode⟩, fun words' h' same => ?_⟩
  -- The same line is split into the same words.
  obtain ⟨row', hsplit', -, hdecode'⟩ := Instruction.split?_text h'
  rw [same, hsplit] at hsplit'
  obtain rfl := Option.some.inj hsplit'
  exact hdecode'.symm.trans hdecode

/-- A display form need not be what was read. -/
example : (Instruction.decode ["LLV", "+007"]).text = "LLV 7" := by decide

end StackMachine

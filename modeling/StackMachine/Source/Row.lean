import StackMachine.Text.Blank

/-!
# Rows

A line of source text holds a label at its very start, then words behind blanks, then perhaps a
comment from `#` to the end of the line; each of the three may be missing.  The splitter reads the
UTF-8 bytes of the line.  Every byte that it cuts at is ASCII, so no character is cut in two, and
the pieces are text again.

* `Row` — the label and the words of a line.
* `Row.nextWord?` — one word together with the blanks before it.
* `Row.takeWords` — as many of these as follow each other.
* `Row.split?` — the row of a line.
-/

namespace StackMachine

/-- What a line of source text says. -/
structure Row where
  /-- The label, empty if the line starts with a blank or a comment. -/
  label : String
  /-- The words behind the label. -/
  words : List String
deriving DecidableEq

namespace Row

/-- The byte that opens a comment. -/
def commentMark : UInt8 := 0x23

/-- The bytes of labels and words. -/
def isWordByte (byte : UInt8) : Bool := !Blank.isAscii byte && byte != commentMark

/-- One word behind at least one blank, and what follows the word. -/
def nextWord? (bytes : List UInt8) : Option (List UInt8 × List UInt8) :=
  let behind := bytes.dropWhile Blank.isAscii
  let word := behind.takeWhile isWordByte
  if behind.length < bytes.length ∧ word ≠ [] then some (word, behind.dropWhile isWordByte)
  else none

theorem length_of_nextWord? {bytes word rest : List UInt8}
    (h : nextWord? bytes = some (word, rest)) : rest.length < bytes.length := by
  simp only [nextWord?, Option.ite_none_right_eq_some, Option.some.injEq, Prod.mk.injEq] at h
  obtain ⟨⟨shorter, -⟩, -, rfl⟩ := h
  exact Nat.lt_of_le_of_lt (List.dropWhile_sublist _).length_le shorter

/-- All words that follow each other from the start of the bytes, and what follows them. -/
def takeWords (bytes : List UInt8) : List (List UInt8) × List UInt8 :=
  match _ : nextWord? bytes with
  | none => ([], bytes)
  | some (word, rest) =>
    let (words, rest) := takeWords rest
    (word :: words, rest)
termination_by bytes.length
decreasing_by exact length_of_nextWord? ‹_›

/-- The text with the given UTF-8 bytes. -/
def decode? (bytes : List UInt8) : Option String := String.fromUTF8? bytes.toByteArray

/-- The row that a line holds: label, words, blanks and comment, and nothing else. -/
def split? (line : String) : Option Row := do
  let bytes := line.toUTF8.toList
  let label := bytes.takeWhile isWordByte
  let (words, rest) := takeWords (bytes.dropWhile isWordByte)
  match rest.dropWhile Blank.isAscii with
  | [] => pure ()
  | byte :: _ => guard (byte = commentMark)
  return { label := ← decode? label, words := ← words.mapM decode? }

end Row

end StackMachine

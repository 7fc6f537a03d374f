/-!
# Mnemonics

Operators and system calls are written as one fixed word each.  A family of tags with such words
is given by listing the tags and their words; reading a word is then looking for it in the list.

* `Mnemonic` — the tags of a family and the word of each.
* `Mnemonic.read?` — the tag that a word stands for.
* `Mnemonic.read?_eq_some_iff` — where no two tags share a word and none is missing from the list,
  a word is read as a tag exactly when it is the word of that tag.
-/

namespace StackMachine

/-- A finite family of tags, each of which is written as one word. -/
class Mnemonic (α : Type) where
  /-- All tags of the family. -/
  all : List α
  /-- The word of a tag. -/
  text : α → String

namespace Mnemonic

variable {α : Type} [Mnemonic α]

/-- The tag that a word stands for. -/
def read? (word : String) : Option α := all.find? fun tag => text tag == word

/-- A family in which every tag is listed and words tell tags apart. -/
class Lawful (α : Type) [Mnemonic α] : Prop where
  /-- Every tag is listed. -/
  mem_all (tag : α) : tag ∈ all
  /-- Different tags have different words. -/
  text_injective {a b : α} : text a = text b → a = b

theorem read?_eq_some_iff [Lawful α] {word : String} {tag : α} :
    read? word = some tag ↔ word = text tag := by
  constructor
  · intro found
    have hit : (text tag == word) = true := List.find?_some (p := fun t => text t == word) found
    exact (beq_iff_eq.1 hit).symm
  · rintro rfl
    cases found : (read? (text tag) : Option α) with
    | none =>
      have miss := List.find?_eq_none.1 found tag (Lawful.mem_all tag)
      simp at miss
    | some other =>
      have hit : (text other == text tag) = true :=
        List.find?_some (p := fun t => text t == text tag) found
      rw [Lawful.text_injective (beq_iff_eq.1 hit)]

@[simp]
theorem read?_text [Lawful α] (tag : α) : read? (text tag) = some tag :=
  read?_eq_some_iff.2 rfl

end Mnemonic

end StackMachine

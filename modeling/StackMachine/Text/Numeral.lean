import StackMachine.Word

/-!
# Decimal numerals

Numbers are written with ASCII digits only.  A signed numeral may open with `+` or `-`, an unsigned
one with `+`; at least one digit follows, and leading zeros are allowed.  Nothing else is a
numeral: no blanks, no separators, no lone sign, and no `-` before an unsigned one.

* `Numeral.natural?` — a non-empty run of digits.
* `Numeral.unsigned?`, `Numeral.signed?` — the same behind an optional sign.
* `Word.read?` — a signed numeral whose value fits a word.
* `Count.read?` — an unsigned numeral below `2 ^ 64`, the form of counts and frame sizes.
-/

namespace StackMachine

namespace Numeral

/-- The value of a non-empty run of ASCII digits. -/
def natural? (digits : List Char) : Option Nat :=
  if digits ≠ [] ∧ digits.all Char.isDigit then some (Nat.ofDigitChars 10 digits 0) else none

/-- The value of a run of digits behind an optional `+`. -/
def unsigned? : List Char → Option Nat
  | '+' :: digits => natural? digits
  | digits => natural? digits

/-- The value of a run of digits behind an optional `+` or `-`. -/
def signed? : List Char → Option Int
  | '-' :: digits => (natural? digits).map fun n => -(n : Int)
  | digits => (unsigned? digits).map fun n => (n : Int)

end Numeral

/-- The word that a signed numeral denotes, if its value fits. -/
def Word.read? (text : String) : Option Word :=
  (Numeral.signed? text.toList).bind Word.ofInt?

/-- The count that an unsigned numeral denotes, if it is below `2 ^ 64`. -/
def Count.read? (text : String) : Option Nat :=
  (Numeral.unsigned? text.toList).filter (· < 0x10000000000000000)

end StackMachine

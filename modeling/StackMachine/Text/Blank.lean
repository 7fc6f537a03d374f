/-!
# Blank characters

Two notions of blank meet in the machine.  Source text is cut at the five ASCII blanks, while a
number typed at the console may be surrounded by any character with the Unicode property
White_Space.

* `Blank.isAscii` — space, tab, line feed, form feed and carriage return, as a byte.
* `Blank.isUnicode` — the 25 characters with White_Space.
* `Blank.trim` — a text without the Unicode blanks at its two ends.
* `Blank.dropTrailing` — a list without its longest suffix of a given kind.
-/

namespace StackMachine.Blank

/-- The ASCII blanks.  The vertical tab is not one of them. -/
def isAscii (byte : UInt8) : Bool :=
  byte = 0x20 || byte = 0x09 || byte = 0x0a || byte = 0x0c || byte = 0x0d

/-- The characters with the Unicode property White_Space. -/
def isUnicode (c : Char) : Bool :=
  let code := c.toNat
  (0x09 ≤ code && code ≤ 0x0d) || code = 0x20 || code = 0x85 || code = 0xa0 || code = 0x1680 ||
  (0x2000 ≤ code && code ≤ 0x200a) || code = 0x2028 || code = 0x2029 || code = 0x202f ||
  code = 0x205f || code = 0x3000

/-- The list without its longest suffix of elements that satisfy `p`. -/
def dropTrailing (p : α → Bool) (xs : List α) : List α := (xs.reverse.dropWhile p).reverse

/-- The text without the blanks at its two ends. -/
def trim (text : List Char) : List Char := dropTrailing isUnicode (text.dropWhile isUnicode)

end StackMachine.Blank

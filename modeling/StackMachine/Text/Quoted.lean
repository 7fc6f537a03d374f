import StackMachine.Text.GraphemeExtend
import StackMachine.Text.Unprintable

/-!
# Quoted text

How a message shows a line that was typed at the console: between double quotes, with everything
made visible that would be lost or misread there.

* `Quoted.isHidden` — the characters that cannot be seen on their own.
* `Quoted.escape` — the form of one character.
* `Quoted.text` — the form of a whole text.
-/

namespace StackMachine.Quoted

/-- The Hangul fillers.  They count as letters but are shown as nothing. -/
def isFiller (c : Char) : Bool :=
  c = '\u115f' || c = '\u1160' || c = '\u3164' || c = '\uffa0'

/-- The halfwidth Katakana sound marks.  They extend a grapheme but are letters with a form of their
own. -/
def isSoundMark (c : Char) : Bool := c = '\uff9e' || c = '\uff9f'

/-- The characters that cannot be seen on their own. -/
def isHidden (c : Char) : Bool :=
  Unprintable.holds c || isFiller c || (GraphemeExtend.holds c && !isSoundMark c)

/-- A character by number: its code point in lower-case hexadecimal between braces. -/
def byNumber (c : Char) : String :=
  "\\u\x7b" ++ String.ofList (Nat.toDigits 16 c.toNat) ++ "\x7d"

/-- The quoted form of one character.  Quote and backslash get a backslash, four control characters
have a letter, and whatever cannot be seen on its own is written by number. -/
def escape (c : Char) : String :=
  if c = '"' then "\\\""
  else if c = '\\' then "\\\\"
  else if c = '\x00' then "\\0"
  else if c = '\t' then "\\t"
  else if c = '\r' then "\\r"
  else if c = '\n' then "\\n"
  else if isHidden c then byNumber c
  else c.toString

/-- The text between double quotes. -/
def text (s : String) : String := "\"" ++ String.join (s.toList.map escape) ++ "\""

end StackMachine.Quoted

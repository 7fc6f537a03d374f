/-!
# Plain text

Text as it is shown where no terminal is there to obey it: without control sequences and without
control characters, white space apart.  A control sequence opens with the escape character; what it
holds and where it ends depends on the character behind that, and on what follows.

* `Plain.State` — within which kind of sequence a character stands, and `Plain.State.next` from one
  character to the next.
* `Plain.State.shows` — which characters are shown there.
* `Plain.text` — the characters of a text that are shown.

White space is shown even within a sequence that is introduced by `[`, and interrupts it: what
follows is shown as well, up to the next control character, and only then the sequence goes on.
-/

namespace StackMachine.Plain

/-- Within which kind of sequence a character stands. -/
inductive State where
  /-- None. -/
  | text
  /-- Directly behind the escape character. -/
  | escape
  /-- Behind the escape character and an intermediate character. -/
  | intermediate
  /-- A control sequence, with parameters, up to its final letter. -/
  | control
  /-- An operating system command, up to the bell character. -/
  | command
  /-- A device control string, before its first parameter. -/
  | device
  /-- The same, behind a parameter. -/
  | deviceParameters
  /-- The same, behind an intermediate character. -/
  | deviceIntermediate
  /-- The body of a device control string, or another string, up to its terminator. -/
  | string
deriving DecidableEq

/-- Whether a character lies between two others. -/
def between (first last c : Char) : Bool := first ≤ c && c ≤ last

/-- Whether a character is an ASCII control character that counts as white space. -/
def isLayout (c : Char) : Bool := c = '\t' || c = '\n' || c = '\x0c' || c = '\r'

/-- Whether a character lies beyond ASCII. -/
def isWide (c : Char) : Bool := '\x7f' < c

/-- Whether the terminator of strings, `9c`, is among the UTF-8 bytes of a character. -/
def endsString (c : Char) : Bool := (String.utf8EncodeChar c).contains 0x9c

namespace State

/-- The state behind a character that is not shown.  The escape character opens a sequence in every
state, and the characters `18` and `1a` end all. -/
def next (state : State) (c : Char) : State :=
  if c = '\x1b' then .escape
  else if c = '\x18' ∨ c = '\x1a' then .text
  else
    match state with
    | .text => .text
    | .escape =>
      if c = '[' then .control
      else if c = ']' then .command
      else if c = 'P' then .device
      else if c = 'X' ∨ c = '^' ∨ c = '_' then .string
      else if between ' ' '/' c then .intermediate
      else if between '0' '~' c then .text
      else .escape
    | .intermediate => if between '0' '~' c then .text else .intermediate
    | .control => if between '@' '~' c then .text else .control
    | .command => if c = '\x07' then .text else .command
    | .device =>
      if between ' ' '/' c then .deviceIntermediate
      else if between '0' '?' c then .deviceParameters
      else if between '@' '~' c then .string
      else .device
    | .deviceParameters =>
      if between ' ' '/' c then .deviceIntermediate
      else if between '<' '~' c then .string
      else .deviceParameters
    | .deviceIntermediate => if between '0' '~' c then .string else .deviceIntermediate
    | .string => if endsString c then .text else .string

/-- Whether a character is shown. -/
def shows (state : State) (c : Char) : Bool :=
  match state with
  | .text => between ' ' '~' c || isWide c || isLayout c
  | .escape | .intermediate | .control => isLayout c
  | .command | .device | .deviceParameters | .deviceIntermediate | .string => false

end State

/-- The characters that are shown, from a given state on.  Behind a character that was shown, others
are shown as if there were no sequence; a character beyond ASCII puts an end to it. -/
def shown : (behindShown : Bool) → State → List Char → List Char
  | _, _, [] => []
  | behindShown, state, c :: rest =>
    if (if behindShown then State.text else state).shows c then
      c :: shown true (if isWide c then .text else state) rest
    else
      shown false (state.next c) rest

/-- The text that is shown. -/
def text (s : String) : String := String.ofList (shown false .text s.toList)

end StackMachine.Plain

import StackMachine.Error
import StackMachine.Text.Blank

/-!
# The console

What a run reads and writes.  Output is collected and, at certain points, flushed; input is a list
of bytes that is read line by line.  Output can be limited, and single flushes can be set to fail.

* `Console` — the input that is left, the output so far, and its flushes.
* `Console.write`, `Console.flush`, `Console.readLine` — the operations.
* `Console.firstLine` — where the first line of the input ends.
-/

namespace StackMachine

/-- The console of a run. -/
structure Console where
  /-- The input that has not been read. -/
  input : List UInt8
  /-- Everything that was written. -/
  output : ByteArray
  /-- For every flush, how many bytes had been written before it. -/
  flushes : Array Nat
  /-- How many bytes of output are taken in all, if there is a limit. -/
  capacity : Option Nat
  /-- Which flushes fail, counted from zero. -/
  failingFlushes : List Nat

/-- An operation on the console, which may fail. -/
abbrev ConsoleM := EStateM MachineError Console

namespace Console

/-- A console with the given input, nothing written, and no limits. -/
def ofInput (input : List UInt8) : Console := ⟨input, ByteArray.empty, #[], none, []⟩

/-- Write a text.  When it does not fit, as many of its bytes as fit are written and the operation
fails. -/
def write (text : String) : ConsoleM Unit := do
  modify fun console => { console with output := console.output ++ text.toUTF8 }
  let console ← get
  match console.capacity with
  | none => pure ()
  | some capacity =>
    if capacity < console.output.size then
      set { console with output := console.output.extract 0 capacity }
      throw .outputClosed

/-- Deliver what was written. -/
def flush : ConsoleM Unit := do
  let number := (← get).flushes.size
  modify fun console => { console with flushes := console.flushes.push console.output.size }
  if number ∈ (← get).failingFlushes then
    throw .outputClosed

/-- The byte that ends a line. -/
def lineFeed : UInt8 := 0x0a

/-- The first line of some bytes, including its line feed, and the bytes behind it. -/
def firstLine (bytes : List UInt8) : List UInt8 × List UInt8 :=
  let line := bytes.takeWhile (· ≠ lineFeed)
  match bytes.dropWhile (· ≠ lineFeed) with
  | [] => (line, [])
  | feed :: rest => (line ++ [feed], rest)

/-- Whether a character belongs to the end of a line. -/
def isLineEnd (c : Char) : Bool := c = '\n' || c = '\r'

/-- Read a line, without all line feeds and carriage returns at its end.  What was written is
delivered first. -/
def readLine : ConsoleM String := do
  flush
  let console ← get
  if console.input.isEmpty then throw .endOfInput
  let (line, rest) := firstLine console.input
  set { console with input := rest }
  match String.fromUTF8? line.toByteArray with
  | some text => return String.ofList (Blank.dropTrailing isLineEnd text.toList)
  | none => throw .inputNotUtf8

end Console

end StackMachine

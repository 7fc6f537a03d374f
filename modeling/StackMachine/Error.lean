import StackMachine.Word
import StackMachine.Text.Quoted

/-!
# What can go wrong

An instruction that cannot be carried out ends the run with a `MachineError`, which names the cause.
A `Fault` adds where it happened.  Wording is kept apart from causes, in `MachineError.message` and
`Fault.text`.

* `MachineError` — the causes.
* `Word.checked` — an integer as a word, or an arithmetic overflow.
* `Fault` — a cause together with the instruction that met it.
-/

namespace StackMachine

/-- Why an instruction could not be carried out. -/
inductive MachineError where
  /-- The row that was reached is not an instruction. -/
  | unknownInstruction (row : String)
  /-- No line of the program bears this label. -/
  | undefinedLabel (name : String)
  /-- A word was taken from an empty stack. -/
  | stackUnderflow
  /-- A return without a call to return from. -/
  | returnStackUnderflow
  /-- A division or remainder by zero. -/
  | divisionByZero
  /-- A result that does not fit a word. -/
  | arithmeticOverflow
  /-- An address, or a place in the program, that does not exist. -/
  | invalidAddress (address : Int)
  /-- A word that is not the code of a character. -/
  | invalidCharacter (code : Word)
  /-- A line of input that does not have the form asked for. -/
  | invalidInput (line : String)
  /-- A read after the last line of input. -/
  | endOfInput
  /-- A line of input that is not UTF-8. -/
  | inputNotUtf8
  /-- The output takes no more. -/
  | outputClosed
deriving DecidableEq

/-- The wording for bytes that are not UTF-8, at the console and in a program alike. -/
def notUtf8Message : String := "stream did not contain valid UTF-8"

/-- What is reported for each cause. -/
def MachineError.message : MachineError → String
  | .unknownInstruction row => "unknown instruction: " ++ row
  | .undefinedLabel name => "undefined label: " ++ name
  | .stackUnderflow => "stack underflow"
  | .returnStackUnderflow => "return stack underflow"
  | .divisionByZero => "division by zero"
  | .arithmeticOverflow => "arithmetic overflow"
  | .invalidAddress address => "invalid address: " ++ toString address
  | .invalidCharacter code => "invalid character code: " ++ code.text
  | .invalidInput line => "invalid input: " ++ Quoted.text line
  | .endOfInput => "unexpected end of input"
  | .inputNotUtf8 => notUtf8Message
  | .outputClosed => "closed"

/-- The word with value `x`.  A value that does not fit is an arithmetic overflow. -/
def Word.checked (x : Int) : Except MachineError Word :=
  match Word.ofInt? x with
  | some w => .ok w
  | none => .error .arithmeticOverflow

theorem Word.checked_eq_ok_iff {x : Int} {w : Word} : Word.checked x = .ok w ↔ w.toInt = x := by
  rw [← Word.ofInt?_eq_some_iff, Word.checked]
  cases Word.ofInt? x <;> simp

theorem Word.checked_eq_error_iff {x : Int} {e : MachineError} :
    Word.checked x = .error e ↔ e = .arithmeticOverflow ∧ ¬ Word.Fits x := by
  rw [← Word.ofInt?_eq_none_iff, Word.checked]
  cases Word.ofInt? x <;> simp [eq_comm]

/-- A run that ended at an instruction which could not be carried out. -/
structure Fault where
  /-- The place of the instruction in the program. -/
  index : Nat
  /-- The instruction as it is displayed. -/
  instruction : String
  /-- Why it failed. -/
  error : MachineError
deriving DecidableEq

/-- The full report of a fault. -/
def Fault.text (fault : Fault) : String :=
  "at instruction " ++ toString fault.index ++ " `" ++ fault.instruction ++ "`: " ++
    fault.error.message

end StackMachine

import StackMachine.Mnemonic

/-!
# System calls

The services of the machine beyond computing: the console, and looking at the machine itself.  This
module names them; what they do is in `StackMachine.Execution.Action`.
-/

namespace StackMachine

/-- The services that an instruction can ask for. -/
inductive SystemCall where
  /-- Turn the trace on or off. -/
  | toggleTrace
  /-- Write the frame base, the stack top and the stack. -/
  | dumpMemory
  /-- Read a line that holds a number. -/
  | readNumber
  /-- Read a line that holds one character. -/
  | readCharacter
  /-- Write the top word in decimal. -/
  | writeNumber
  /-- Write the character with the top word as its code. -/
  | writeCharacter
  /-- End the line. -/
  | newLine
  /-- Ask whether the input is used up; the answer is always no. -/
  | endOfInput
deriving DecidableEq

instance : Mnemonic SystemCall where
  all := [.toggleTrace, .dumpMemory, .readNumber, .readCharacter, .writeNumber, .writeCharacter,
    .newLine, .endOfInput]
  text
    | .toggleTrace => "TRACEX"
    | .dumpMemory => "DUMPMEM"
    | .readNumber => "INPUT"
    | .readCharacter => "INPUTC"
    | .writeNumber => "OUTPUT"
    | .writeCharacter => "OUTPUTC"
    | .newLine => "OUTPUTL"
    | .endOfInput => "EOF"

instance : Mnemonic.Lawful SystemCall where
  mem_all call := by cases call <;> decide
  text_injective {a b} := by cases a <;> cases b <;> decide

end StackMachine

import StackMachine.Instruction.Basic
import StackMachine.Text.Numeral

/-!
# Reading instructions

An instruction is a mnemonic followed by its operands, each of them one word.  Mnemonics are matched
exactly, letter case included, and the number of operands has to be right.

* `Instruction.decode?` — the instruction that a list of words spells.
* `Instruction.decode` — the same, where any other row becomes `Instruction.unknown`.
-/

namespace StackMachine.Instruction

/-- The instructions without operands. -/
def bare? : String → Option Instruction
  | "NOP" => some .nop
  | "HALT" => some .halt
  | "DUP" => some .dup
  | "SWAP" => some .swap
  | _ => none

/-- The instructions with one operand. -/
def withOperand? (mnemonic operand : String) : Option Instruction :=
  match mnemonic with
  | "LIT" => (Word.read? operand).map .literal
  | "LLV" => (Word.read? operand).map .loadLocal
  | "LGV" => (Word.read? operand).map .loadGlobal
  | "SLV" => (Word.read? operand).map .storeLocal
  | "SGV" => (Word.read? operand).map .storeGlobal
  | "LLA" => (Word.read? operand).map .localAddress
  | "LGA" => (Word.read? operand).map .globalAddress
  | "UOP" => (Mnemonic.read? operand).map .unary
  | "BOP" => (Mnemonic.read? operand).map .binary
  | "SOS" => (Mnemonic.read? operand).map .system
  | "POP" => (Count.read? operand).map .pop
  | "CALL" => (Count.read? operand).map .call
  | "RTN" => (Count.read? operand).map .ret
  | "GOTO" => some (.goto operand)
  | "CODE" => some (.code operand)
  | _ => none

/-- The instruction that the words spell. -/
def decode? : List String → Option Instruction
  | [mnemonic] => bare? mnemonic
  | [mnemonic, operand] => withOperand? mnemonic operand
  | [mnemonic, yes, no] => if mnemonic = "COND" then some (.branch yes no) else none
  | _ => none

/-- The instruction that the words spell, or else the words themselves as an unknown row. -/
def decode (words : List String) : Instruction :=
  (decode? words).getD (.unknown (" ".intercalate words))

end StackMachine.Instruction

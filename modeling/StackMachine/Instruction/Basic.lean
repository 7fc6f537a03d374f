import StackMachine.Operator
import StackMachine.SystemCall

/-!
# Instructions

* `Instruction` — one row of a program.  A row that is not an instruction is kept as
  `Instruction.unknown` and does harm only when it is reached.
* `Instruction.mnemonic?`, `Instruction.operands` — the words that an instruction is written with.
* `Instruction.text` — its display form, these words with single spaces between them.

Values on the stack are addressed from the running frame (*local*) or from the origin of memory
(*global*).
-/

namespace StackMachine

/-- One instruction of a program. -/
inductive Instruction where
  /-- Do nothing. -/
  | nop
  /-- End the run. -/
  | halt
  /-- Push a word. -/
  | literal (w : Word)
  /-- Push the word in a local cell. -/
  | loadLocal (i : Word)
  /-- Push the word in a global cell. -/
  | loadGlobal (i : Word)
  /-- Pop a word into a local cell. -/
  | storeLocal (i : Word)
  /-- Pop a word into a global cell. -/
  | storeGlobal (i : Word)
  /-- Push the address of a local cell. -/
  | localAddress (i : Word)
  /-- Push the address of a global cell. -/
  | globalAddress (i : Word)
  /-- Replace the top word by the result of an operator. -/
  | unary (op : UnaryOp)
  /-- Replace the two top words by the result of an operator. -/
  | binary (op : BinaryOp)
  /-- Drop words from the stack. -/
  | pop (count : Nat)
  /-- Push the top word again. -/
  | dup
  /-- Exchange the two top words. -/
  | swap
  /-- Pop a place in the program, open a frame above the running one and go there. -/
  | call (frame : Nat)
  /-- Leave the running frame with some results and go back behind its call. -/
  | ret (results : Nat)
  /-- Go to a label. -/
  | goto (label : String)
  /-- Pop a word and go to the first label unless it is zero, else to the second. -/
  | branch (yes no : String)
  /-- Push the place of a label in the program. -/
  | code (label : String)
  /-- Ask for a service. -/
  | system (service : SystemCall)
  /-- A row that is not an instruction. -/
  | unknown (row : String)
deriving DecidableEq

namespace Instruction

/-- The word that an instruction opens with. -/
def mnemonic? : Instruction → Option String
  | .nop => some "NOP"
  | .halt => some "HALT"
  | .literal _ => some "LIT"
  | .loadLocal _ => some "LLV"
  | .loadGlobal _ => some "LGV"
  | .storeLocal _ => some "SLV"
  | .storeGlobal _ => some "SGV"
  | .localAddress _ => some "LLA"
  | .globalAddress _ => some "LGA"
  | .unary _ => some "UOP"
  | .binary _ => some "BOP"
  | .pop _ => some "POP"
  | .dup => some "DUP"
  | .swap => some "SWAP"
  | .call _ => some "CALL"
  | .ret _ => some "RTN"
  | .goto _ => some "GOTO"
  | .branch _ _ => some "COND"
  | .code _ => some "CODE"
  | .system _ => some "SOS"
  | .unknown _ => none

/-- The words behind the mnemonic.  A row that is not an instruction is all operand. -/
def operands : Instruction → List String
  | .literal w | .loadLocal w | .loadGlobal w | .storeLocal w | .storeGlobal w
  | .localAddress w | .globalAddress w => [w.text]
  | .unary op => [Mnemonic.text op]
  | .binary op => [Mnemonic.text op]
  | .pop n | .call n | .ret n => [toString n]
  | .goto label | .code label => [label]
  | .branch yes no => [yes, no]
  | .system service => [Mnemonic.text service]
  | .unknown row => [row]
  | .nop | .halt | .dup | .swap => []

/-- The words that an instruction is written with. -/
def words (ins : Instruction) : List String := ins.mnemonic?.toList ++ ins.operands

/-- The display form. -/
def text (ins : Instruction) : String := " ".intercalate ins.words

end Instruction

end StackMachine

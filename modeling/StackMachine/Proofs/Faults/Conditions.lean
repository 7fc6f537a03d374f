import StackMachine.Execution.Action
import StackMachine.Proofs.Console

/-!
# When instructions fault

Every instruction makes a few checks, one after the other, and the first that does not pass is its
fault.  The checks are stated for the machine and console as they are before the instruction, so
none of them speaks of a state on the way.

* `failsIf`, `failure` — a check, and the check that an operation makes by itself.
* `Machine.underflow?`, `tooLarge?`, `cell?` — words to take, sums and addresses.
* `SystemCall.fault?`, `Instruction.fault?` — the checks of every instruction in their order.

That these are all the faults there are is shown in `StackMachine.Proofs.Faults.Exact`.
-/

namespace StackMachine

/-! ## Checks -/

/-- A fault under a condition. -/
def failsIf (p : Prop) [Decidable p] (error : MachineError) : Option MachineError :=
  if p then some error else none

/-- The fault of something that may fail by itself. -/
def failure {α : Type} : Except MachineError α → Option MachineError
  | .ok _ => none
  | .error error => some error

/-- A sum that is too large for a word. -/
def tooLarge? (x : Int) : Option MachineError :=
  failsIf (0x7fffffffffffffff < x) .arithmeticOverflow

/-- An address where there is no cell. -/
def cell? (address : Int) : Option MachineError :=
  failsIf (address < 0) (.invalidAddress address)

/-- A label that is not bound. -/
def Program.unbound? (program : Program) (label : String) : Option MachineError :=
  failsIf (label ∉ program.labels) (.undefinedLabel label)

namespace Machine

variable (m : Machine)

/-- A stack with fewer words than are taken from it. -/
def underflow? (needed : Nat) : Option MachineError :=
  failsIf (m.registers.str + 1 < needed) .stackUnderflow

/-- A word of the stack, counted from the top one down. -/
def word (depth : Nat) : Word := m.memory.read (m.registers.str - depth).toNat

/-- A local cell. -/
def localCell? (i : Int) : Option MachineError :=
  tooLarge? (m.registers.lbr + i) <|> cell? (m.registers.lbr + i)

/-- A return with some results. -/
def return? (results : Nat) : Option MachineError :=
  failsIf (0x7fffffffffffffff < (results : Int) ∨
    m.registers.str - m.registers.lbr + 1 - results < -0x8000000000000000) .arithmeticOverflow <|>
  failsIf (m.returns = []) .returnStackUnderflow

end Machine

/-! ## The console -/

/-- The Unicode scalar values, which are the codes of characters. -/
def IsScalar (code : Int) : Prop :=
  0 ≤ code ∧ (code < 0xd800 ∨ 0xdfff < code ∧ code < 0x110000)

instance (code : Int) : Decidable (IsScalar code) := inferInstanceAs (Decidable (_ ∧ _))

/-- A read of a line that is to hold a word in some form.  What was written is delivered first. -/
def Console.read? (c : Console) (word : String → Except MachineError Word) : Option MachineError :=
  failsIf (c.flushes.size ∈ c.failingFlushes) .outputClosed <|> failure (line c.input >>= word)

/-- The fault of a system call. -/
def SystemCall.fault? (s : System) : SystemCall → Option MachineError
  | .toggleTrace | .dumpMemory | .newLine | .endOfInput => none
  | .readNumber => s.console.read? numberOfLine
  | .readCharacter => s.console.read? codeOfLine
  | .writeNumber => s.machine.underflow? 1
  | .writeCharacter =>
    s.machine.underflow? 1 <|>
    failsIf (¬ IsScalar (s.machine.word 0).toInt) (.invalidCharacter (s.machine.word 0))

/-! ## Instructions -/

/-- **The fault of an instruction**, if it has one, on a machine at a console. -/
def Instruction.fault? (program : Program) (s : System) (ins : Instruction) :
    Option MachineError :=
  let m := s.machine
  match ins with
  | .nop | .halt | .literal _ | .globalAddress _ => none
  | .loadLocal i => m.localCell? i.toInt
  | .loadGlobal i => cell? i.toInt
  | .storeLocal i => m.underflow? 1 <|> m.localCell? i.toInt
  | .storeGlobal i => m.underflow? 1 <|> cell? i.toInt
  | .localAddress i => tooLarge? (m.registers.lbr + i.toInt)
  | .unary op => m.underflow? 1 <|> failure (op.apply (m.word 0))
  | .binary op => m.underflow? 2 <|> failure (op.apply (m.word 1) (m.word 0))
  | .pop count => m.underflow? count
  | .dup => m.underflow? 1
  | .swap => m.underflow? 2
  | .call frame =>
    m.underflow? 1 <|> cell? (m.word 0).toInt <|> tooLarge? (m.registers.lbr + frame)
  | .ret results => m.return? results
  | .goto label | .code label => program.unbound? label
  | .branch yes no => program.unbound? yes <|> program.unbound? no <|> m.underflow? 1
  | .system service => service.fault? s
  | .unknown row => some (.unknownInstruction row)

end StackMachine

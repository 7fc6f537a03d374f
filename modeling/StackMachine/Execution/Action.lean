import StackMachine.Console
import StackMachine.Machine.Effect
import StackMachine.Text.Numeral

/-!
# Instructions at the console

A machine at a console is a `System`.  Here the system calls get their meaning, and an instruction
becomes one action on the system: show it if the trace is on, do what a system call does at the
console, and then take effect on the machine.

* `System`, `Action` — a machine with its console, and what can be done there.
* `Action.onMachine`, `Action.onConsole` — an action that concerns one of the two only.
* `SystemCall.perform` — what each system call does.
* `Machine.traceLine` — how an instruction is shown.
* `Instruction.perform` — the whole of an instruction.
-/

namespace StackMachine

/-- A machine at a console. -/
structure System where
  /-- The machine. -/
  machine : Machine
  /-- Its console. -/
  console : Console

/-- Something done to a machine and its console, which may fail. -/
abbrev Action := EStateM MachineError System

namespace Action

/-- An operation on the machine, which leaves the console as it is. -/
def onMachine {α : Type} (operation : MachineM α) : Action α := fun system =>
  match operation system.machine with
  | .ok a machine => .ok a { system with machine }
  | .error e machine => .error e { system with machine }

/-- An operation on the console, which leaves the machine as it is. -/
def onConsole {α : Type} (operation : ConsoleM α) : Action α := fun system =>
  match operation system.console with
  | .ok a console => .ok a { system with console }
  | .error e console => .error e { system with console }

instance : MonadLift MachineM Action := ⟨onMachine⟩

instance : MonadLift ConsoleM Action := ⟨onConsole⟩

end Action

/-! ## Texts -/

/-- How a list of words is shown. -/
def Word.listText (words : List Word) : String :=
  "[" ++ ", ".intercalate (words.map Word.text) ++ "]"

/-- The text, filled up with spaces to a number of characters.  A longer text stays as it is. -/
def padRight (width : Nat) (text : String) : String :=
  text ++ String.ofList (List.replicate (width - text.length) ' ')

/-- How an instruction is shown before it runs: the instruction, the local base and the stack. -/
def Machine.traceLine (m : Machine) (ins : Instruction) : String :=
  padRight 20 ins.text ++ "\t" ++ toString m.registers.lbr ++ "\t" ++ Word.listText m.stack ++ "\n"

/-- How the machine is shown when the program asks for it. -/
def Machine.dumpLine (m : Machine) : String :=
  "LBR=" ++ toString m.registers.lbr ++ " STR=" ++ toString m.registers.str ++ " " ++
    Word.listText m.stack ++ "\n"

/-- The number that a line holds, with blanks around it or without. -/
def numberOfLine (line : String) : Except MachineError Word :=
  match Word.read? (String.ofList (Blank.trim line.toList)) with
  | some w => .ok w
  | none => .error (.invalidInput line)

/-- The code of the only character of a line. -/
def codeOfLine (line : String) : Except MachineError Word :=
  match line.toList with
  | [c] => .ok (Word.wrap c.toNat)
  | _ => .error (.invalidInput line)

/-- The character with a given code. -/
def characterOfCode (code : Word) : Except MachineError Char :=
  if h : 0 ≤ code.toInt ∧ code.toInt.toNat.isValidChar then
    .ok (Char.ofNatAux code.toInt.toNat h.2)
  else
    .error (.invalidCharacter code)

/-! ## Instructions -/

/-- What a system call does. -/
def SystemCall.perform : SystemCall → Action Unit
  | .toggleTrace => modify fun system => { system with machine.trace := !system.machine.trace }
  | .dumpMemory => do
    Console.write (← get).machine.dumpLine
  | .readNumber => do
    let line ← Console.readLine
    Machine.push (← numberOfLine line)
  | .readCharacter => do
    let line ← Console.readLine
    Machine.push (← codeOfLine line)
  | .writeNumber => do
    let w ← Machine.pop
    Console.write w.text
  | .writeCharacter => do
    let code ← Machine.pop
    let c ← characterOfCode code
    Console.write c.toString
  | .newLine => Console.write "\n"
  | .endOfInput => Machine.push 0

/-- Show an instruction if the trace is on. -/
def showTrace (ins : Instruction) : Action Unit := do
  let m := (← get).machine
  if m.trace then
    Console.write (m.traceLine ins)

/-- What an instruction does at the console. -/
def Instruction.serve : Instruction → Action Unit
  | .system service => service.perform
  | _ => pure ()

/-- The whole of an instruction. -/
def Instruction.perform (program : Program) (ins : Instruction) : Action Flow := do
  showTrace ins
  ins.serve
  Machine.execute program ins

end StackMachine

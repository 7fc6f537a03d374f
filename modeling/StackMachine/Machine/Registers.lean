/-!
# Registers

The machine has an instruction pointer and three addresses into memory.  The addresses are
integers without a bound; every instruction that adds an operand to one of them checks that the sum
still fits a word.
-/

namespace StackMachine

/-- The registers of the machine. -/
structure Registers where
  /-- The place in the program of the instruction to run. -/
  ip : Nat
  /-- The global base, the origin of memory. -/
  gbr : Int
  /-- The local base, the first cell of the running frame. -/
  lbr : Int
  /-- The stack top, the last cell of the stack; one below the origin when the stack is empty. -/
  str : Int
deriving DecidableEq

namespace Registers

/-- The registers of a machine that has not run. -/
def initial : Registers := { ip := 0, gbr := 0, lbr := 0, str := -1 }

/-- How the log shows the registers. -/
def text (r : Registers) : String :=
  "Registers \x7b ip: " ++ toString r.ip ++ ", gbr: " ++ toString r.gbr ++
    ", lbr: " ++ toString r.lbr ++ ", sp: " ++ toString r.str ++ " \x7d"

end Registers

end StackMachine

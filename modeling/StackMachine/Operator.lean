import StackMachine.Error
import StackMachine.Mnemonic

/-!
# Operators

What the machine computes with words.  Arithmetic is exact on integers and refused when the result
does not fit; comparisons give one or zero; conjunction and disjunction give one of their operands,
not a truth value.

* `UnaryOp`, `UnaryOp.apply` — operators on the top word.
* `BinaryOp`, `BinaryOp.apply` — operators on the two top words.

Division rounds toward negative infinity, and the remainder takes the sign of the divisor.  A
remainder is refused together with its quotient, so `-2 ^ 63` has no remainder by `-1`.
-/

namespace StackMachine

/-- The operators on one word. -/
inductive UnaryOp where
  | not | negate | successor | predecessor
deriving DecidableEq

/-- The operators on two words. -/
inductive BinaryOp where
  | and | or
  | plus | minus | times | divide | modulo
  | equal | unequal | atMost | atLeast | less | greater
deriving DecidableEq

instance : Mnemonic UnaryOp where
  all := [.not, .negate, .successor, .predecessor]
  text
    | .not => "UNOT"
    | .negate => "UNEG"
    | .successor => "USUCC"
    | .predecessor => "UPRED"

instance : Mnemonic.Lawful UnaryOp where
  mem_all op := by cases op <;> decide
  text_injective {a b} := by cases a <;> cases b <;> decide

instance : Mnemonic BinaryOp where
  all := [.and, .or, .plus, .minus, .times, .divide, .modulo,
    .equal, .unequal, .atMost, .atLeast, .less, .greater]
  text
    | .and => "BAND"
    | .or => "BOR"
    | .plus => "BPLUS"
    | .minus => "BMINUS"
    | .times => "BMULT"
    | .divide => "BDIV"
    | .modulo => "BMOD"
    | .equal => "BEQ"
    | .unequal => "BNE"
    | .atMost => "BLE"
    | .atLeast => "BGE"
    | .less => "BLT"
    | .greater => "BGT"

instance : Mnemonic.Lawful BinaryOp where
  mem_all op := by cases op <;> decide
  text_injective {a b} := by cases a <;> cases b <;> decide

/-- One for a true statement and zero for a false one. -/
def Word.ofProp (p : Prop) [Decidable p] : Word := if p then 1 else 0

/-- The result of a unary operator. -/
def UnaryOp.apply (op : UnaryOp) (x : Word) : Except MachineError Word :=
  match op with
  | .not => .ok (Word.ofProp (x.toInt = 0))
  | .negate => Word.checked (-x.toInt)
  | .successor => Word.checked (x.toInt + 1)
  | .predecessor => Word.checked (x.toInt - 1)

/-- The quotient rounded toward negative infinity. -/
def Word.quotient (l r : Word) : Except MachineError Word :=
  if r.toInt = 0 then .error .divisionByZero else Word.checked (l.toInt.fdiv r.toInt)

/-- The remainder with the sign of the divisor, refused together with its quotient. -/
def Word.remainder (l r : Word) : Except MachineError Word := do
  let _ ← Word.quotient l r
  Word.checked (l.toInt.fmod r.toInt)

/-- The result of a binary operator on a left and a right operand. -/
def BinaryOp.apply (op : BinaryOp) (l r : Word) : Except MachineError Word :=
  match op with
  | .and => .ok (if l.toInt = 0 then l else r)
  | .or => .ok (if l.toInt = 0 then r else l)
  | .plus => Word.checked (l.toInt + r.toInt)
  | .minus => Word.checked (l.toInt - r.toInt)
  | .times => Word.checked (l.toInt * r.toInt)
  | .divide => Word.quotient l r
  | .modulo => Word.remainder l r
  | .equal => .ok (Word.ofProp (l.toInt = r.toInt))
  | .unequal => .ok (Word.ofProp (l.toInt ≠ r.toInt))
  | .atMost => .ok (Word.ofProp (l.toInt ≤ r.toInt))
  | .atLeast => .ok (Word.ofProp (r.toInt ≤ l.toInt))
  | .less => .ok (Word.ofProp (l.toInt < r.toInt))
  | .greater => .ok (Word.ofProp (r.toInt < l.toInt))

end StackMachine

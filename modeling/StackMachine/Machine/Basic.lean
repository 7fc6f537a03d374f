import StackMachine.Machine.Registers
import StackMachine.Memory

/-!
# The machine

Registers, memory, the return points of the calls that are under way, and whether the trace is on:
this is all that one run leaves to the next.  The stack lies in memory from the origin up to the
stack top, and the running frame is the part of it from the local base on.

An operation on the machine is a `MachineM`.  One that fails keeps what it has done before it
failed.

* `Machine`, `Machine.initial`, `Machine.stack` — the state and its view as a stack.
* `push`, `pop`, `top`, `popMany` — the stack.
* `localAddress`, `slot` — from operands to addresses; `loadLocal`, `loadGlobal`, `storeLocal`,
  `storeGlobal` — the cells there.
* `openFrame`, `closeFrame`, `collapseFrame` — frames.
-/

namespace StackMachine

/-- Where a call goes back to. -/
structure ReturnPoint where
  /-- The place of the call in the program. -/
  callSite : Nat
  /-- By how many words the call moved the local base. -/
  frame : Nat
deriving DecidableEq

/-- The state of the machine. -/
structure Machine where
  /-- The registers. -/
  registers : Registers
  /-- The memory. -/
  memory : Memory
  /-- The return points, the one of the latest call first. -/
  returns : List ReturnPoint
  /-- Whether each instruction is shown before it runs. -/
  trace : Bool

/-- An operation on the machine, which may fail. -/
abbrev MachineM := EStateM MachineError Machine

/-- A check without an effect, as part of an operation on a state. -/
instance {σ : Type} : MonadLift (Except MachineError) (EStateM MachineError σ) where
  monadLift
    | .ok a => pure a
    | .error e => throw e

namespace Machine

/-- A machine that has not run. -/
def initial : Machine := ⟨Registers.initial, Memory.empty, [], false⟩

/-- The words on the stack, from the origin to the stack top. -/
def stack (m : Machine) : List Word := m.memory.snapshot m.registers.str

/-- The cells above the stack top that do not read as unset. -/
def beyond (m : Machine) : List (Nat × Word) :=
  m.memory.listing.filter fun (i, _) => m.registers.str < i

/-! ## Memory and arithmetic -/

/-- An integer that has to fit a word. -/
def checked (x : Int) : MachineM Int :=
  if Word.Fits x then pure x else throw .arithmeticOverflow

/-- The word at an address. -/
def load (address : Int) : MachineM Word := do
  (← get).memory.load address

/-- Put a word at an address. -/
def store (address : Int) (w : Word) : MachineM Unit := do
  let memory ← (← get).memory.store address w
  modify fun m => { m with memory }

/-! ## The stack -/

/-- Move the stack top. -/
def moveTop (distance : Int) : MachineM Unit :=
  modify fun m => { m with registers.str := m.registers.str + distance }

/-- The top word. -/
def top : MachineM Word := do
  let r := (← get).registers
  if r.str < r.gbr then throw .stackUnderflow
  load r.str

/-- Put a word on the stack. -/
def push (w : Word) : MachineM Unit := do
  moveTop 1
  store (← get).registers.str w

/-- Take the top word from the stack.  Its cell becomes unset. -/
def pop : MachineM Word := do
  let w ← top
  store (← get).registers.str Word.unset
  moveTop (-1)
  return w

/-- Drop words from the stack, one after the other. -/
def popMany : (count : Nat) → MachineM Unit
  | 0 => pure ()
  | count + 1 => do
    let _ ← pop
    popMany count

/-! ## Addresses -/

/-- The address of a local cell, counted from the global base. -/
def localAddress (i : Int) : MachineM Int := do
  let r := (← get).registers
  checked ((← checked (r.lbr + i)) - r.gbr)

/-- The place in memory of an address that is counted from the global base. -/
def slot (address : Int) : MachineM Int := do
  checked ((← get).registers.gbr + address)

/-- The word in a local cell. -/
def loadLocal (i : Int) : MachineM Word := do
  load (← slot (← localAddress i))

/-- Put a word into a local cell. -/
def storeLocal (i : Int) (w : Word) : MachineM Unit := do
  store (← slot (← localAddress i)) w

/-- The word in a global cell. -/
def loadGlobal (i : Int) : MachineM Word := do
  load (← slot i)

/-- Put a word into a global cell. -/
def storeGlobal (i : Int) (w : Word) : MachineM Unit := do
  store (← slot i) w

/-! ## Frames -/

/-- Move the local base. -/
def moveBase (distance : Int) : MachineM Unit := do
  let base ← checked ((← get).registers.lbr + distance)
  modify fun m => { m with registers.lbr := base }

/-- Move the local base up by the size of a new frame. -/
def openFrame (size : Nat) : MachineM Unit := do
  moveBase (← checked size)

/-- Move the local base down by the size of a frame that ends. -/
def closeFrame (size : Nat) : MachineM Unit := do
  moveBase (-(← checked size))

/-- How many words the running frame holds. -/
def depth : MachineM Int := do
  let r := (← get).registers
  checked ((← checked (r.str - r.lbr)) + 1)

/-- Move local cells down by a distance, in ascending order: `count` of them, to cell `target` and
the cells after it. -/
def moveDown (distance : Int) (target : Nat) : (count : Nat) → MachineM Unit
  | 0 => pure ()
  | count + 1 => do
    let w ← loadLocal (← checked (distance + target))
    storeLocal target w
    moveDown distance (target + 1) count

/-- Keep the top words of the running frame, moved down to its base, and drop the others.  A frame
without others stays as it is. -/
def collapseFrame (results : Nat) : MachineM Unit := do
  let others ← checked ((← depth) - (← checked results))
  if 0 < others then
    moveDown others 0 results
    let top ← checked ((← get).registers.str - others)
    modify fun m => { m with registers.str := top }

end Machine

end StackMachine

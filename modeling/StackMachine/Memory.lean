import Std.Data.TreeMap
import StackMachine.Error

/-!
# Memory

A flat array of words from address zero upward, without an end.  Only cells that were written take
space; every other cell reads as `Word.unset`, and so does a cell into which that word was stored.

* `Memory.read`, `Memory.write` — access at a place that exists.
* `Memory.load`, `Memory.store` — access at any address; a negative one is refused.
* `Memory.snapshot` — the cells from zero up to a given address.
* `Memory.listing` — the cells that do not read as unset, by ascending address.
-/

namespace StackMachine

/-- Words by address.  Cells that were never written have no entry. -/
structure Memory where
  /-- The cells that were written. -/
  cells : Std.TreeMap Nat Word

namespace Memory

/-- Memory to which nothing was written. -/
def empty : Memory := ⟨∅⟩

/-- The word in a cell. -/
def read (memory : Memory) (place : Nat) : Word := memory.cells.getD place Word.unset

/-- Memory with another word in one cell. -/
def write (memory : Memory) (place : Nat) (w : Word) : Memory := ⟨memory.cells.insert place w⟩

/-- The cell at an address.  There is none below zero. -/
def place (address : Int) : Except MachineError Nat :=
  if address < 0 then .error (.invalidAddress address) else .ok address.toNat

/-- The word at an address. -/
def load (memory : Memory) (address : Int) : Except MachineError Word :=
  (place address).map memory.read

/-- Memory with another word at one address. -/
def store (memory : Memory) (address : Int) (w : Word) : Except MachineError Memory :=
  (place address).map fun i => memory.write i w

/-- The words at the addresses from zero to `top`. -/
def snapshot (memory : Memory) (top : Int) : List Word :=
  (List.range (top + 1).toNat).map memory.read

/-- The cells that do not read as unset, with their addresses. -/
def listing (memory : Memory) : List (Nat × Word) :=
  memory.cells.toList.filter fun (_, w) => w ≠ Word.unset

theorem read_empty (i : Nat) : empty.read i = Word.unset := by
  simp [read, empty]

theorem read_write (memory : Memory) (i j : Nat) (w : Word) :
    (memory.write i w).read j = if i = j then w else memory.read j := by
  simp [read, write, Std.TreeMap.getD_insert]

@[simp]
theorem length_snapshot (memory : Memory) (top : Int) :
    (memory.snapshot top).length = (top + 1).toNat := by
  simp [snapshot]

end Memory

end StackMachine

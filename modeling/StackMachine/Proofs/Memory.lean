import Mathlib.Tactic.Lemma
import StackMachine.Memory

/-!
# Memory seen as a list

A snapshot lists the cells from zero upward, so what is done to a cell is done to the list.

* `Memory.snapshot_write` — writing a cell sets an element; a cell behind the end sets none.
* `Memory.snapshot_succ` — one more cell is one more element at the end.
-/

namespace StackMachine

namespace Memory

variable {memory : Memory} {top : Int}

lemma place_of_nonneg {address : Int} (h : 0 ≤ address) : place address = .ok address.toNat :=
  if_neg (by omega)

lemma place_of_neg {address : Int} (h : address < 0) :
    place address = .error (.invalidAddress address) :=
  if_pos h

lemma getElem_snapshot {i : Nat} (h : i < (memory.snapshot top).length) :
    (memory.snapshot top)[i] = memory.read i := by
  simp [snapshot]

lemma getD_snapshot {i : Nat} (h : i ≤ top) (default : Word) :
    (memory.snapshot top).getD i default = memory.read i := by
  have hi : i < (memory.snapshot top).length := by
    rw [length_snapshot]
    omega
  exact (List.getElem_eq_getD (h := hi) default).symm.trans (getElem_snapshot hi)

/-- Writing a cell sets an element of the list.  A cell behind its end sets none. -/
theorem snapshot_write (i : Nat) (w : Word) :
    (memory.write i w).snapshot top = (memory.snapshot top).set i w := by
  refine List.ext_getElem (by simp) fun j hj _ => ?_
  rw [List.getElem_set, getElem_snapshot, getElem_snapshot, read_write]

lemma snapshot_empty (h : top < 0) : memory.snapshot top = [] := by
  rw [← List.length_eq_zero_iff, length_snapshot]
  omega

/-- One more cell is one more element at the end. -/
theorem snapshot_succ (h : -1 ≤ top) :
    memory.snapshot (top + 1) = memory.snapshot top ++ [memory.read (top + 1).toNat] := by
  have hcount : (top + 1 + 1).toNat = (top + 1).toNat + 1 := by omega
  simp only [snapshot, hcount, List.range_succ, List.map_append, List.map_cons, List.map_nil]

lemma getLast?_snapshot (h : 0 ≤ top) :
    (memory.snapshot top).getLast? = some (memory.read top.toNat) := by
  obtain ⟨below, rfl⟩ : ∃ below, top = below + 1 := ⟨top - 1, by omega⟩
  rw [snapshot_succ (by omega), List.getLast?_concat]

lemma dropLast_snapshot (h : 0 ≤ top) :
    (memory.snapshot top).dropLast = memory.snapshot (top - 1) := by
  obtain ⟨below, rfl⟩ : ∃ below, top = below + 1 := ⟨top - 1, by omega⟩
  rw [snapshot_succ (by omega), List.dropLast_concat, Int.add_sub_cancel]

end Memory

end StackMachine

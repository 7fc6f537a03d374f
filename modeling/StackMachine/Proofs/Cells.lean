import StackMachine.Proofs.Frames.Shift
import StackMachine.Proofs.Memory

/-!
# What operations on cells come to

An operation on a cell needs its address to fit a word and not to be negative.  Where that is known,
the operation is a read or a write of memory, and these lemmas put it in its place.

* `Machine.load_run`, `Machine.store_run` — cells by address.
* `Machine.top_run`, `Machine.push_run`, `Machine.pop_run` — the top of the stack.
* `Machine.stack_pushed`, `Machine.stack_popped` — the stack as a list.
* `Machine.loadLocal_run`, `Machine.storeLocal_run` — local cells.
* `Machine.pop_takes`, `Machine.storeGlobal_ensures`, `Machine.storeLocal_ensures` — the same where
  nothing is known.
-/

namespace StackMachine

namespace Machine

variable {m : Machine}

/-! ## Cells by address -/

lemma checked_run {x : Int} (h : Word.Fits x) : checked x m = .ok x m := by
  simp only [checked]
  rw [if_pos h]
  rfl

lemma load_run {address : Int} (h : 0 ≤ address) :
    load address m = .ok (m.memory.read address.toNat) m := by
  show (liftM (m.memory.load address) : MachineM Word) m = _
  rw [Memory.load, Memory.place_of_nonneg h]
  rfl

lemma load_run_of_neg {address : Int} (h : address < 0) :
    load address m = .error (.invalidAddress address) m := by
  show (liftM (m.memory.load address) : MachineM Word) m = _
  rw [Memory.load, Memory.place_of_neg h]
  rfl

lemma store_run {address : Int} (h : 0 ≤ address) (w : Word) :
    store address w m = .ok ⟨⟩ { m with memory := m.memory.write address.toNat w } := by
  have hstore : (liftM (m.memory.store address w) : MachineM Memory) m =
      .ok (m.memory.write address.toNat w) m := by
    rw [Memory.store, Memory.place_of_nonneg h]
    rfl
  exact bind_get.trans (bind_ok hstore)

lemma store_run_of_neg {address : Int} (h : address < 0) (w : Word) :
    store address w m = .error (.invalidAddress address) m := by
  have hstore : (liftM (m.memory.store address w) : MachineM Memory) m =
      .error (.invalidAddress address) m := by
    rw [Memory.store, Memory.place_of_neg h]
    rfl
  exact bind_get.trans (bind_error hstore)

/-! ## The top of the stack -/

lemma top_run_of_empty (h : m.registers.str < m.registers.gbr) :
    top m = .error .stackUnderflow m := by
  refine bind_get.trans ?_
  simp only [h, if_true]
  rfl

lemma top_run (hgbr : m.registers.gbr ≤ m.registers.str) (h : 0 ≤ m.registers.str) :
    top m = .ok (m.memory.read m.registers.str.toNat) m := by
  refine bind_get.trans ?_
  simp only [Int.not_lt.mpr hgbr, if_false]
  exact load_run h

/-- The machine after a push. -/
def pushed (m : Machine) (w : Word) : Machine :=
  { m with
    registers.str := m.registers.str + 1
    memory := m.memory.write (m.registers.str + 1).toNat w }

lemma push_run (w : Word) (h : -1 ≤ m.registers.str) : push w m = .ok ⟨⟩ (m.pushed w) := by
  have hstr : 0 ≤ m.registers.str + 1 := by omega
  exact store_run hstr w

lemma stack_pushed (w : Word) (h : -1 ≤ m.registers.str) : (m.pushed w).stack = m.stack ++ [w] := by
  show (m.memory.write _ w).snapshot (m.registers.str + 1) = m.memory.snapshot _ ++ [w]
  rw [Memory.snapshot_succ h, Memory.snapshot_write, Memory.read_write, if_pos rfl,
    List.set_eq_of_length_le (Nat.le_of_eq (Memory.length_snapshot _ _))]

/-- The machine after a pop. -/
def popped (m : Machine) : Machine :=
  { m with
    registers.str := m.registers.str + -1
    memory := m.memory.write m.registers.str.toNat Word.unset }

lemma pop_run (hgbr : m.registers.gbr ≤ m.registers.str) (h : 0 ≤ m.registers.str) :
    pop m = .ok (m.memory.read m.registers.str.toNat) m.popped :=
  (bind_ok (top_run hgbr h)).trans (bind_get.trans (bind_ok (store_run h Word.unset)))

/-- A pop takes the top word from a stack that has one, and fails on any other. -/
lemma pop_takes (hgbr : m.registers.gbr = 0) :
    Ensures pop m
      (fun w t => w = m.memory.read m.registers.str.toNat ∧ t = m.popped ∧ 0 ≤ m.registers.str)
      (fun e t => e = .stackUnderflow ∧ t = m) := by
  rcases Int.lt_or_le m.registers.str 0 with empty | filled
  · exact Ensures.of_error (bind_error (top_run_of_empty (by omega))) ⟨rfl, rfl⟩
  · exact Ensures.of_ok (pop_run (by omega) filled) ⟨rfl, rfl, filled⟩

lemma stack_popped (h : 0 ≤ m.registers.str) : m.popped.stack = m.stack.dropLast := by
  show (m.memory.write _ _).snapshot (m.registers.str - 1) = (m.memory.snapshot _).dropLast
  rw [Memory.dropLast_snapshot h, Memory.snapshot_write, List.set_eq_of_length_le]
  rw [Memory.length_snapshot]
  omega

/-! ## Local cells

The origin of memory is zero in all that is proved below, so a local address is its own place.
-/

section Local

variable {i : Int} (hgbr : m.registers.gbr = 0) (hfits : Word.Fits (m.registers.lbr + i))
include hgbr

lemma slot_run {address : Int} (h : Word.Fits address) : slot address m = .ok address m := by
  show checked (m.registers.gbr + address) m = _
  rw [hgbr, Int.zero_add]
  exact checked_run h

include hfits

lemma localAddress_run : localAddress i m = .ok (m.registers.lbr + i) m := by
  refine (bind_ok (checked_run hfits)).trans ?_
  show checked (m.registers.lbr + i - m.registers.gbr) m = _
  rw [hgbr, Int.sub_zero]
  exact checked_run hfits

lemma loadLocal_run (h : 0 ≤ m.registers.lbr + i) :
    loadLocal i m = .ok (m.memory.read (m.registers.lbr + i).toNat) m := by
  refine (bind_ok (localAddress_run hgbr hfits)).trans ?_
  exact (bind_ok (slot_run hgbr hfits)).trans (load_run h)

lemma storeLocal_run (h : 0 ≤ m.registers.lbr + i) (w : Word) :
    storeLocal i w m =
      .ok ⟨⟩ { m with memory := m.memory.write (m.registers.lbr + i).toNat w } := by
  refine (bind_ok (localAddress_run hgbr hfits)).trans ?_
  exact (bind_ok (slot_run hgbr hfits)).trans (store_run h w)

end Local

/-! ## Any cells

Where nothing is known of an address, the operation succeeds only if it fits and is not negative.
-/

section Any

variable {i : Int} (hgbr : m.registers.gbr = 0)
include hgbr

lemma slot_ensures (address : Int) :
    Ensures (slot address) m (fun a t => a = address ∧ t = m) (fun _ t => t = m) := by
  refine Ensures.get_bind ((checked_ensures _ m).mono ?_ (fun _ _ h => h.2.2))
  rintro a t ⟨rfl, -, rfl⟩
  exact ⟨by rw [hgbr, Int.zero_add], rfl⟩

lemma localAddress_ensures (i : Int) :
    Ensures (localAddress i) m
      (fun a t => a = m.registers.lbr + i ∧ Word.Fits (m.registers.lbr + i) ∧ t = m)
      (fun _ t => t = m) := by
  by_cases fits : Word.Fits (m.registers.lbr + i)
  · exact Ensures.of_ok (localAddress_run hgbr fits) ⟨rfl, fits, rfl⟩
  · refine Ensures.get_bind (Ensures.bind (checked_ensures _ m) (fun _ _ h => h.2.2) ?_)
    rintro a t ⟨-, ha, -⟩
    exact absurd ha fits

lemma storeGlobal_ensures (i : Int) (w : Word) :
    Ensures (storeGlobal i w) m
      (fun _ t => 0 ≤ i ∧ t = { m with memory := m.memory.write i.toNat w })
      (fun _ t => t = m) := by
  refine Ensures.bind (slot_ensures hgbr i) (fun _ _ h => h) ?_
  rintro a t ⟨rfl, rfl⟩
  rcases Int.lt_or_le a 0 with neg | nonneg
  · exact Ensures.of_error (store_run_of_neg neg w) rfl
  · exact Ensures.of_ok (store_run nonneg w) ⟨nonneg, rfl⟩

lemma storeLocal_ensures (i : Int) (w : Word) :
    Ensures (storeLocal i w) m
      (fun _ t => (Word.Fits (m.registers.lbr + i) ∧ 0 ≤ m.registers.lbr + i) ∧
        t = { m with memory := m.memory.write (m.registers.lbr + i).toNat w })
      (fun _ t => t = m) := by
  refine Ensures.bind (localAddress_ensures hgbr i) (fun _ _ h => h) ?_
  rintro a t ⟨rfl, fits, rfl⟩
  refine (storeGlobal_ensures hgbr _ w).mono ?_ (fun _ _ h => h)
  rintro _ u ⟨nonneg, rfl⟩
  exact ⟨⟨fits, nonneg⟩, rfl⟩

end Any

end Machine

end StackMachine

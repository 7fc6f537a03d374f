import StackMachine.Proofs.Frames.Balance
import StackMachine.Proofs.Frames.Relocation
import StackMachine.Proofs.ListStack.Basic
import StackMachine.Proofs.Memory
import StackMachine.Proofs.Mirrors

/-!
# The list in the memory

Every machine with memory shows a machine with a list: the list holds the cells from the origin up
to the stack top.  An operation is mirrored when it makes no difference whether it is done before
looking at the list or after.

* `Machine.view` — the machine with a list that a machine shows.
* `Machine.push_mirrors`, `Machine.pop_mirrors` and the like — the operations one by one.
* `Machine.collapseFrame_mirrors` — dropping a frame, where the cells above the results stay behind
  in memory but are cut out of the list.

A load is mirrored only from a cell of the stack.  A store is mirrored everywhere: what lies above
the stack is not shown, and it is overwritten before it comes to be.
-/

namespace StackMachine

/-! ## What is shown -/

/-- The machine with a list for a stack that a machine shows. -/
def Machine.view (m : Machine) : ListMachine where
  ip := m.registers.ip
  base := m.registers.lbr
  stack := m.stack
  returns := m.returns
  trace := m.trace

namespace Machine

variable {m : Machine}

/-! ## The stack -/

lemma length_stack (h : Grounded m) : (m.stack.length : Int) = m.registers.str + 1 := by
  have hstr := h.str
  rw [stack, Memory.length_snapshot]
  omega

lemma checked_mirrors (x : Int) :
    Mirrors view (checked x) (ListMachine.checked x) m
      (fun y t => y = x ∧ Word.Fits x ∧ t = m) := by
  simp only [checked, ListMachine.checked]
  split
  next h => exact Mirrors.pure ⟨rfl, h, rfl⟩
  next h => exact Mirrors.throw _

/-- Pushing a word covers the first cell above the stack, whatever was left in it. -/
lemma push_mirrors (w : Word) (h : Grounded m) :
    Mirrors view (push w) (ListMachine.push w) m (fun _ t => Grounded t) := by
  have hstr := h.str
  have hview : (m.pushed w).view = { m.view with stack := m.stack ++ [w] } := by
    rw [← stack_pushed w hstr]
    rfl
  have hground : Grounded (m.pushed w) :=
    ⟨h.gbr, h.lbr, by show -1 ≤ m.registers.str + 1; omega⟩
  exact Mirrors.of_shown (push_run w hstr) hview rfl hground

/-- Either stack is empty when the other one is. -/
lemma top_mirrors (h : Grounded m) :
    Mirrors view top ListMachine.top m (fun _ t => t = m ∧ 0 ≤ m.registers.str) := by
  have hgbr := h.gbr
  by_cases empty : m.registers.str < 0
  · have hlast : m.view.stack.getLast? = none := by
      show m.stack.getLast? = none
      rw [stack, Memory.snapshot_empty empty, List.getLast?_nil]
    refine Mirrors.of_error (top_run_of_empty (by omega)) (bind_get.trans ?_)
    simp only [hlast]
    rfl
  · have hstr : 0 ≤ m.registers.str := by omega
    have hlast : m.view.stack.getLast? = some (m.memory.read m.registers.str.toNat) :=
      Memory.getLast?_snapshot hstr
    refine Mirrors.of_ok (top_run (by omega) hstr) (bind_get.trans ?_) ⟨rfl, hstr⟩
    simp only [hlast]
    rfl

/-- The cell of a word that is popped is no longer shown, whatever is written to it. -/
lemma pop_mirrors (h : Grounded m) :
    Mirrors view pop ListMachine.pop m (fun _ t => Grounded t) := by
  refine Mirrors.bind (top_mirrors h) ?_
  rintro w t ⟨rfl, hstr⟩
  have hview : t.popped.view = { t.view with stack := t.stack.dropLast } := by
    rw [← stack_popped hstr]
    rfl
  have hground : Grounded t.popped :=
    ⟨h.gbr, h.lbr, by show -1 ≤ t.registers.str + -1; omega⟩
  exact Mirrors.of_shown (bind_ok (store_run hstr Word.unset)) hview rfl hground

lemma popMany_mirrors (count : Nat) (h : Grounded m) :
    Mirrors view (popMany count) (ListMachine.popMany count) m (fun _ t => Grounded t) := by
  induction count generalizing m with
  | zero => exact Mirrors.pure h
  | succ count ih =>
      refine Mirrors.bind (pop_mirrors h) ?_
      intro _ t ht
      exact ih ht

/-! ## Cells -/

lemma localAddress_mirrors (i : Int) (h : Grounded m) :
    Mirrors view (localAddress i) (ListMachine.localAddress i) m
      (fun a t => a = m.registers.lbr + i ∧ Word.Fits a ∧ t = m) := by
  refine Mirrors.get_bind ?_
  show Mirrors view (checked (m.registers.lbr + i) >>= fun a => checked (a - m.registers.gbr))
    (ListMachine.checked (m.registers.lbr + i)) m _
  cases checked_mirrors (m := m) (m.registers.lbr + i) with
  | of_error run image => exact Mirrors.of_error (bind_error run) image
  | of_ok run image holds =>
      obtain ⟨rfl, hfits, rfl⟩ := holds
      refine Mirrors.of_ok ((bind_ok run).trans ?_) image ⟨rfl, hfits, rfl⟩
      rw [h.gbr, Int.sub_zero]
      exact checked_run hfits

/-- A word is loaded alike from every cell of the stack. -/
lemma load_mirrors {address : Int} (h : address ≤ m.registers.str) :
    Mirrors view (load address) (ListMachine.load address) m (fun _ t => t = m) := by
  by_cases neg : address < 0
  · refine Mirrors.of_error (load_run_of_neg neg) ?_
    rw [ListMachine.load, Memory.place_of_neg neg]
    rfl
  · have hplace : 0 ≤ address := by omega
    refine Mirrors.of_ok (load_run hplace) ?_ rfl
    have hcell : m.view.stack.getD address.toNat Word.unset = m.memory.read address.toNat :=
      Memory.getD_snapshot (by omega) _
    rw [← hcell, ListMachine.load, Memory.place_of_nonneg hplace]
    rfl

/-- A word is stored alike in every cell, and it is shown where the cell belongs to the stack. -/
lemma store_mirrors (address : Int) (w : Word) (h : Grounded m) :
    Mirrors view (store address w) (ListMachine.store address w) m (fun _ t => Grounded t) := by
  by_cases neg : address < 0
  · refine Mirrors.of_error (store_run_of_neg neg w) ?_
    rw [ListMachine.store, Memory.place_of_neg neg]
    rfl
  · have hplace : 0 ≤ address := by omega
    have hview : view { m with memory := m.memory.write address.toNat w } =
        { m.view with stack := m.stack.set address.toNat w } := by
      rw [stack, ← Memory.snapshot_write]
      rfl
    refine Mirrors.of_shown (store_run hplace w) hview ?_ ⟨h.gbr, h.lbr, h.str⟩
    rw [ListMachine.store, Memory.place_of_nonneg hplace]
    rfl

section Local

variable (i : Int) (h : Grounded m)
include h

lemma loadLocal_mirrors
    (within : Word.Fits (m.registers.lbr + i) → m.registers.lbr + i ≤ m.registers.str) :
    Mirrors view (loadLocal i) (ListMachine.loadLocal i) m
      (fun _ t => t = m) := by
  refine Mirrors.bind (localAddress_mirrors i h) ?_
  rintro address t ⟨rfl, hfits, rfl⟩
  exact (load_mirrors (within hfits)).congr (bind_ok (slot_run h.gbr hfits)) rfl

lemma storeLocal_mirrors (w : Word) :
    Mirrors view (storeLocal i w) (ListMachine.storeLocal i w) m (fun _ t => Grounded t) := by
  refine Mirrors.bind (localAddress_mirrors i h) ?_
  rintro address t ⟨rfl, hfits, rfl⟩
  exact (store_mirrors _ w h).congr (bind_ok (slot_run h.gbr hfits)) rfl

end Local

lemma loadGlobal_mirrors (i : Word) (h : Grounded m) (within : i.toInt ≤ m.registers.str) :
    Mirrors view (loadGlobal i.toInt) (ListMachine.load i.toInt) m (fun _ t => t = m) :=
  (load_mirrors within).congr (bind_ok (slot_run h.gbr i.fits)) rfl

lemma storeGlobal_mirrors (i w : Word) (h : Grounded m) :
    Mirrors view (storeGlobal i.toInt w) (ListMachine.store i.toInt w) m (fun _ t => Grounded t) :=
  (store_mirrors _ w h).congr (bind_ok (slot_run h.gbr i.fits)) rfl

/-! ## Frames -/

lemma moveBase_mirrors (distance : Int) :
    Mirrors view (moveBase distance) (ListMachine.moveBase distance) m (fun _ _ => True) := by
  refine Mirrors.get_bind (Mirrors.bind (checked_mirrors _) ?_)
  rintro base t ⟨rfl, -, rfl⟩
  exact Mirrors.forget (Mirrors.update rfl)

lemma openFrame_mirrors (size : Nat) :
    Mirrors view (openFrame size) (ListMachine.openFrame size) m (fun _ _ => True) := by
  refine Mirrors.bind (checked_mirrors _) ?_
  intro distance t _
  exact moveBase_mirrors distance

lemma closeFrame_mirrors (size : Nat) :
    Mirrors view (closeFrame size) (ListMachine.closeFrame size) m (fun _ _ => True) := by
  refine Mirrors.bind (checked_mirrors _) ?_
  intro distance t _
  exact moveBase_mirrors (-distance)

lemma popReturn_mirrors :
    Mirrors view popReturn ListMachine.popReturn m (fun _ _ => True) := by
  refine Mirrors.get_bind ?_
  cases hreturns : m.returns with
  | nil =>
      have hview : m.view.returns = [] := hreturns
      simp only [hview]
      exact Mirrors.throw _
  | cons point rest =>
      have hview : m.view.returns = point :: rest := hreturns
      simp only [hview]
      refine Mirrors.bind (Mirrors.update rfl) ?_
      intro _ t _
      exact Mirrors.pure trivial

/-- The results moved to the base, and what follows them cut off: this leaves of the list what lies
below the base and the results. -/
lemma snapshot_collapse {memory memory' : Memory} {base top others : Int} {results : Nat}
    (hbase : 0 ≤ base) (hothers : others = top + 1 - base - results) (hpos : 0 < others)
    (hread : ∀ i : Nat, memory'.read i =
      if base ≤ i ∧ i < base + results then memory.read (i + others).toNat else memory.read i) :
    memory'.snapshot (top - others) = (memory.snapshot top).take base.toNat ++
      (memory.snapshot top).drop ((memory.snapshot top).length - results) := by
  have hlength : (top + 1).toNat = base.toNat + others.toNat + results := by omega
  refine List.ext_getElem ?_ fun i hi hi' => ?_
  · simp only [List.length_append, List.length_take, List.length_drop, Memory.length_snapshot]
    omega
  · rw [Memory.getElem_snapshot, hread, List.getElem_append]
    simp only [List.length_take, List.getElem_take, List.getElem_drop, Memory.getElem_snapshot,
      Memory.length_snapshot] at hi ⊢
    split
    next inside =>
      rw [dif_neg (by omega)]
      congr 1
      omega
    next outside =>
      rw [dif_pos (by omega)]

/-- **Dropping a frame cuts it out of the list.** -/
lemma collapseFrame_mirrors (results : Nat) (h : Grounded m) (hbase : Word.Fits m.registers.lbr)
    (htop : m.registers.str + 1 < 0x8000000000000000) :
    Mirrors view (collapseFrame results) (ListMachine.collapse results) m (fun _ _ => True) := by
  have hlbr := h.lbr
  -- Within these bounds the depth always fits, so there is nothing to mirror in its checks.
  refine Mirrors.congr ?_ (bind_ok (depth_run h hbase htop)) rfl
  refine Mirrors.bind (checked_mirrors _) ?_
  rintro r t ⟨rfl, hresults, rfl⟩
  refine Mirrors.congr ?_ rfl bind_get
  have hdepth : t.registers.str - t.registers.lbr + 1 - results =
      t.view.stack.length - t.view.base - results := by
    show _ = (t.stack.length : Int) - t.registers.lbr - results
    rw [length_stack h]
    omega
  rw [hdepth]
  refine Mirrors.bind (checked_mirrors _) ?_
  rintro others u ⟨hothers, -, rfl⟩
  rw [← hdepth] at hothers
  show Mirrors view (if 0 < others then _ else pure ()) (if 0 < others then _ else pure ()) u _
  split
  next hpos =>
    -- Here the words move in memory, and the list is cut in one go.
    obtain ⟨memory, hrun, hread⟩ := moveDown_run hpos h.gbr hlbr 0 results (by omega)
    have hstr : Word.Fits (u.registers.str - others) := by
      simp only [Word.Fits] at hbase ⊢
      omega
    have hstack : memory.snapshot (u.registers.str - others) =
        u.stack.take u.registers.lbr.toNat ++ u.stack.drop (u.stack.length - results) :=
      snapshot_collapse hlbr (by omega) hpos fun i => by simpa using hread i
    have hview : view { u with memory, registers.str := u.registers.str - others } =
        { u.view with
          stack := u.stack.take u.registers.lbr.toNat ++
            u.stack.drop (u.stack.length - results) } := by
      rw [← hstack]
      rfl
    refine Mirrors.of_shown ?_ hview rfl trivial
    exact (bind_ok hrun).trans (bind_ok (checked_run hstr))
  next hpos => exact Mirrors.pure trivial

lemma enterRoutine_mirrors (frame : Nat) (h : Grounded m) :
    Mirrors view (enterRoutine frame) (ListMachine.enterRoutine frame) m (fun _ _ => True) := by
  refine Mirrors.bind (pop_mirrors h) ?_
  intro w t _
  refine Mirrors.bind_check _ ?_
  intro target _
  refine Mirrors.bind (Mirrors.update rfl) ?_
  intro _ u _
  exact Mirrors.answer (openFrame_mirrors frame) _

lemma leaveRoutine_mirrors (results : Nat) (h : Grounded m) (hbase : Word.Fits m.registers.lbr)
    (htop : m.registers.str + 1 < 0x8000000000000000) :
    Mirrors view (leaveRoutine results) (ListMachine.leaveRoutine results) m (fun _ _ => True) := by
  refine Mirrors.bind (collapseFrame_mirrors results h hbase htop) ?_
  intro _ t _
  refine Mirrors.bind popReturn_mirrors ?_
  intro point u _
  exact Mirrors.answer (closeFrame_mirrors point.frame) _

end Machine

end StackMachine

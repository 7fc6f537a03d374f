import StackMachine.Proofs.Cells
import StackMachine.Proofs.Frames.Balance

/-!
# Results move down

A return copies its results to the base of the frame, cell by cell and from the lowest one on.  The
cells that are read may be among those that are written, but each of them is read first, because it
lies above the cell that is written in its place.

* `Machine.moveDown_ensures` — what the copy has done when it is through, and what it leaves alone
  when it fails; `Machine.moveDown_run` — where it cannot fail.
* `Machine.Collapsed` — all but the results of the running frame were dropped, with
  `Machine.collapseFrame_ensures`.
* `results_move_down` — so it is in every state of a run.
-/

namespace StackMachine

namespace Machine

variable {m : Machine}

lemma depth_run (h : Grounded m) (hbase : Word.Fits m.registers.lbr)
    (htop : m.registers.str + 1 < 0x8000000000000000) :
    depth m = .ok (m.registers.str - m.registers.lbr + 1) m := by
  have hlbr := h.lbr
  have hstr := h.str
  simp only [Word.Fits] at hbase
  have hdistance : Word.Fits (m.registers.str - m.registers.lbr) := by
    simp only [Word.Fits]
    omega
  have hdepth : Word.Fits (m.registers.str - m.registers.lbr + 1) := by
    simp only [Word.Fits]
    omega
  exact (bind_ok (checked_run hdistance)).trans (checked_run hdepth)

/-! ## Cells that move down -/

/-- A local cell is read only at an address that fits. -/
lemma loadLocal_fits (hgbr : m.registers.gbr = 0) (i : Int) :
    Ensures (loadLocal i) m (fun _ _ => Word.Fits (m.registers.lbr + i)) (fun _ t => t = m) := by
  refine Ensures.bind (localAddress_ensures hgbr i) (fun _ _ h => h) ?_
  rintro a t ⟨rfl, hfits, rfl⟩
  exact (loadGlobal_reads _ t).mono (fun _ _ _ => hfits) (fun _ _ h => h)

/-- The memory after the first cell has moved. -/
def movedFirst (m : Machine) (distance : Int) (target : Nat) : Memory :=
  m.memory.write (m.registers.lbr + target).toNat
    (m.memory.read (m.registers.lbr + (distance + target)).toNat)

lemma read_movedFirst (distance : Int) (target : Nat) (hlbr : 0 ≤ m.registers.lbr) (i : Nat) :
    (m.movedFirst distance target).read i =
      if (i : Int) = m.registers.lbr + target then m.memory.read (i + distance).toNat
      else m.memory.read i := by
  rw [movedFirst, Memory.read_write]
  by_cases hfirst : (i : Int) = m.registers.lbr + target
  · rw [if_pos (by omega), if_pos hfirst]
    congr 1
    omega
  · rw [if_neg (by omega), if_neg hfirst]

section MoveDown

variable {distance : Int} (hdistance : 0 < distance) (hgbr : m.registers.gbr = 0)
  (hlbr : 0 ≤ m.registers.lbr)

include hdistance hgbr hlbr in
lemma moveDown_succ {target : Nat} (hsource : Word.Fits (m.registers.lbr + (distance + target)))
    (count : Nat) :
    moveDown distance target (count + 1) m =
      moveDown distance (target + 1) count { m with memory := m.movedFirst distance target } := by
  have hoffset : Word.Fits (distance + target) := by
    simp only [Word.Fits] at hsource ⊢
    omega
  have htarget : Word.Fits (m.registers.lbr + target) := by
    simp only [Word.Fits] at hsource ⊢
    omega
  refine (bind_ok (checked_run hoffset)).trans ?_
  refine (bind_ok (loadLocal_run hgbr hsource (by omega))).trans ?_
  exact bind_ok (storeLocal_run hgbr htarget (by omega) _)

include hgbr in
lemma moveDown_stuck {target : Nat} (hsource : ¬ Word.Fits (m.registers.lbr + (distance + target)))
    (count : Nat) :
    Ensures (moveDown distance target (count + 1)) m (fun _ _ => False) (fun _ t => t = m) := by
  refine Ensures.bind (checked_ensures _ m) (fun _ _ h => h.2.2) ?_
  rintro source t ⟨rfl, -, rfl⟩
  refine Ensures.bind (loadLocal_fits hgbr _) (fun _ _ h => h) ?_
  intro w u hfits
  exact absurd hfits hsource

include hdistance hgbr hlbr

/-- **Cells move down.**  The `count` cells from `target` on come to hold what was the given
distance above them before the move, also where source and target overlap, and no other cell
changes.  A move that fails has changed no other cell either, and it fails only if the last cell to
be read has an address that does not fit. -/
theorem moveDown_ensures (target count : Nat) :
    Ensures (moveDown distance target count) m
      (fun _ t => ∃ memory, t = { m with memory } ∧ ∀ i : Nat, memory.read i =
        if m.registers.lbr + target ≤ i ∧ i < m.registers.lbr + target + count then
          m.memory.read (i + distance).toNat
        else m.memory.read i)
      (fun _ t => 0x8000000000000000 < m.registers.lbr + distance + target + count ∧
        ∃ memory, t = { m with memory } ∧ ∀ i : Nat,
          m.registers.lbr + target + count ≤ i → memory.read i = m.memory.read i) := by
  induction count generalizing target m with
  | zero =>
      refine Ensures.pure ⟨m.memory, rfl, fun i => ?_⟩
      rw [if_neg (by omega)]
  | succ count ih =>
      by_cases hsource : Word.Fits (m.registers.lbr + (distance + target))
      · -- The first cell is written, and the rest moves from there.
        have hfirst := read_movedFirst distance target hlbr
        have rest := ih (m := { m with memory := m.movedFirst distance target }) hgbr hlbr
          (target + 1)
        refine (rest.congr (moveDown_succ hdistance hgbr hlbr hsource count)).mono ?_ ?_
        · rintro _ _ ⟨memory, rfl, hread⟩
          refine ⟨memory, rfl, fun i => (hread i).trans ?_⟩
          show (if m.registers.lbr + (target + 1 : Nat) ≤ i ∧
              i < m.registers.lbr + (target + 1 : Nat) + count then
            (m.movedFirst distance target).read (i + distance).toNat
            else (m.movedFirst distance target).read i) = _
          by_cases hinside : m.registers.lbr + (target + 1 : Nat) ≤ i ∧
              i < m.registers.lbr + (target + 1 : Nat) + count
          · rw [if_pos hinside, hfirst, if_neg (by omega), if_pos (by omega)]
          · rw [if_neg hinside, hfirst]
            by_cases hi : (i : Int) = m.registers.lbr + target
            · rw [if_pos hi, if_pos (by omega)]
            · rw [if_neg hi, if_neg (by omega)]
        · rintro _ _ ⟨hfar, memory, rfl, hread⟩
          have hfar : 0x8000000000000000 <
              m.registers.lbr + distance + (target + 1 : Nat) + count := hfar
          refine ⟨by omega, memory, rfl, fun i hi => (hread i ?_).trans ?_⟩
          · show m.registers.lbr + (target + 1 : Nat) + count ≤ i
            omega
          · rw [hfirst, if_neg (by omega)]
      · refine (moveDown_stuck hgbr hsource count).mono (fun _ _ h => h.elim) ?_
        rintro e t rfl
        simp only [Word.Fits] at hsource
        exact ⟨by omega, t.memory, rfl, fun _ _ => rfl⟩

/-- A move succeeds where all addresses fit. -/
theorem moveDown_run (target count : Nat)
    (hfits : m.registers.lbr + distance + target + count ≤ 0x8000000000000000) :
    ∃ memory, moveDown distance target count m = .ok ⟨⟩ { m with memory } ∧
      ∀ i : Nat, memory.read i =
        if m.registers.lbr + target ≤ i ∧ i < m.registers.lbr + target + count then
          m.memory.read (i + distance).toNat
        else m.memory.read i := by
  cases moveDown_ensures hdistance hgbr hlbr target count with
  | of_ok run holds =>
      obtain ⟨memory, rfl, hread⟩ := holds
      exact ⟨memory, run, hread⟩
  | of_error run holds => exact absurd hfits (by omega)

end MoveDown

/-! ## Dropping the words of a frame -/

/-- How many words the running frame holds besides its results. -/
def surplus (results : Nat) (m : Machine) : Int :=
  m.registers.str - m.registers.lbr + 1 - results

/-- **All but the results of the running frame were dropped.**  The results lie at the base of the
frame, and every cell from there up to the stack top holds what was the surplus above it.  The
dropped words stay in memory, above the stack top.  A frame without surplus stays as it is. -/
inductive Collapsed (results : Nat) (m t : Machine) : Prop where
  | moved (memory : Memory) (more : 0 < m.surplus results)
      (after : t = { m with memory, registers.str := m.registers.lbr - 1 + results })
      (cells : ∀ i : Nat, memory.read i =
        if m.registers.lbr ≤ i ∧ i < m.registers.lbr + results then
          m.memory.read (i + m.surplus results).toNat
        else m.memory.read i)
  | kept (none : ¬ 0 < m.surplus results) (after : t = m)

/-- **Dropping the words of a frame** moves its results down.  Where it fails, it has changed no
cell above the stack top, and it has changed nothing at all if the stack top is a word. -/
theorem collapseFrame_ensures (results : Nat) (h : Grounded m) :
    Ensures (collapseFrame results) m (fun _ t => Collapsed results m t)
      (fun e t => (∃ memory, t = { m with memory } ∧
          ∀ i : Nat, m.registers.str < i → memory.read i = m.memory.read i) ∧
        (Word.Fits m.registers.str → e = .arithmeticOverflow ∧ t = m)) := by
  have hlbr := h.lbr
  have hstr := h.str
  have unchanged : ∀ {e : MachineError} {t : Machine}, e = .arithmeticOverflow → t = m →
      (∃ memory, t = { m with memory } ∧
        ∀ i : Nat, m.registers.str < i → memory.read i = m.memory.read i) ∧
      (Word.Fits m.registers.str → e = .arithmeticOverflow ∧ t = m) := by
    intro e t he ht
    refine ⟨⟨m.memory, ht, ?_⟩, fun _ => ⟨he, ht⟩⟩
    intro i _
    rfl
  refine Ensures.bind (depth_ensures m) (fun _ _ ht => unchanged ht.1 ht.2) ?_
  rintro d t ⟨rfl, rfl⟩
  refine Ensures.bind (checked_ensures _ t) (fun _ _ hu => unchanged hu.1 hu.2.2) ?_
  rintro r u ⟨rfl, -, rfl⟩
  refine Ensures.bind (checked_ensures _ u) (fun _ _ hv => unchanged hv.1 hv.2.2) ?_
  rintro others v ⟨hothers, -, rfl⟩
  have hsurplus : others = v.surplus results := hothers
  show Ensures (if 0 < others then _ else pure ()) _ _ _
  split
  next more =>
    refine Ensures.bind (moveDown_ensures more h.gbr hlbr 0 results) ?_ ?_
    · rintro e w ⟨far, memory, rfl, cells⟩
      refine ⟨⟨memory, rfl, fun i hi => cells i (by omega)⟩, fun fits => ?_⟩
      simp only [Word.Fits] at fits
      omega
    · rintro _ w ⟨memory, rfl, cells⟩
      have cells : ∀ i : Nat, memory.read i =
          if v.registers.lbr ≤ i ∧ i < v.registers.lbr + results then
            v.memory.read (i + others).toNat
          else v.memory.read i := by simpa using cells
      refine Ensures.get_bind (Ensures.bind (checked_ensures _ _) ?_ ?_)
      · rintro e w ⟨-, misfit, rfl⟩
        refine ⟨⟨memory, rfl, fun i hi => ?_⟩, fun fits => absurd ?_ misfit⟩
        · rw [cells i, if_neg (by omega)]
        · show Word.Fits (v.registers.str - others)
          simp only [Word.Fits] at fits ⊢
          omega
      · rintro top w ⟨rfl, -, rfl⟩
        rw [hsurplus] at more cells
        refine Ensures.update (Collapsed.moved memory more ?_ cells)
        have top : v.registers.str - others = v.registers.lbr - 1 + results := by omega
        show { v with memory, registers.str := v.registers.str - others } = _
        rw [top]
  next none =>
    rw [hsurplus] at none
    exact Ensures.pure (Collapsed.kept none rfl)

end Machine

/-- **Results move down.**  Take any state of a run of a new machine, and let the running frame drop
all but some results.  When it holds more words than these, they come to lie from its base on, each
as it was before the move, also where they overlap with the cells that they are moved to; the stack
top is at the last of them, and no other cell changes, those of the dropped words included.  When
it holds no more, nothing changes.  In either case all other registers and the return stack stay as
they are. -/
theorem results_move_down (program : Program) (trace : Bool) (console : Console)
    (count results : Nat) (t : Machine) :
    let m := (Execution.run program count
      (Execution.fresh program trace console)).system.machine
    let start := m.registers.str - m.registers.lbr + 1 - results
    Machine.collapseFrame results m = .ok ⟨⟩ t →
    (0 < start →
      (∀ j : Nat, j < results → t.memory.read (m.registers.lbr + j).toNat =
        m.memory.read (m.registers.lbr + start + j).toNat) ∧
      t.registers.str = m.registers.lbr - 1 + results ∧
      ∀ i : Nat, ¬ (m.registers.lbr ≤ i ∧ i < m.registers.lbr + results) →
        t.memory.read i = m.memory.read i) ∧
    (start ≤ 0 → t.memory = m.memory ∧ t.registers.str = m.registers.str) ∧
    t.registers.lbr = m.registers.lbr ∧ t.registers.gbr = m.registers.gbr ∧
    t.registers.ip = m.registers.ip ∧ t.returns = m.returns := by
  intro m start done
  have h : Machine.Grounded m := (Execution.run_sound program trace console count).grounded
  have hlbr := h.lbr
  cases (Machine.collapseFrame_ensures results h).ok done with
  | moved memory more after cells =>
      subst after
      refine ⟨?_, fun less => absurd more (Int.not_lt.mpr less), rfl, rfl, rfl, rfl⟩
      intro _
      refine ⟨?_, rfl, ?_⟩
      · intro j hj
        refine (cells _).trans ?_
        rw [if_pos (by omega)]
        congr 1
        simp only [Machine.surplus, start]
        omega
      · intro i outside
        exact (cells i).trans (if_neg outside)
  | kept none after =>
      subst after
      exact ⟨fun more => absurd more none, fun _ => ⟨rfl, rfl⟩, rfl, rfl, rfl, rfl⟩

/-- A program that leaves four words on the stack. -/
def fourWords : Program := ⟨#[.literal 10, .literal 20, .literal 30, .literal 40], ∅⟩

/-- Three of the four words move down by one cell, into cells of which two are read as well. -/
theorem results_move_down_overlapping :
    let m := (Execution.run fourWords 4
      (Execution.fresh fourWords false (Console.ofInput []))).system.machine
    ∃ t, Machine.collapseFrame 3 m = .ok ⟨⟩ t ∧ t.registers.str = 2 ∧
      ∀ j : Nat, j < 3 → t.memory.read j = m.memory.read (1 + j) := by
  intro m
  have lbr : m.registers.lbr = 0 := by decide +kernel
  have str : m.registers.str = 3 := by decide +kernel
  have topAfter : (match Machine.collapseFrame 3 m with
      | .ok _ t => some t.registers.str
      | .error _ _ => none) = some 2 := by decide +kernel
  cases done : Machine.collapseFrame 3 m with
  | error e t =>
      rw [done] at topAfter
      exact nomatch topAfter
  | ok _ t =>
      have moved := (results_move_down fourWords false (Console.ofInput []) 4 3 t done).1
      obtain ⟨cells, top, -⟩ := moved (show 0 < m.registers.str - m.registers.lbr + 1 - 3 by omega)
      refine ⟨t, rfl, top.trans (show m.registers.lbr - 1 + 3 = 2 by omega), ?_⟩
      intro j hj
      have cell : t.memory.read (m.registers.lbr + j).toNat = m.memory.read
          (m.registers.lbr + (m.registers.str - m.registers.lbr + 1 - 3) + j).toNat := cells j hj
      rw [lbr, str] at cell
      rw [show (1 + j : Nat) = (0 + (3 - 0 + 1 - 3) + (j : Int)).toNat by omega, ← cell]
      congr 1
      omega

end StackMachine

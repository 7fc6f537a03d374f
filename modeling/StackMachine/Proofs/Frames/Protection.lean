import StackMachine.Proofs.Cells
import StackMachine.Proofs.Frames.Balance

/-!
# Cells that a routine cannot reach

An instruction writes to few cells: to the one above the stack top when it pushes, to the cells that
it pops, to a cell that it names, and to the cells from the local base on when it returns.  So as
long as a run takes no word below some address, stores nothing there and returns from no frame that
begins there, the cells below the address stay as they are, whatever else it does.

* `Instruction.pops`, `Instruction.target?` — the words that an instruction takes, and the address
  that it stores at.
* `Instruction.Spares` — an instruction that stays above an address.
* `Machine.Shields` — the cells below an address are as they were, and the stack does not end below
  it.
* `Instruction.perform_shields`, `Execution.step_shields`, `Execution.run_shields` — an instruction,
  a step and a run.
* `cells_below_kept` — what a caller has left on the stack is there when its callee is done.
-/

namespace StackMachine

/-! ## Footprints -/

namespace Instruction

/-- How many words an instruction takes from the stack, one after the other.  A conditional jump
takes one only if both labels are bound. -/
def pops (program : Program) : Instruction → Nat
  | .storeLocal _ | .storeGlobal _ | .unary _ | .call _ | .system .writeNumber
  | .system .writeCharacter => 1
  | .branch yes no =>
    match program.label yes, program.label no with
    | .ok _, .ok _ => 1
    | _, _ => 0
  | .binary _ | .swap => 2
  | .pop count => count
  | _ => 0

/-- The address that an instruction stores at, if there is a word to store. -/
def target? (m : Machine) (ins : Instruction) : Option Int :=
  if m.registers.str < m.registers.gbr then none
  else
    match ins with
    | .storeLocal i =>
      if Word.Fits (m.registers.lbr + i.toInt) then some (m.registers.lbr + i.toInt) else none
    | .storeGlobal i => some i.toInt
    | _ => none

/-- Whether an instruction returns from a routine. -/
def returns : Instruction → Bool
  | .ret _ => true
  | _ => false

/-- **An instruction spares the cells below an address**: it takes no word from them, it does not
store there, and it does not return from a frame that begins there. -/
structure Spares (program : Program) (bound : Nat) (m : Machine) (ins : Instruction) : Prop where
  pops : ∀ taken < ins.pops program, 0 ≤ m.registers.str - (taken : Nat) →
    (bound : Int) ≤ m.registers.str - taken
  stores : ∀ address ∈ ins.target? m, (bound : Int) ≤ address
  returns : ins.returns = true → (bound : Int) ≤ m.registers.lbr

instance (program : Program) (bound : Nat) (m : Machine) (ins : Instruction) :
    Decidable (ins.Spares program bound m) :=
  decidable_of_iff
    ((∀ taken < ins.pops program, 0 ≤ m.registers.str - (taken : Nat) →
      (bound : Int) ≤ m.registers.str - taken) ∧
      (∀ address ∈ ins.target? m, (bound : Int) ≤ address) ∧
      (ins.returns = true → (bound : Int) ≤ m.registers.lbr))
    ⟨fun h => ⟨h.1, h.2.1, h.2.2⟩, fun h => ⟨h.pops, h.stores, h.returns⟩⟩

end Instruction

/-! ## Operations -/

namespace Machine

/-- **The cells below an address are shielded**: they hold what a memory holds there, and the stack
reaches up to them. -/
structure Shields (bound : Nat) (memory : Memory) (m : Machine) : Prop where
  cells : ∀ place < bound, m.memory.read place = memory.read place
  top : (bound : Int) - 1 ≤ m.registers.str
  base : m.registers.gbr = 0

section Operations

variable {bound : Nat} {memory : Memory} {m : Machine} (h : m.Shields bound memory)
include h

lemma Shields.written (place : Nat) (above : bound ≤ place) (w : Word) :
    Shields bound memory { m with memory := m.memory.write place w } where
  cells other hother := by
    rw [Memory.read_write, if_neg (by omega)]
    exact h.cells other hother
  top := h.top
  base := h.base

/-- A push writes to the cell above the stack top. -/
lemma push_shields (w : Word) :
    Leaves (push w) m (Shields bound memory) := by
  have top := h.top
  refine Ensures.of_ok (push_run w (by omega)) ?_
  have written := h.written (m.registers.str + 1).toNat (by omega) w
  exact ⟨written.cells, by show _ ≤ m.registers.str + 1; omega, h.base⟩

/-- A pop writes to the cell of the stack top, if there is one. -/
lemma pop_shields (above : 0 ≤ m.registers.str → (bound : Int) ≤ m.registers.str) :
    Ensures pop m (fun _ t => t.Shields bound memory ∧ t = m.popped ∧ 0 ≤ m.registers.str)
      (fun _ t => t.Shields bound memory) := by
  refine (pop_takes h.base).mono ?_ ?_
  · rintro w t ⟨-, rfl, nonneg⟩
    have inside := above nonneg
    have written := h.written m.registers.str.toNat (by omega) Word.unset
    exact ⟨⟨written.cells, by show _ ≤ m.registers.str + -1; omega, h.base⟩, rfl, nonneg⟩
  · rintro e t ⟨-, rfl⟩
    exact h

lemma popMany_shields {count : Nat}
    (above : ∀ taken < count, 0 ≤ m.registers.str - (taken : Nat) →
      (bound : Int) ≤ m.registers.str - taken) :
    Leaves (popMany count) m (Shields bound memory) := by
  induction count generalizing m with
  | zero => exact Ensures.pure h
  | succ count ih =>
      have first := above 0 (Nat.zero_lt_succ count)
      refine Ensures.bind (pop_shields h (by simpa using first)) (fun _ _ ht => ht) ?_
      rintro w t ⟨ht, rfl, -⟩
      refine ih ht fun taken htaken nonneg => ?_
      have next := above (taken + 1) (Nat.succ_lt_succ htaken)
      have top : m.popped.registers.str = m.registers.str - 1 := rfl
      omega

lemma storeGlobal_shields (i : Int) (above : (bound : Int) ≤ i) (w : Word) :
    Leaves (storeGlobal i w) m (Shields bound memory) := by
  refine (storeGlobal_ensures h.base i w).mono ?_ ?_
  · rintro _ t ⟨-, rfl⟩
    exact h.written i.toNat (by omega) w
  · rintro e t rfl
    exact h

lemma storeLocal_shields (i : Int)
    (above : Word.Fits (m.registers.lbr + i) → (bound : Int) ≤ m.registers.lbr + i) (w : Word) :
    Leaves (storeLocal i w) m (Shields bound memory) := by
  refine (storeLocal_ensures h.base i w).mono ?_ ?_
  · rintro _ t ⟨⟨fits, -⟩, rfl⟩
    have inside := above fits
    exact h.written (m.registers.lbr + i).toNat (by omega) w
  · rintro e t rfl
    exact h

/-- Cells that move down to the local base move to cells from it on. -/
lemma moveDown_shields (frame : (bound : Int) ≤ m.registers.lbr) (distance : Int)
    (target count : Nat) :
    Leaves (moveDown distance target count) m (Shields bound memory) := by
  induction count generalizing m target with
  | zero => exact Ensures.pure h
  | succ count ih =>
      refine Ensures.bind_of_reads (checked_reads _) (fun _ => h) ?_
      intro source
      refine Ensures.bind_of_reads (loadLocal_reads source) (fun _ => h) ?_
      intro w
      have stored := (storeLocal_shields h target (by omega) w).and (storeLocal_shifts target w m)
      refine Ensures.bind stored (fun _ _ ht => ht.1) ?_
      rintro _ u ⟨hu, shifted⟩
      rw [← shifted.lbr] at frame
      exact ih hu frame (target + 1)

/-- Dropping the words of a frame moves the stack top to the end of its results, or leaves it. -/
lemma collapseFrame_shields (frame : (bound : Int) ≤ m.registers.lbr) (results : Nat) :
    Leaves (collapseFrame results) m (Shields bound memory) := by
  refine Ensures.bind (depth_ensures m) ?_ ?_
  · rintro e t ⟨-, rfl⟩
    exact h
  rintro d t ⟨rfl, rfl⟩
  refine Ensures.bind (checked_ensures _ t) ?_ ?_
  · rintro e u ⟨-, -, rfl⟩
    exact h
  rintro r u ⟨rfl, -, rfl⟩
  refine Ensures.bind (checked_ensures _ u) ?_ ?_
  · rintro e v ⟨-, -, rfl⟩
    exact h
  rintro others v ⟨hothers, -, rfl⟩
  show Ensures (if 0 < others then _ else pure ()) _ _ _
  split
  next dropped =>
    have moved :=
      (moveDown_shields h frame others 0 results).and (moveDown_shifts others 0 results v)
    refine Ensures.bind moved (fun _ _ ht => ht.1) ?_
    rintro _ w ⟨hw, shifted⟩
    refine Ensures.get_bind (Ensures.bind (checked_ensures _ w) ?_ ?_)
    · rintro e x ⟨-, -, rfl⟩
      exact hw
    rintro top x ⟨rfl, -, rfl⟩
    have str := shifted.str
    refine Ensures.update ⟨hw.cells, ?_, hw.base⟩
    show (bound : Int) - 1 ≤ x.registers.str - others
    omega
  next => exact Ensures.pure h

end Operations

/-! ## Instructions -/

section Instructions

variable {program : Program} {bound : Nat} {memory : Memory} {m : Machine}
  (h : m.Shields bound memory)
include h

/-- Look something up and push what comes of it. -/
lemma push_of_reads_shields {α : Type} {x : MachineM α} (hx : Reads x) (g : α → Word) :
    Leaves (do push (g (← x)); return Flow.next) m (Shields bound memory) := by
  refine Ensures.bind_of_reads hx (fun _ => h) ?_
  intro a
  refine Ensures.seq (push_shields h (g a)) ?_
  intro _ t ht
  exact Ensures.pure ht

/-- Take two words, and go on from there. -/
lemma two_pops_shields {f : Word → Word → MachineM Flow}
    (above : ∀ taken < 2, 0 ≤ m.registers.str - (taken : Nat) →
      (bound : Int) ≤ m.registers.str - taken)
    (hf : ∀ first second t, Shields bound memory t →
      Leaves (f first second) t (Shields bound memory)) :
    Leaves (do f (← pop) (← pop)) m (Shields bound memory) := by
  have one := above 0 (by decide)
  have two := above 1 (by decide)
  refine Ensures.bind (pop_shields h (by simpa using one)) (fun _ _ ht => ht) ?_
  rintro first t ⟨ht, rfl, -⟩
  refine Ensures.bind (pop_shields ht two) (fun _ _ hu => hu) ?_
  rintro second u ⟨hu, -, -⟩
  exact hf first second u hu

lemma enterRoutine_shields (above : 0 ≤ m.registers.str → (bound : Int) ≤ m.registers.str)
    (frame : Nat) :
    Leaves (enterRoutine frame) m (Shields bound memory) := by
  refine Ensures.bind (pop_shields h above) (fun _ _ ht => ht) ?_
  rintro w t ⟨ht, -, -⟩
  refine Ensures.bind_check (fun _ _ => ht) ?_
  intro target _
  refine Ensures.modify_bind (Ensures.bind (openFrame_ensures frame _) ?_ ?_)
  · rintro e u ⟨-, -, rfl⟩
    exact ⟨ht.cells, ht.top, ht.base⟩
  · rintro _ u ⟨-, -, rfl⟩
    exact Ensures.pure ⟨ht.cells, ht.top, ht.base⟩

lemma leaveRoutine_shields (frame : (bound : Int) ≤ m.registers.lbr) (results : Nat) :
    Leaves (leaveRoutine results) m (Shields bound memory) := by
  refine Ensures.seq (collapseFrame_shields h frame results) ?_
  intro _ t ht
  refine Ensures.bind (popReturn_ensures t) ?_ ?_
  · rintro e u ⟨-, -, rfl⟩
    exact ht
  rintro point u ⟨rest, -, rfl⟩
  refine Ensures.bind (closeFrame_ensures point.frame _) ?_ ?_
  · rintro e v ⟨-, -, rfl⟩
    exact ⟨ht.cells, ht.top, ht.base⟩
  · rintro _ v ⟨-, rfl⟩
    exact Ensures.pure ⟨ht.cells, ht.top, ht.base⟩

/-- **What an instruction does to the machine leaves the cells shielded that it spares.** -/
theorem execute_shields {ins : Instruction} (spares : ins.Spares program bound m) :
    Leaves (execute program ins) m (Shields bound memory) := by
  have stores := spares.stores
  have pops := spares.pops
  have base := h.base
  -- For instructions that take one word.
  have one : 0 < ins.pops program → 0 ≤ m.registers.str → (bound : Int) ≤ m.registers.str := by
    intro takes nonneg
    have := pops 0 takes
    simp only [Int.natCast_zero, Int.sub_zero] at this
    exact this nonneg
  cases ins with
  | nop => exact Ensures.pure h
  | halt => exact Ensures.pure h
  | literal w => exact push_of_reads_shields h (Reads.pure w) id
  | loadLocal i => exact push_of_reads_shields h (loadLocal_reads i.toInt) id
  | loadGlobal i => exact push_of_reads_shields h (loadGlobal_reads i.toInt) id
  | storeLocal i =>
      refine Ensures.bind (pop_shields h (one Nat.one_pos)) (fun _ _ ht => ht) ?_
      rintro w t ⟨ht, rfl, nonneg⟩
      have inside : Word.Fits (m.popped.registers.lbr + i.toInt) →
          (bound : Int) ≤ m.popped.registers.lbr + i.toInt := by
        intro fits
        have fits : Word.Fits (m.registers.lbr + i.toInt) := fits
        refine stores _ ?_
        rw [Instruction.target?, if_neg (by omega)]
        exact if_pos fits
      refine Ensures.seq (storeLocal_shields ht i.toInt inside w) ?_
      intro _ u hu
      exact Ensures.pure hu
  | storeGlobal i =>
      refine Ensures.bind (pop_shields h (one Nat.one_pos)) (fun _ _ ht => ht) ?_
      rintro w t ⟨ht, rfl, nonneg⟩
      have inside : (bound : Int) ≤ i.toInt := by
        refine stores _ ?_
        rw [Instruction.target?, if_neg (by omega)]
        rfl
      refine Ensures.seq (storeGlobal_shields ht i.toInt inside w) ?_
      intro _ u hu
      exact Ensures.pure hu
  | localAddress i => exact push_of_reads_shields h (localAddress_reads i.toInt) Word.wrap
  | globalAddress i => exact push_of_reads_shields h (Reads.pure i) id
  | unary op =>
      refine Ensures.bind (pop_shields h (one Nat.one_pos)) (fun _ _ ht => ht) ?_
      rintro w t ⟨ht, -, -⟩
      exact push_of_reads_shields ht (Reads.check (op.apply w)) id
  | binary op =>
      refine two_pops_shields h pops ?_
      intro right left t ht
      exact push_of_reads_shields ht (Reads.check (op.apply left right)) id
  | pop count =>
      refine Ensures.seq (popMany_shields h pops) ?_
      intro _ t ht
      exact Ensures.pure ht
  | dup => exact push_of_reads_shields h top_reads id
  | swap =>
      refine two_pops_shields h pops ?_
      intro first second t ht
      refine Ensures.seq (push_shields ht first) ?_
      intro _ u hu
      exact push_of_reads_shields hu (Reads.pure second) id
  | call frame => exact enterRoutine_shields h (one Nat.one_pos) frame
  | ret results => exact leaveRoutine_shields h (spares.returns rfl) results
  | goto label =>
      refine Ensures.bind_check (fun _ _ => h) ?_
      intro index _
      exact Ensures.pure h
  | branch yes no =>
      refine Ensures.bind_check (fun _ _ => h) ?_
      intro place hyes
      refine Ensures.bind_check (fun _ _ => h) ?_
      intro other hno
      have takes : (Instruction.branch yes no).pops program = 1 := by
        rw [Instruction.pops, hyes, hno]
      refine Ensures.bind (pop_shields h (one (by omega))) (fun _ _ ht => ht) ?_
      rintro w t ⟨ht, -, -⟩
      exact Ensures.pure ht
  | code label =>
      exact push_of_reads_shields h (Reads.check (program.label label)) fun i => Word.wrap i
  | system service => exact Ensures.pure h
  | unknown row => exact Ensures.throw h

end Instructions

end Machine

/-! ## Instructions at the console -/

section Console

variable {program : Program} {bound : Nat} {memory : Memory} {s : System}

/-- A system call touches no cell but those of the words that it pushes and pops. -/
lemma SystemCall.perform_shields (service : SystemCall) (h : s.machine.Shields bound memory)
    (spares : (Instruction.system service).Spares program bound s.machine) :
    Leaves service.perform s (fun t => t.machine.Shields bound memory) := by
  refine service.perform_ensures s ⟨h, h⟩ ⟨h.cells, h.top, h.base⟩ (Machine.push_shields h) ?_
  intro takes
  have above := spares.pops 0 (by rcases takes with rfl | rfl <;> exact Nat.one_pos)
  refine (Machine.pop_shields h (by simpa using above)).mono ?_ (fun _ _ ht => ht)
  rintro w t ⟨ht, -, -⟩
  exact ⟨ht, ht⟩

/-- **An instruction leaves the cells shielded that it spares.**  It has to spare them only if it
comes to be carried out. -/
theorem Instruction.perform_shields (program : Program) (ins : Instruction)
    (h : s.machine.Shields bound memory)
    (spares : ∀ t, showTrace ins s = .ok ⟨⟩ t → ins.Spares program bound s.machine) :
    Leaves (ins.perform program) s (fun t => t.machine.Shields bound memory) := by
  have machine := showTrace_ensures ins s
  cases shown : showTrace ins s with
  | error error t =>
      have same := (machine.error shown).2
      rw [← same] at h
      exact Ensures.of_error (bind_error shown) h
  | ok a t =>
      have same := machine.ok shown
      have spares := spares t shown
      rw [← same] at spares h
      refine Ensures.bind_of_ok shown ?_
      by_cases asks : ∃ service, ins = .system service
      · obtain ⟨service, rfl⟩ := asks
        refine Ensures.seq (service.perform_shields h spares) ?_
        intro _ u hu
        exact Ensures.pure hu
      · have serve := Instruction.serve_eq_pure fun service hs => asks ⟨service, hs⟩
        have executed := Ensures.onMachine (Machine.execute_shields h spares)
        rw [serve, pure_bind]
        exact executed.relax (fun _ hu => hu.1)

end Console

/-! ## Steps and runs -/

namespace Execution

variable {program : Program} {bound : Nat} {memory : Memory} {e : Execution}

/-- A step leaves the cells shielded that its instruction spares, also when it faults. -/
lemma step_shields (h : e.system.machine.Shields bound memory)
    (spares : ∀ ins ∈ e.reached? program, ins.Spares program bound e.system.machine) :
    (e.step program).system.machine.Shields bound memory := by
  by_cases before : e.outcome = none
  · cases fetched : e.fetch? program with
    | none =>
        rw [step_of_end before fetched, machine_fail]
        exact h
    | some ins =>
        have performed := ins.perform_shields program h fun t shown =>
          spares ins (reached?_of_shown before fetched shown)
        rcases step_ensures before fetched performed with
          ⟨error, t, ht, same, -⟩ | ⟨t, ht, same, -⟩ | ⟨flow, t, -, ht, same, -⟩
        · rw [same]
          exact ht
        · rw [same]
          exact ht
        · rw [same]
          exact ⟨ht.cells, ht.top, ht.base⟩
  · rwa [step_of_ended before]

/-- So does a part of a run, step by step. -/
lemma run_shields {first last : Nat} (h : first ≤ last)
    (shields : (run program first e).system.machine.Shields bound memory)
    (spares : ∀ i, first ≤ i → i < last → ∀ ins ∈ (run program i e).reached? program,
      ins.Spares program bound (run program i e).system.machine) :
    (run program last e).system.machine.Shields bound memory := by
  induction h with
  | refl => exact shields
  | @step last hlast ih =>
      have before := ih fun i hi hi' => spares i hi (Nat.lt_succ_of_lt hi')
      rw [run_succ]
      exact step_shields before (spares last hlast (Nat.lt_succ_self last))

end Execution

/-- **What lies below is safe.**  Take any part of a run of a new machine, and an address that the
stack reaches up to at its beginning.  No instruction that is carried out in that part takes a word
from a cell below the address, or stores below it, or returns from a frame that begins below it.
Then every cell below the address holds at the end of the part what it held at its beginning; the
last step may be one that faults.

So a routine that stays above the words of its caller, and takes and stores nothing below, leaves
them as they are, whatever it calls. -/
theorem cells_below_kept (program : Program) (trace : Bool) (console : Console)
    (bound first last : Nat) (order : first ≤ last)
    (top :
      let e := Execution.run program first (Execution.fresh program trace console)
      (bound : Int) - 1 ≤ e.system.machine.registers.str)
    (spares : ∀ i, first ≤ i → i < last →
      let e := Execution.run program i (Execution.fresh program trace console)
      ∀ ins ∈ e.reached? program, ins.Spares program bound e.system.machine) :
    let memory := fun i =>
      (Execution.run program i (Execution.fresh program trace console)).system.machine.memory
    ∀ place < bound, (memory last).read place = (memory first).read place := by
  intro memory place hplace
  have grounded := (Execution.run_sound program trace console first).grounded
  have start : Machine.Shields bound (memory first)
      (Execution.run program first (Execution.fresh program trace console)).system.machine :=
    ⟨fun _ _ => rfl, top, grounded.gbr⟩
  exact (Execution.run_shields order start spares).cells place hplace

/-- A program that leaves two words on the stack and calls a routine, which overwrites a word of its
own and calls another one. -/
def guestProgram : Program :=
  ⟨#[.literal 10, .literal 20, .literal 5, .call 2, .halt, .literal 7, .literal 8, .storeLocal 0,
    .literal 12, .call 1, .ret 1, .nop, .literal 9, .literal 4, .binary .plus, .ret 1], ∅⟩

/-- From the entry into the routine to the halt behind its return, the two words stay. -/
theorem cells_below_kept_in_guest :
    let run := fun i =>
      Execution.run guestProgram i (Execution.fresh guestProgram false (Console.ofInput []))
    4 ≤ 15 ∧ ((2 : Nat) : Int) - 1 ≤ (run 4).system.machine.registers.str ∧
    (∀ i, 4 ≤ i → i < 15 → ∀ ins ∈ (run i).reached? guestProgram,
      ins.Spares guestProgram 2 (run i).system.machine) ∧
    (∀ place < 2, (run 15).system.machine.memory.read place =
      (run 4).system.machine.memory.read place) ∧
    (run 15).outcome = some .halted ∧ (run 15).system.machine.stack = [10, 20, 13] := by
  intro run
  have top : ((2 : Nat) : Int) - 1 ≤ (run 4).system.machine.registers.str := by decide +kernel
  have spares : ∀ i, 4 ≤ i → i < 15 → ∀ ins ∈ (run i).reached? guestProgram,
      ins.Spares guestProgram 2 (run i).system.machine := by
    have each : ∀ i < 15, 4 ≤ i → ∀ ins ∈ (run i).reached? guestProgram,
        ins.Spares guestProgram 2 (run i).system.machine := by
      decide +kernel
    intro i first last
    exact each i last first
  refine ⟨by decide, top, spares, ?_, by decide +kernel, by decide +kernel⟩
  exact cells_below_kept guestProgram false (Console.ofInput []) 2 4 15 (by decide) top spares

end StackMachine

import StackMachine.Proofs.Faults.Operations

/-!
# What instructions leave above the stack

A pop clears its cell before it moves the stack top down, so words that were taken leave nothing
behind, be it on the way to a fault.  Only two things leave a word above the stack top: a store to a
cell up there, and a return, which moves the stack top past the words that it drops without clearing
their cells.

* `Machine.Drained` — words were taken from the stack and nothing else was done.
* `Machine.Tidy` — nothing was left above the stack top that was not there before.
* `Machine.Strews`, `Machine.Accounted` — how an instruction leaves a word above the stack top, and
  that there is no other way.
* `Machine.Residue` — what an instruction leaves at all when it fails: it is drained, but a call can
  leave its return point as well.
* `Machine.execute_residue`, `Instruction.perform_residue` — this holds of all instructions but the
  return, and `Machine.leaveRoutine_accounted` says the first half of it for a return.
-/

namespace StackMachine

namespace Machine

/-! ## Words that were taken -/

/-- **Words were taken from the stack**, one after the other, and nothing else was done. -/
inductive Drained : Machine → Machine → Prop where
  | refl (m : Machine) : Drained m m
  | pop {m t : Machine} (filled : 0 ≤ m.registers.str) (rest : Drained m.popped t) : Drained m t

namespace Drained

variable {m t : Machine}

lemma one (filled : 0 ≤ m.registers.str) : Drained m m.popped := pop filled (refl _)

lemma grounded (h : Drained m t) (hm : Grounded m) : Grounded t := by
  induction h with
  | refl m => exact hm
  | pop filled rest ih => exact ih (grounded_popped hm filled)

lemma registers (h : Drained m t) :
    t.registers = { m.registers with str := t.registers.str } := by
  induction h with
  | refl m => rfl
  | pop filled rest ih => exact ih

lemma returns (h : Drained m t) : t.returns = m.returns := by
  induction h with
  | refl m => rfl
  | pop filled rest ih => exact ih

lemma trace (h : Drained m t) : t.trace = m.trace := by
  induction h with
  | refl m => rfl
  | pop filled rest ih => exact ih

lemma str_le (h : Drained m t) : t.registers.str ≤ m.registers.str := by
  induction h with
  | refl m => exact Int.le_refl _
  | @pop m t filled rest ih =>
      have top : m.popped.registers.str = m.registers.str - 1 := rfl
      omega

/-- The cells that the stack top has passed are cleared, and all others are as they were. -/
lemma read (h : Drained m t) (place : Nat) :
    t.memory.read place =
      if t.registers.str < place ∧ (place : Int) ≤ m.registers.str then Word.unset
      else m.memory.read place := by
  induction h with
  | refl m => rw [if_neg (by omega)]
  | @pop m t filled rest ih =>
      have top : m.popped.registers.str = m.registers.str - 1 := rfl
      have passed := rest.str_le
      have cleared : m.popped.memory.read place =
          if m.registers.str.toNat = place then Word.unset else m.memory.read place :=
        Memory.read_write _ _ _ _
      rw [ih, cleared]
      by_cases last : m.registers.str.toNat = place
      · rw [if_neg (by omega), if_pos last, if_pos (by omega)]
      · rw [if_neg last]
        congr 1
        exact propext (by omega)

/-- The stack becomes shorter at its end. -/
lemma stack (h : Drained m t) : t.stack <+: m.stack := by
  induction h with
  | refl m => exact List.prefix_rfl
  | pop filled rest ih =>
      rw [stack_popped filled] at ih
      exact ih.trans (List.dropLast_prefix _)

end Drained

/-! ## Words that are left -/

/-- What a cell above the stack top holds was there before, if it holds a word at all. -/
def Kept (m t : Machine) (place : Nat) : Prop :=
  t.memory.read place = Word.unset ∨
    m.registers.str < place ∧ t.memory.read place = m.memory.read place

/-- **Nothing was left above the stack top** that was not there before. -/
def Tidy (m t : Machine) : Prop := ∀ place : Nat, t.registers.str < place → Kept m t place

/-- **How an instruction leaves a word above the stack top.**  It takes it from the stack and stores
it there, or it is a return that moves the stack top from above the word to the end of its results.
-/
inductive Strews (m t : Machine) (place : Nat) : (ins : Instruction) → Prop where
  | storeLocal {i : Word} (filled : 0 ≤ m.registers.str)
      (address : m.registers.lbr + i.toInt = place)
      (stored : t.memory = m.popped.memory.write place (m.word 0)) :
      Strews m t place (.storeLocal i)
  | storeGlobal {i : Word} (filled : 0 ≤ m.registers.str) (address : i.toInt = place)
      (stored : t.memory = m.popped.memory.write place (m.word 0)) :
      Strews m t place (.storeGlobal i)
  | ret {results : Nat} (dropped : m.registers.lbr + results ≤ place ∧ place ≤ m.registers.str)
      (passed : t.registers.str = m.registers.lbr - 1 + results)
      (same : t.memory.read place = m.memory.read place) : Strews m t place (.ret results)

/-- Every word above the stack top was there before, or the instruction left it. -/
def Accounted (ins : Instruction) (m t : Machine) : Prop :=
  ∀ place : Nat, t.registers.str < place → Kept m t place ∨ Strews m t place ins

section Tidy

variable {m t : Machine}

lemma Tidy.refl (m : Machine) : Tidy m m := fun _ above => Or.inr ⟨above, rfl⟩

lemma Tidy.accounted (h : Tidy m t) (ins : Instruction) : Accounted ins m t :=
  fun place above => Or.inl (h place above)

/-- Only memory and the stack top matter. -/
lemma Accounted.of_same {ins : Instruction} {u : Machine} (h : Accounted ins m t)
    (str : u.registers.str = t.registers.str) (memory : u.memory = t.memory) :
    Accounted ins m u := by
  intro place above
  rw [str] at above
  rcases h place above with kept | strewn
  · rw [Kept, memory]
    exact Or.inl kept
  refine Or.inr ?_
  cases strewn with
  | storeLocal filled address stored => exact .storeLocal filled address (memory.trans stored)
  | storeGlobal filled address stored => exact .storeGlobal filled address (memory.trans stored)
  | ret dropped passed same =>
      rw [← memory] at same
      exact .ret dropped (str.trans passed) same

lemma Drained.tidy (h : Drained m t) : Tidy m t := by
  intro place above
  have cell := h.read place
  by_cases passed : (place : Int) ≤ m.registers.str
  · exact Or.inl (cell.trans (if_pos ⟨above, passed⟩))
  · exact Or.inr ⟨Int.not_le.mp passed, cell.trans (if_neg fun h => passed h.2)⟩

/-- A push writes to the cell that becomes the stack top. -/
lemma Tidy.pushed (h : Tidy m t) (floor : -1 ≤ t.registers.str) (w : Word) :
    Tidy m (t.pushed w) := by
  intro place above
  have above : t.registers.str + 1 < place := above
  have cell : (t.pushed w).memory.read place = t.memory.read place :=
    (Memory.read_write _ _ _ _).trans (if_neg (by omega))
  rw [Kept, cell]
  exact h place (by omega)

/-- A store leaves a word in its cell, and nothing else. -/
lemma Tidy.written (h : Tidy m t) (target : Nat) (w : Word) (place : Nat)
    (above : t.registers.str < place) :
    Kept m { t with memory := t.memory.write target w } place ∨ target = place := by
  by_cases here : target = place
  · exact Or.inr here
  · refine Or.inl ?_
    rw [Kept, Memory.read_write, if_neg here]
    exact h place above

end Tidy

/-! ## Operations -/

section Operations

variable {m t : Machine}

lemma word_zero (m : Machine) : m.word 0 = m.memory.read m.registers.str.toNat := by
  rw [word, Int.natCast_zero, Int.sub_zero]

lemma popMany_drains (count : Nat) (h : Grounded m) : Leaves (popMany count) m (Drained m) := by
  induction count generalizing m with
  | zero => exact Ensures.pure (Drained.refl m)
  | succ count ih =>
      refine Ensures.bind (pop_takes h.gbr) ?_ ?_
      · rintro e t ⟨-, rfl⟩
        exact Drained.refl t
      · rintro w t ⟨-, rfl, filled⟩
        exact (ih (grounded_popped h filled)).relax (fun _ hu => Drained.pop filled hu)

/-- Look something up and push what comes of it, after words were taken. -/
lemma push_of_reads_drains {α : Type} {x : MachineM α} (hx : Reads x) (g : α → Word)
    (h : Grounded m) (drained : Drained m t) :
    Ensures (do push (g (← x)); return Flow.next) t (fun _ u => Tidy m u)
      (fun _ u => Drained m u) := by
  have floor := (drained.grounded h).str
  refine Ensures.bind_of_reads hx (fun _ => drained) ?_
  intro a
  refine Ensures.bind_of_ok (push_run (g a) floor) ?_
  exact Ensures.pure (drained.tidy.pushed floor (g a))

end Operations

/-! ## Instructions -/

/-- **What a failing instruction leaves** that is no return.  It has taken words from the stack, and
a call whose frame does not fit has left its return point besides. -/
inductive Residue (ins : Instruction) (m : Machine) (e : MachineError) (t : Machine) : Prop where
  | drained (plain : ∀ frame, ins = .call frame → e ≠ .arithmeticOverflow) (drained : Drained m t)
  | orphaned (frame : Nat) (call : ins = .call frame) (overflow : e = .arithmeticOverflow)
      (u : Machine) (drained : Drained m u)
      (after : t = { u with returns := ⟨m.registers.ip, frame⟩ :: m.returns })

lemma Residue.accounted {ins : Instruction} {m t : Machine} {e : MachineError}
    (h : Residue ins m e t) : Accounted ins m t := by
  cases h with
  | drained plain drained => exact drained.tidy.accounted ins
  | orphaned frame call overflow u drained after =>
      subst after
      exact (drained.tidy.accounted ins).of_same rfl rfl

section Instructions

variable {program : Program} {m : Machine} (h : Grounded m)
include h

/-- Take a word, and go on from there. -/
lemma pop_bind_drains {α : Type} {f : Word → MachineM α} {done : α → Machine → Prop}
    (hf : 0 ≤ m.registers.str →
      Ensures (f (m.word 0)) m.popped done (fun _ t => Drained m t)) :
    Ensures (do f (← pop)) m done (fun _ t => Drained m t) := by
  refine Ensures.bind (pop_takes h.gbr) ?_ ?_
  · rintro e t ⟨-, rfl⟩
    exact Drained.refl t
  · rintro w t ⟨rfl, rfl, filled⟩
    rw [← word_zero]
    exact hf filled

/-- Take two words, and go on from there. -/
lemma two_pops_drain {f : Word → Word → MachineM Flow}
    (hf : ∀ first second t, Drained m t →
      Ensures (f first second) t (fun _ u => Tidy m u) (fun _ u => Drained m u)) :
    Ensures (do f (← pop) (← pop)) m (fun _ t => Tidy m t) (fun _ t => Drained m t) := by
  refine pop_bind_drains h ?_
  intro filled
  refine Ensures.bind (pop_takes (grounded_popped h filled).gbr) ?_ ?_
  · rintro e t ⟨-, rfl⟩
    exact Drained.one filled
  · rintro second t ⟨-, rfl, filled'⟩
    exact hf _ _ _ (Drained.pop filled (Drained.one filled'))

lemma enterRoutine_residue (frame : Nat) :
    Ensures (enterRoutine frame) m (fun _ t => Tidy m t)
      (fun e t => Residue (.call frame) m e t) := by
  have place : ∀ (w : Word) (t : Machine), Ensures (liftM (Memory.place w.toInt) : MachineM Nat) t
      (fun _ u => u = t) (fun e u => e ≠ .arithmeticOverflow ∧ u = t) := by
    intro w t
    by_cases neg : w.toInt < 0
    · rw [Memory.place_of_neg neg]
      exact Ensures.of_error liftM_error ⟨nofun, rfl⟩
    · rw [Memory.place_of_nonneg (Int.not_lt.mp neg)]
      exact Ensures.of_ok liftM_ok rfl
  rcases Int.lt_or_le m.registers.str 0 with empty | filled
  · have gbr := h.gbr
    refine Ensures.of_error (bind_error (bind_error (top_run_of_empty (by omega)))) ?_
    exact Residue.drained nofun (Drained.refl m)
  have drained := Drained.one filled
  refine Ensures.bind_of_ok (pop_run (by have gbr := h.gbr; omega) filled) ?_
  refine Ensures.bind (place _ _) ?_ ?_
  · rintro e t ⟨other, rfl⟩
    exact Residue.drained (fun _ _ => other) drained
  rintro target t rfl
  refine Ensures.modify_bind (Ensures.bind (openFrame_ensures frame _) ?_ ?_)
  · rintro e t ⟨rfl, -, rfl⟩
    exact Residue.orphaned frame rfl rfl m.popped drained rfl
  · rintro _ t ⟨-, -, rfl⟩
    exact Ensures.pure drained.tidy

/-- The instructions that neither store nor call nor return. -/
lemma execute_drains (program : Program) {ins : Instruction} (hlocal : ∀ i, ins ≠ .storeLocal i)
    (hglobal : ∀ i, ins ≠ .storeGlobal i) (hcall : ∀ frame, ins ≠ .call frame)
    (hret : ∀ results, ins ≠ .ret results) :
    Ensures (execute program ins) m (fun _ t => Tidy m t) (fun _ t => Drained m t) := by
  have pushed : ∀ {α : Type} {x : MachineM α} (_ : Reads x) (g : α → Word),
      Ensures (do push (g (← x)); return Flow.next) m (fun _ t => Tidy m t)
        (fun _ t => Drained m t) :=
    fun hx g => push_of_reads_drains hx g h (Drained.refl m)
  cases ins with
  | nop => exact Ensures.pure (Tidy.refl m)
  | halt => exact Ensures.pure (Tidy.refl m)
  | literal w => exact pushed (Reads.pure w) id
  | loadLocal i => exact pushed (loadLocal_reads i.toInt) id
  | loadGlobal i => exact pushed (loadGlobal_reads i.toInt) id
  | storeLocal i => exact absurd rfl (hlocal i)
  | storeGlobal i => exact absurd rfl (hglobal i)
  | localAddress i => exact pushed (localAddress_reads i.toInt) Word.wrap
  | globalAddress i => exact pushed (Reads.pure i) id
  | unary op =>
      refine pop_bind_drains h ?_
      intro filled
      exact push_of_reads_drains (Reads.check (op.apply _)) id h (Drained.one filled)
  | binary op =>
      refine two_pops_drain h ?_
      intro right left t drained
      exact push_of_reads_drains (Reads.check (op.apply left right)) id h drained
  | pop count =>
      refine Ensures.bind (popMany_drains count h) (fun _ _ ht => ht) ?_
      intro _ t ht
      exact Ensures.pure ht.tidy
  | dup => exact pushed top_reads id
  | swap =>
      refine two_pops_drain h ?_
      intro first second t drained
      have grounded := drained.grounded h
      have first_pushed := push_run first grounded.str
      have tidy := drained.tidy.pushed grounded.str first
      have floor : -1 ≤ (t.pushed first).registers.str :=
        Int.le_trans grounded.str (Int.le_add_one (Int.le_refl _))
      refine Ensures.bind_of_ok first_pushed ?_
      refine Ensures.bind_of_ok (push_run second floor) ?_
      exact Ensures.pure (tidy.pushed floor second)
  | call frame => exact absurd rfl (hcall frame)
  | ret results => exact absurd rfl (hret results)
  | goto label =>
      refine Ensures.bind_check (fun _ _ => Drained.refl m) ?_
      intro index _
      exact Ensures.pure (Tidy.refl m)
  | branch yes no =>
      refine Ensures.bind_check (fun _ _ => Drained.refl m) ?_
      intro place _
      refine Ensures.bind_check (fun _ _ => Drained.refl m) ?_
      intro other _
      refine pop_bind_drains h ?_
      intro filled
      exact Ensures.pure (Drained.one filled).tidy
  | code label => exact pushed (Reads.check (program.label label)) fun i => Word.wrap i
  | system service => exact Ensures.pure (Tidy.refl m)
  | unknown row => exact Ensures.throw (Drained.refl m)

/-- A store takes its word from the stack, and leaves it at its address. -/
lemma store_accounted {store : Word → MachineM Unit} {ins : Instruction} {address : Int}
    (stores : ∀ w, Ensures (store w) m.popped
      (fun _ t => 0 ≤ address ∧
        t = { m.popped with memory := m.popped.memory.write address.toNat w })
      (fun _ t => t = m.popped))
    (strews : ∀ {t : Machine} {place : Nat}, 0 ≤ m.registers.str → address = place →
      t.memory = m.popped.memory.write place (m.word 0) → Strews m t place ins) :
    Ensures (do store (← pop); return Flow.next) m (fun _ t => Accounted ins m t)
      (fun _ t => Drained m t) := by
  refine pop_bind_drains h ?_
  intro filled
  have drained := Drained.one filled
  refine Ensures.bind (stores _) ?_ ?_
  · rintro e t rfl
    exact drained
  rintro _ t ⟨nonneg, rfl⟩
  refine Ensures.pure ?_
  intro place above
  rcases drained.tidy.written address.toNat (m.word 0) place above with kept | rfl
  · exact Or.inl kept
  · exact Or.inr (strews filled (Int.toNat_of_nonneg nonneg).symm rfl)

/-- **What an instruction leaves above the stack top** that is no return, and what it leaves at all
when it fails. -/
theorem execute_residue (ins : Instruction) (hret : ∀ results, ins ≠ .ret results) :
    Ensures (execute program ins) m (fun _ t => Accounted ins m t)
      (fun e t => Residue ins m e t) := by
  cases ins with
  | call frame =>
      exact (enterRoutine_residue h frame).mono (fun _ _ ht => ht.accounted _) (fun _ _ ht => ht)
  | ret results => exact absurd rfl (hret results)
  | storeLocal i =>
      have stores : ∀ w, Ensures (storeLocal i.toInt w) m.popped
          (fun _ t => 0 ≤ m.registers.lbr + i.toInt ∧ t = { m.popped with
            memory := m.popped.memory.write (m.registers.lbr + i.toInt).toNat w })
          (fun _ t => t = m.popped) := by
        intro w
        refine (storeLocal_ensures (m := m.popped) h.gbr i.toInt w).mono ?_ (fun _ _ ht => ht)
        rintro _ t ⟨⟨-, nonneg⟩, ht⟩
        exact ⟨nonneg, ht⟩
      refine (store_accounted h stores Strews.storeLocal).mono (fun _ _ ht => ht) ?_
      intro e t ht
      exact Residue.drained nofun ht
  | storeGlobal i =>
      have stores := storeGlobal_ensures (m := m.popped) h.gbr i.toInt
      refine (store_accounted h stores Strews.storeGlobal).mono (fun _ _ ht => ht) ?_
      intro e t ht
      exact Residue.drained nofun ht
  | _ =>
      refine (execute_drains h program (by simp) (by simp) (by simp) (by simp)).mono ?_ ?_
      · intro _ t ht
        exact ht.accounted _
      · intro e t ht
        exact Residue.drained nofun ht

end Instructions

/-! ## Returns -/

section Returns

variable {results : Nat} {m t : Machine}

/-- A return leaves the words that it drops, which were on the stack, and it moves its results to
cells that stay below the stack top. -/
lemma Collapsed.accounted (h : Collapsed results m t) : Accounted (.ret results) m t := by
  cases h with
  | kept none after =>
      subst after
      exact (Tidy.refl t).accounted _
  | moved memory more after cells =>
      subst after
      intro place above
      have above : m.registers.lbr - 1 + results < place := above
      have same : memory.read place = m.memory.read place :=
        (cells place).trans (if_neg (by omega))
      by_cases dropped : (place : Int) ≤ m.registers.str
      · exact Or.inr (Strews.ret ⟨by omega, dropped⟩ rfl same)
      · exact Or.inl (Or.inr ⟨Int.not_le.mp dropped, same⟩)

/-- **What a return leaves above the stack top.** -/
lemma leaveRoutine_accounted (h : Grounded m) (results : Nat) :
    Leaves (leaveRoutine results) m (Accounted (.ret results) m) := by
  refine Ensures.bind (collapseFrame_ensures results h) ?_ ?_
  · rintro e t ⟨⟨memory, rfl, cells⟩, -⟩ place above
    exact Or.inl (Or.inr ⟨above, cells place above⟩)
  intro _ t collapsed
  refine Ensures.bind (popReturn_ensures t) ?_ ?_
  · rintro e u ⟨-, -, rfl⟩
    exact collapsed.accounted
  rintro point u ⟨rest, -, rfl⟩
  refine Ensures.bind (closeFrame_ensures point.frame _) ?_ ?_
  · rintro e v ⟨-, -, rfl⟩
    exact collapsed.accounted.of_same rfl rfl
  · rintro _ v ⟨-, rfl⟩
    exact Ensures.pure (collapsed.accounted.of_same rfl rfl)

end Returns

end Machine

/-! ## Instructions at the console -/

section Console

open Machine

variable {program : Program} {s : System}

/-- A system call leaves nothing above the stack top, and when it fails it has taken a word at
most. -/
lemma SystemCall.perform_drains (service : SystemCall) (h : Grounded s.machine) :
    Ensures service.perform s (fun _ t => Tidy s.machine t.machine)
      (fun _ t => Drained s.machine t.machine) := by
  have idle : Tidy s.machine s.machine := Tidy.refl s.machine
  refine service.perform_ensures s ⟨idle, Drained.refl _⟩ idle ?_ ?_
  · intro w
    exact Ensures.of_ok (push_run w h.str) (idle.pushed h.str w)
  · intro _
    refine (pop_takes h.gbr).mono ?_ ?_
    · rintro w t ⟨-, rfl, filled⟩
      exact ⟨(Drained.one filled).tidy, Drained.one filled⟩
    · rintro e t ⟨-, rfl⟩
      exact Drained.refl _

/-- **What an instruction leaves at the console** that is no return. -/
theorem Instruction.perform_residue (ins : Instruction) (h : Grounded s.machine)
    (hret : ∀ results, ins ≠ .ret results) :
    Ensures (ins.perform program) s (fun _ t => Accounted ins s.machine t.machine)
      (fun e t => Residue ins s.machine e t.machine) := by
  by_cases asks : ∃ service, ins = .system service
  · obtain ⟨service, rfl⟩ := asks
    refine Ensures.bind (showTrace_ensures _ s) ?_ ?_
    · rintro e t ⟨-, ht⟩
      rw [ht]
      exact Residue.drained nofun (Drained.refl _)
    intro _ t ht
    rw [← ht] at h ⊢
    refine Ensures.bind (service.perform_drains h) ?_ ?_
    · intro e u hu
      exact Residue.drained nofun hu
    · intro _ u hu
      exact Ensures.pure (hu.accounted _)
  · have serve := Instruction.serve_eq_pure fun service hs => asks ⟨service, hs⟩
    refine Instruction.perform_ensures serve ?_ (execute_residue h ins hret)
    exact Residue.drained (fun _ _ => nofun) (Drained.refl _)

end Console

end StackMachine

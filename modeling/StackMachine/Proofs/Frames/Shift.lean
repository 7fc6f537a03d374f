import StackMachine.Proofs.Ensures

/-!
# Where the stack top goes

Of the registers, only the stack top moves while an instruction works on the stack; the return stack
stands still.  Calls and returns apart, this is all there is to an instruction, so everything that
is proved about frames comes down to the two instructions that touch them.

* `Machine.Shifted d m t` — from `m` to `t` the stack top moved by `d`, and registers and return
  stack are otherwise the same.
* `Machine.Settled m t` — the same for a whole instruction, where the stack top rose by one at most
  and did not fall below the empty stack.
* `Machine.execute_settles` — every instruction that is no call and no return settles.
-/

namespace StackMachine

namespace Machine

/-- The stack top moved by a distance.  Nothing is said about memory. -/
structure Shifted (d : Int) (m t : Machine) : Prop where
  ip : t.registers.ip = m.registers.ip
  gbr : t.registers.gbr = m.registers.gbr
  lbr : t.registers.lbr = m.registers.lbr
  str : t.registers.str = m.registers.str + d
  returns : t.returns = m.returns

lemma Shifted.refl (m : Machine) : Shifted 0 m m := ⟨rfl, rfl, rfl, by omega, rfl⟩

lemma Shifted.trans {d d' : Int} {m t u : Machine} (h : Shifted d m t) (h' : Shifted d' t u) :
    Shifted (d + d') m u where
  ip := h'.ip.trans h.ip
  gbr := h'.gbr.trans h.gbr
  lbr := h'.lbr.trans h.lbr
  str := by rw [h'.str, h.str]; omega
  returns := h'.returns.trans h.returns

/-- **What remains of an instruction that leaves frames alone.**  The stack top rose by one at most,
and it did not fall below the empty stack.  The condition on the local base is for a return that
drops words before it finds that there is nothing to return from. -/
structure Settled (m t : Machine) : Prop where
  gbr : t.registers.gbr = m.registers.gbr
  lbr : t.registers.lbr = m.registers.lbr
  returns : t.returns = m.returns
  rise : t.registers.str ≤ m.registers.str + 1
  floor : m.registers.gbr ≤ m.registers.lbr → m.registers.gbr - 1 ≤ m.registers.str →
    m.registers.gbr - 1 ≤ t.registers.str

lemma Shifted.settled {d : Int} {m t : Machine} (h : Shifted d m t) (hd : d ≤ 1)
    (hfloor : m.registers.gbr - 1 ≤ m.registers.str → m.registers.gbr - 1 ≤ m.registers.str + d) :
    Settled m t where
  gbr := h.gbr
  lbr := h.lbr
  returns := h.returns
  rise := by rw [h.str]; omega
  floor _ := by rw [h.str]; exact hfloor

lemma Settled.refl (m : Machine) : Settled m m := (Shifted.refl m).settled (by omega) (by omega)

/-! ## Memory and addresses

Reading moves nothing, and writing moves nothing either: a cell is not a register.
-/

lemma checked_ensures (x : Int) (m : Machine) :
    Ensures (checked x) m (fun y t => y = x ∧ Word.Fits x ∧ t = m)
      (fun e t => e = .arithmeticOverflow ∧ ¬ Word.Fits x ∧ t = m) := by
  simp only [checked]
  split
  next h => exact Ensures.pure ⟨rfl, h, rfl⟩
  next h => exact Ensures.throw ⟨rfl, h, rfl⟩

lemma checked_reads (x : Int) : Reads (checked x) := fun m =>
  (checked_ensures x m).mono (fun _ _ h => h.2.2) (fun _ _ h => h.2.2)

lemma load_reads (address : Int) : Reads (load address) :=
  Reads.get_bind fun m => Reads.check (m.memory.load address)

lemma localAddress_reads (i : Int) : Reads (localAddress i) :=
  Reads.get_bind fun _ => Reads.bind (checked_reads _) fun _ => checked_reads _

lemma slot_reads (address : Int) : Reads (slot address) :=
  Reads.get_bind fun _ => checked_reads _

lemma loadLocal_reads (i : Int) : Reads (loadLocal i) :=
  Reads.bind (localAddress_reads i) fun _ => Reads.bind (slot_reads _) load_reads

lemma loadGlobal_reads (i : Int) : Reads (loadGlobal i) :=
  Reads.bind (slot_reads i) load_reads

lemma store_shifts (address : Int) (w : Word) (m : Machine) :
    Ensures (store address w) m (fun _ t => Shifted 0 m t) (fun _ t => t = m) := by
  refine Ensures.get_bind (Ensures.bind (Reads.check _ m) (fun _ _ h => h) ?_)
  rintro memory t rfl
  exact Ensures.update ⟨rfl, rfl, rfl, (Int.add_zero _).symm, rfl⟩

lemma storeGlobal_shifts (i : Int) (w : Word) (m : Machine) :
    Ensures (storeGlobal i w) m (fun _ t => Shifted 0 m t) (fun _ t => t = m) := by
  refine Ensures.bind (slot_reads i m) (fun _ _ h => h) ?_
  rintro address t rfl
  exact store_shifts address w t

lemma storeLocal_shifts (i : Int) (w : Word) (m : Machine) :
    Ensures (storeLocal i w) m (fun _ t => Shifted 0 m t) (fun _ t => t = m) := by
  refine Ensures.bind (localAddress_reads i m) (fun _ _ h => h) ?_
  rintro address t rfl
  exact storeGlobal_shifts address w t

/-! ## The stack -/

/-- There is a top word only where the stack reaches up to the origin. -/
lemma top_ensures (m : Machine) :
    Ensures top m (fun _ t => t = m ∧ m.registers.gbr ≤ m.registers.str) (fun _ t => t = m) := by
  refine Ensures.get_bind ?_
  show Ensures (if m.registers.str < m.registers.gbr then _ else _) _ _ _
  split
  next h => exact Ensures.throw rfl
  next h => exact (load_reads _ m).mono (fun _ _ ht => ⟨ht, by omega⟩) (fun _ _ ht => ht)

lemma top_reads : Reads top := fun m =>
  (top_ensures m).mono (fun _ _ h => h.1) (fun _ _ h => h)

lemma moveTop_shifts (distance : Int) (m : Machine) :
    Ensures (moveTop distance) m (fun _ t => Shifted distance m t) (fun _ _ => False) :=
  Ensures.update ⟨rfl, rfl, rfl, rfl, rfl⟩

lemma push_shifts (w : Word) (m : Machine) :
    Ensures (push w) m (fun _ t => Shifted 1 m t) (fun _ t => Shifted 1 m t) := by
  refine Ensures.bind (moveTop_shifts 1 m) (fun _ _ h => h.elim) ?_
  intro _ t ht
  refine Ensures.get_bind ((store_shifts _ w t).mono ?_ ?_)
  · intro _ u hu
    exact ht.trans hu
  · rintro e u rfl
    exact ht

/-- A word is taken only from a stack that reaches up to the origin.  A stack from which none can be
taken stays as it is. -/
lemma pop_shifts (m : Machine) :
    Ensures pop m (fun _ t => Shifted (-1) m t ∧ m.registers.gbr ≤ m.registers.str)
      (fun _ t => t = m) := by
  refine Ensures.bind (top_ensures m) (fun _ _ h => h) ?_
  rintro w t ⟨rfl, hstr⟩
  refine Ensures.get_bind (Ensures.bind (store_shifts _ Word.unset t) (fun _ _ h => h) ?_)
  intro _ u hu
  refine Ensures.bind (moveTop_shifts (-1) u) (fun _ _ h => h.elim) ?_
  intro _ v hv
  exact Ensures.pure ⟨hu.trans hv, hstr⟩

/-- The inner pops of one instruction stop at the origin, however many there are. -/
lemma popMany_shifts (count : Nat) (m : Machine) :
    Ensures (popMany count) m (fun _ t => Settled m t) (fun _ t => Settled m t) := by
  -- Each pop needs a word to take, so a stack that has sunk at all has not sunk below the origin.
  suffices h : Ensures (popMany count) m
      (fun _ t => ∃ d ≤ 0, Shifted d m t ∧ (d < 0 → m.registers.gbr - 1 ≤ m.registers.str + d))
      (fun _ t => ∃ d ≤ 0, Shifted d m t ∧ (d < 0 → m.registers.gbr - 1 ≤ m.registers.str + d)) by
    refine h.mono ?_ ?_ <;>
      · rintro _ t ⟨d, hd, ht, hfloor⟩
        exact ht.settled (by omega) (by omega)
  induction count generalizing m with
  | zero => exact Ensures.pure ⟨0, by omega, Shifted.refl m, by omega⟩
  | succ count ih =>
      refine Ensures.bind (pop_shifts m) ?_ ?_
      · rintro e t rfl
        exact ⟨0, by omega, Shifted.refl t, by omega⟩
      · rintro w t ⟨ht, hstr⟩
        refine (ih t).mono ?_ ?_ <;>
          · rintro _ u ⟨d, hd, hu, hfloor⟩
            have hgbr := ht.gbr
            have htop := ht.str
            exact ⟨-1 + d, by omega, ht.trans hu, by omega⟩

/-! ## Instructions

Most instructions are built in one of three ways: they look something up and push it, they pop a
word and store it, or they pop their operands and push a result.
-/

/-- Look something up and push what comes of it, after some words were taken. -/
lemma push_of_reads {α : Type} {x : MachineM α} (hx : Reads x) (g : α → Word) {d : Int}
    {m t : Machine} (ht : Shifted d m t) (hd : d ≤ 0)
    (hfloor : d < 0 → m.registers.gbr - 1 ≤ m.registers.str + d) :
    Ensures (do push (g (← x)); return Flow.next) t (fun _ u => Settled m u)
      (fun _ u => Settled m u) := by
  have hpushed : ∀ {u}, Shifted 1 t u → Settled m u := fun hu =>
    (ht.trans hu).settled (by omega) (by omega)
  refine Ensures.bind (hx t) ?_ ?_
  · rintro e u rfl
    exact ht.settled (by omega) (by omega)
  · rintro a u rfl
    exact Ensures.bind (push_shifts (g a) u) (fun _ _ h => hpushed h)
      fun _ _ h => Ensures.pure (hpushed h)

/-- The same before any word was taken. -/
lemma push_of_reads_first {α : Type} {x : MachineM α} (hx : Reads x) (g : α → Word) (m : Machine) :
    Ensures (do push (g (← x)); return Flow.next) m (fun _ t => Settled m t)
      (fun _ t => Settled m t) :=
  push_of_reads hx g (Shifted.refl m) (by omega) (by omega)

/-- Pop a word and do something with it that moves nothing. -/
lemma store_of_pop {f : Word → MachineM Unit}
    (hf : ∀ w t, Ensures (f w) t (fun _ u => Shifted 0 t u) (fun _ u => u = t)) (m : Machine) :
    Ensures (do f (← pop); return Flow.next) m (fun _ t => Settled m t)
      (fun _ t => Settled m t) := by
  refine Ensures.bind (pop_shifts m) ?_ ?_
  · rintro e t rfl
    exact Settled.refl t
  · rintro w t ⟨ht, hstr⟩
    refine Ensures.bind (hf w t) ?_ ?_
    · rintro e u rfl
      exact ht.settled (by omega) (by omega)
    · intro _ u hu
      exact Ensures.pure ((ht.trans hu).settled (by omega) (by omega))

/-- Take two words, and go on from a stack that is by two words lower. -/
lemma two_pops {f : Word → Word → MachineM Flow} (m : Machine)
    (hf : ∀ first second t, Shifted (-2) m t → m.registers.gbr - 1 ≤ m.registers.str - 2 →
      Ensures (f first second) t (fun _ u => Settled m u) (fun _ u => Settled m u)) :
    Ensures (do f (← pop) (← pop)) m (fun _ t => Settled m t) (fun _ t => Settled m t) := by
  refine Ensures.bind (pop_shifts m) ?_ ?_
  · rintro e t rfl
    exact Settled.refl t
  rintro first t ⟨ht, hstr⟩
  refine Ensures.bind (pop_shifts t) ?_ ?_
  · rintro e u rfl
    exact ht.settled (by omega) (by omega)
  · rintro second u ⟨hu, hstr'⟩
    have hgbr := ht.gbr
    have htop := ht.str
    exact hf first second u (ht.trans hu) (by omega)

/-- **Every instruction settles that is no call and no return**, whatever the state it starts from
and whether it succeeds or fails. -/
theorem execute_settles (program : Program) (ins : Instruction) (m : Machine)
    (hcall : ∀ frame, ins ≠ .call frame) (hret : ∀ results, ins ≠ .ret results) :
    Ensures (execute program ins) m (fun _ t => Settled m t) (fun _ t => Settled m t) := by
  cases ins with
  | nop => exact Ensures.pure (Settled.refl m)
  | halt => exact Ensures.pure (Settled.refl m)
  | literal w => exact push_of_reads_first (Reads.pure w) id m
  | loadLocal i => exact push_of_reads_first (loadLocal_reads i.toInt) id m
  | loadGlobal i => exact push_of_reads_first (loadGlobal_reads i.toInt) id m
  | storeLocal i => exact store_of_pop (storeLocal_shifts i.toInt) m
  | storeGlobal i => exact store_of_pop (storeGlobal_shifts i.toInt) m
  | localAddress i => exact push_of_reads_first (localAddress_reads i.toInt) Word.wrap m
  | globalAddress i => exact push_of_reads_first (Reads.pure i) id m
  | unary op =>
      refine Ensures.bind (pop_shifts m) ?_ ?_
      · rintro e t rfl
        exact Settled.refl t
      · rintro w t ⟨ht, hstr⟩
        exact push_of_reads (Reads.check (op.apply w)) id ht (by omega) (by omega)
  | binary op =>
      refine two_pops m fun right left t ht hstr => ?_
      exact push_of_reads (Reads.check (op.apply left right)) id ht (by omega) (by omega)
  | pop count =>
      exact Ensures.bind (popMany_shifts count m) (fun _ _ h => h) fun _ _ h => Ensures.pure h
  | dup => exact push_of_reads_first top_reads id m
  | swap =>
      refine two_pops m fun first second t ht hstr => ?_
      refine Ensures.bind (push_shifts first t) ?_ ?_
      · intro _ u hu
        exact (ht.trans hu).settled (by omega) (by omega)
      · intro _ u hu
        exact push_of_reads (Reads.pure second) id (ht.trans hu) (by omega) (by omega)
  | call frame => exact absurd rfl (hcall frame)
  | ret results => exact absurd rfl (hret results)
  | goto label =>
      refine Ensures.bind (Reads.check (program.label label) m) ?_ ?_
      · rintro e t rfl
        exact Settled.refl t
      · rintro index t rfl
        exact Ensures.pure (Settled.refl t)
  | branch yes no =>
      refine Ensures.bind (Reads.check (program.label yes) m) ?_ ?_
      · rintro e t rfl
        exact Settled.refl t
      rintro yes t rfl
      refine Ensures.bind (Reads.check (program.label no) t) ?_ ?_
      · rintro e u rfl
        exact Settled.refl u
      rintro no u rfl
      refine Ensures.bind (pop_shifts u) ?_ ?_
      · rintro e v rfl
        exact Settled.refl v
      · rintro w v ⟨hv, hstr⟩
        exact Ensures.pure (hv.settled (by omega) (by omega))
  | code label =>
      exact push_of_reads_first (Reads.check (program.label label)) (fun i => Word.wrap i) m
  | system _ => exact Ensures.pure (Settled.refl m)
  | unknown row => exact Ensures.throw (Settled.refl m)

end Machine
end StackMachine

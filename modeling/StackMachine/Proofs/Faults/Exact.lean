import StackMachine.Proofs.Faults.Operations

/-!
# Instructions fault exactly as they should

The faults that `StackMachine.Proofs.Faults.Conditions` gives are all there are: in a run, every
instruction fails with its fault and with no other.  Some checks of the machine cannot fail there.
The stack lies above the origin, so no push and no pop finds an invalid address; the words of a
frame that are moved down have addresses that fit; and the frame of a return point is part of the
local base, so it can always be taken back.

* `Machine.execute_faults` — what an instruction does to the machine.
* `SystemCall.perform_faults`, `Instruction.perform_faults` — the whole of it, at a console.
* `perform_error_iff` — the instructions of a run.
-/

namespace StackMachine

variable {σ α β : Type}

/-! ## Instructions on the machine -/

namespace Machine

variable {m : Machine}

/-- Something pushed, however it was found. -/
lemma push_next_faults {x : MachineM α} {g : α → Word} {fault : Option MachineError}
    (hx : Faults x m fault (fun _ t => Grounded t)) :
    Faults (do push (g (← x)); return Flow.next) m fault (fun _ _ => True) := by
  refine Faults.bind_last hx ?_
  intro a t ht
  exact Faults.answer (push_faults ht (g a)) _

/-- Something looked up and pushed, which leaves the machine as it was until it is pushed. -/
lemma push_next_looked_up_faults {x : MachineM α} {g : α → Word} {fault : Option MachineError}
    (h : Grounded m) (hx : Faults x m fault (fun _ t => t = m)) :
    Faults (do push (g (← x)); return Flow.next) m fault (fun _ _ => True) := by
  refine push_next_faults (hx.mono ?_)
  rintro a t rfl
  exact h

/-- A value that may fail to be one, pushed. -/
lemma push_next_checked_faults {g : α → Word} (h : Grounded m) (c : Except MachineError α) :
    Faults (do push (g (← c)); return Flow.next) m (failure c) (fun _ _ => True) := by
  refine push_next_looked_up_faults h ((Faults.check c).mono ?_)
  rintro a t ⟨-, ht⟩
  exact ht

/-- Two words taken are the two top words. -/
lemma two_pops_faults {f : Word → Word → MachineM Flow} (late : Option MachineError)
    (h : Grounded m)
    (hf : ∀ t, Grounded t → Faults (f (m.word 0) (m.word 1)) t late (fun _ _ => True)) :
    Faults (do f (← pop) (← pop)) m (m.underflow? 2 <|> late) (fun _ _ => True) := by
  rw [underflow?_succ 1, orElse_assoc]
  refine Faults.bind (pop_faults h) ?_
  rintro right t ⟨rfl, rfl, hstr⟩
  refine Faults.bind (pop_faults (grounded_popped h hstr)) ?_
  rintro left t ⟨rfl, rfl, hstr'⟩
  rw [word_popped hstr']
  exact hf _ (grounded_popped (grounded_popped h hstr) hstr')

lemma enterRoutine_faults (frame : Nat) (h : Grounded m) :
    Faults (enterRoutine frame) m
      (m.underflow? 1 <|> cell? (m.word 0).toInt <|> tooLarge? (m.registers.lbr + frame))
      (fun _ _ => True) := by
  refine Faults.bind (pop_faults h) ?_
  rintro w t ⟨rfl, rfl, hstr⟩
  rw [← failure_place]
  refine Faults.bind_check _ ?_
  intro target _
  refine Faults.modify_bind ?_
  refine Faults.bind_last (openFrame_faults frame h.lbr) ?_
  intro _ u _
  exact Faults.pure trivial

lemma leaveRoutine_faults {program : Program} (results : Nat) (h : Grounded m)
    (hb : Balanced program m) (htop : m.registers.str + 1 < 0x8000000000000000) :
    Faults (leaveRoutine results) m (m.return? results) (fun _ _ => True) := by
  refine Faults.bind (collapseFrame_faults results h hb.fits htop) ?_
  rintro _ t ⟨hreturns, hlbr⟩
  rw [← hreturns]
  refine Faults.bind_last popReturn_faults ?_
  rintro point u ⟨rest, hpoint, rfl⟩
  -- The frame that is taken back is one of those that make up the local base.
  rw [hreturns] at hpoint
  have hframe := (hb.frame_le hpoint).2
  refine Faults.answer (closeFrame_faults point.frame ?_ ?_) _
  · show Word.Fits t.registers.lbr
    rw [hlbr]
    exact hb.fits
  · show (point.frame : Int) ≤ t.registers.lbr
    rw [hlbr]
    exact hframe

/-- **What an instruction does to the machine fails exactly with its fault.**  What a system call
does is done at the console. -/
theorem execute_faults {origin : Program} (program : Program) (ins : Instruction) (s : System)
    (hsystem : ∀ service, ins ≠ .system service) (h : Grounded s.machine)
    (hret : ∀ results, ins = .ret results → Balanced origin s.machine)
    (htop : s.machine.registers.str + 1 < 0x8000000000000000) :
    Faults (execute program ins) s.machine (ins.fault? program s) (fun _ _ => True) := by
  cases ins with
  | nop => exact Faults.pure trivial
  | halt => exact Faults.pure trivial
  | literal w => exact push_next_faults (g := id) (Faults.pure h)
  | loadLocal i => exact push_next_looked_up_faults (g := id) h (loadLocal_faults h i)
  | loadGlobal i => exact push_next_looked_up_faults (g := id) h (loadGlobal_faults h i)
  | storeLocal i =>
      refine Faults.bind (pop_faults h) ?_
      rintro w t ⟨rfl, rfl, hstr⟩
      exact Faults.answer (storeLocal_faults (grounded_popped h hstr) i _) _
  | storeGlobal i =>
      refine Faults.bind (pop_faults h) ?_
      rintro w t ⟨rfl, rfl, hstr⟩
      exact Faults.answer (storeGlobal_faults (grounded_popped h hstr) i _) _
  | localAddress i =>
      refine push_next_looked_up_faults h ((localAddress_faults h i).mono ?_)
      rintro address t ⟨-, -, ht⟩
      exact ht
  | globalAddress i => exact push_next_faults (g := id) (Faults.pure h)
  | unary op =>
      refine Faults.bind (pop_faults h) ?_
      rintro w t ⟨rfl, rfl, hstr⟩
      exact push_next_checked_faults (g := id) (grounded_popped h hstr) (op.apply _)
  | binary op =>
      refine two_pops_faults _ h ?_
      intro t ht
      exact push_next_checked_faults (g := id) ht (op.apply _ _)
  | pop count => exact Faults.answer (popMany_faults h count) _
  | dup =>
      refine push_next_looked_up_faults (g := id) h ((top_faults h).mono ?_)
      rintro w t ⟨-, ht, -⟩
      exact ht
  | swap =>
      have hswap := two_pops_faults (f := fun first second => do
        push first; push second; return .next) none h ?_
      · rwa [orElse_none] at hswap
      intro t ht
      refine Faults.bind_last (push_faults ht _) ?_
      intro _ u hu
      exact Faults.answer (push_faults hu _) _
  | call frame => exact enterRoutine_faults frame h
  | ret results => exact leaveRoutine_faults results h (hret results rfl) htop
  | goto label =>
      rw [Instruction.fault?, ← failure_label]
      exact Faults.answer (Faults.check (program.label label)) _
  | branch yes no =>
      rw [Instruction.fault?, ← failure_label, ← failure_label]
      refine Faults.bind_check _ ?_
      intro yes _
      refine Faults.bind_check _ ?_
      intro no _
      exact Faults.answer (pop_faults h) _
  | code label =>
      rw [Instruction.fault?, ← failure_label]
      exact push_next_checked_faults h (program.label label)
  | system service => exact absurd rfl (hsystem service)
  | unknown row => exact Faults.throw _

end Machine

/-! ## The console -/

section Console

variable {s : System}

lemma Faults.onMachine {x : MachineM α} {fault : Option MachineError} {done : α → Machine → Prop}
    (h : Faults x s.machine fault done) :
    Faults (liftM x : Action α) s fault
      (fun a t => done a t.machine ∧ t.console = s.console) := by
  cases h with
  | of_ok run holds => exact Ensures.of_ok (onMachine_ok run) ⟨holds.1, holds.2, rfl⟩
  | of_error run holds => exact Ensures.of_error (onMachine_error run) holds

lemma Faults.write (text : String) (hc : s.console.capacity = none) :
    Faults (liftM (Console.write text) : Action Unit) s none
      (fun _ t => ∃ output, t = { s with console.output := output }) :=
  Faults.of_run (onConsole_ok (Console.write_run text hc)) ⟨_, rfl⟩

/-- A read faults when nothing can be delivered, when there is no line of text, or when the line
does not hold a word. -/
lemma read_faults (word : String → Except MachineError Word) (h : Machine.Grounded s.machine) :
    Faults (do Machine.push (← word (← Console.readLine)) : Action Unit) s
      (s.console.read? word) (fun _ _ => True) := by
  by_cases failing : s.console.flushes.size ∈ s.console.failingFlushes
  · have run : Console.readLine s.console = .error .outputClosed s.console.flushed :=
      bind_error (Console.flush_run_of_failing failing)
    rw [Console.read?, failsIf, if_pos failing]
    exact Ensures.of_error (bind_error (onConsole_error run)) rfl
  · have run := Console.readLine_run failing
    rw [Console.read?, failsIf, if_neg failing]
    cases hline : Console.line s.console.input with
    | error e =>
        rw [hline] at run
        exact Ensures.of_error (bind_error (onConsole_error run)) rfl
    | ok text =>
        rw [hline, liftM_ok] at run
        have hread : Faults (liftM Console.readLine : Action String) s none
            (fun line t => line = text ∧ t.machine = s.machine) :=
          Faults.of_run (onConsole_ok run) ⟨rfl, rfl⟩
        refine Faults.bind hread ?_
        rintro _ t ⟨rfl, ht⟩
        rw [← ht] at h
        refine Faults.bind_last (Faults.check (word _)) ?_
        rintro w u ⟨-, rfl⟩
        exact (Faults.onMachine (Machine.push_faults h w)).forget

lemma characterOfCode_failure (w : Word) :
    failure (characterOfCode w) = failsIf (¬ IsScalar w.toInt) (.invalidCharacter w) := by
  have hscalar : IsScalar w.toInt ↔ 0 ≤ w.toInt ∧ w.toInt.toNat.isValidChar := by
    simp only [IsScalar, Nat.isValidChar]
    omega
  refine failure_eq_failsIf ?_ ?_
  · intro h
    rw [characterOfCode, dif_neg fun hw => h (hscalar.mpr hw)]
  · intro h
    exact ⟨_, by rw [characterOfCode, dif_pos (hscalar.mp (Decidable.of_not_not h))]⟩

lemma SystemCall.perform_faults (service : SystemCall) (h : Machine.Grounded s.machine)
    (hc : s.console.capacity = none) :
    Faults service.perform s (service.fault? s) (fun _ _ => True) := by
  have hpop := Faults.onMachine (Machine.pop_faults h)
  cases service with
  | toggleTrace => exact Faults.of_run rfl trivial
  | dumpMemory => exact Faults.get_bind (Faults.write _ hc).forget
  | readNumber => exact read_faults numberOfLine h
  | readCharacter => exact read_faults codeOfLine h
  | writeNumber =>
      refine Faults.bind_last hpop ?_
      rintro w t ⟨-, ht⟩
      rw [← ht] at hc
      exact (Faults.write _ hc).forget
  | writeCharacter =>
      refine Faults.bind hpop ?_
      rintro w t ⟨⟨rfl, -⟩, ht⟩
      rw [← ht] at hc
      rw [← characterOfCode_failure]
      refine Faults.bind_last (Faults.check _) ?_
      rintro c u ⟨-, rfl⟩
      exact (Faults.write _ hc).forget
  | newLine => exact (Faults.write _ hc).forget
  | endOfInput => exact (Faults.onMachine (Machine.push_faults h 0)).forget

/-- Being shown is no reason to fault. -/
lemma showTrace_faults (ins : Instruction) (hc : s.console.capacity = none) :
    Faults (showTrace ins) s none
      (fun _ t => ∃ output, t = { s with console.output := output }) := by
  refine Faults.get_bind ?_
  show Faults (if s.machine.trace = true then _ else pure ()) s _ _
  split
  next => exact Faults.write _ hc
  next => exact Faults.pure ⟨s.console.output, rfl⟩

end Console

/-- **The whole of an instruction fails exactly with its fault**, whatever is written before. -/
theorem Instruction.perform_faults {origin : Program} (program : Program) (ins : Instruction)
    (s : System) (h : Machine.Grounded s.machine)
    (hret : ∀ results, ins = .ret results → Machine.Balanced origin s.machine)
    (htop : s.machine.registers.str + 1 < 0x8000000000000000) (hc : s.console.capacity = none) :
    Faults (ins.perform program) s (ins.fault? program s) (fun _ _ => True) := by
  refine Faults.bind (showTrace_faults ins hc) ?_
  rintro _ t ⟨output, rfl⟩
  -- No fault depends on what has been written.
  let t : System := { s with console.output := output }
  show Faults (ins.serve >>= fun _ => liftM (Machine.execute program ins)) t
    (ins.fault? program t) _
  by_cases hsystem : ∃ service, ins = .system service
  · obtain ⟨service, rfl⟩ := hsystem
    exact Faults.answer (service.perform_faults (s := t) h hc) _
  · have plain : ∀ service, ins ≠ .system service := fun service hs => hsystem ⟨service, hs⟩
    rw [Instruction.serve_eq_pure plain, pure_bind]
    have hexecute := Machine.execute_faults program ins t plain h hret htop
    exact (Faults.onMachine hexecute).forget

/-- **Exact fault conditions.**  In every state of a run of a new machine, every instruction of
every program fails exactly with its fault, as long as there is room for another word and the output
is taken.  The state may even be one in which the run has faulted, but not for a return: it could
take a return point whose frame was not opened. -/
theorem perform_error_iff (program labels : Program) (trace : Bool) (console console' : Console)
    (count : Nat) (ins : Instruction) (error : MachineError)
    (intact : ∀ results, ins = .ret results → ∀ fault,
      (Execution.run program count (Execution.fresh program trace console)).outcome ≠
        some (.faulted fault))
    (room : (Execution.run program count
      (Execution.fresh program trace console)).system.machine.registers.str < 0x7fffffffffffffff)
    (accepted : console'.capacity = none) :
    let e := Execution.run program count (Execution.fresh program trace console)
    let s : System := ⟨e.system.machine, console'⟩
    (∃ t, ins.perform labels s = .error error t) ↔ ins.fault? labels s = some error := by
  intro e s
  have sound := Execution.run_sound program trace console count
  have hret : ∀ results, ins = .ret results → Machine.Balanced program s.machine :=
    fun results hins => sound.balanced (intact results hins)
  have htop : s.machine.registers.str + 1 < 0x8000000000000000 := Int.add_lt_add_right room 1
  exact (ins.perform_faults labels s sound.grounded hret htop accepted).iff error

/-- A program that calls a routine, which it does not have. -/
def lostCall : Program := ⟨#[.literal 2, .call 0], ∅⟩

/-- In the called routine, a return of more words than a word can count overflows. -/
theorem perform_error_iff_oversized_return :
    let e := Execution.run lostCall 2 (Execution.fresh lostCall false (Console.ofInput []))
    ∃ t, (Instruction.ret 0x8000000000000000).perform lostCall
      ⟨e.system.machine, Console.ofInput []⟩ = .error .arithmeticOverflow t := by
  intro e
  have running : e.outcome = none := by decide
  refine (perform_error_iff lostCall lostCall false (Console.ofInput []) (Console.ofInput []) 2
    (.ret 0x8000000000000000) .arithmeticOverflow ?_ (by decide) rfl).mpr (by decide)
  intro _ _ fault hfault
  exact nomatch running.symm.trans hfault

end StackMachine

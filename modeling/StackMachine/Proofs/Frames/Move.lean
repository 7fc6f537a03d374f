import StackMachine.Proofs.Frames.Call
import StackMachine.Proofs.Run

/-!
# What one step does to frames

Every step opens a frame, closes one, fails half-way in doing so, or settles: then it leaves frames
alone and moves the stack top by one word up at most.  All that is proved about frames rests on this
one list of cases.

* `Instruction.perform_ensures`, `SystemCall.perform_ensures` — the console has no part in this.
* `Execution.Move`, `Execution.step_moves` — the cases, and that there is no other.
* `Execution.run_str_lt` — how high the stack can be after a number of steps.
-/

namespace StackMachine

/-! ## Whole instructions

The console has no part in this: showing an instruction leaves the machine alone, and the system
calls use the stack as the other instructions do.
-/

lemma showTrace_ensures (ins : Instruction) (s : System) :
    Ensures (showTrace ins) s (fun _ t => t.machine = s.machine)
      (fun e t => e = .outputClosed ∧ t.machine = s.machine) := by
  refine Ensures.get_bind ?_
  show Ensures (if s.machine.trace = true then _ else pure ()) _ _ _
  split
  next =>
    refine Ensures.onConsole.mono (fun _ _ h => h.1) ?_
    rintro e t ⟨same, run⟩
    exact ⟨(Console.write_closes _ _).error run, same⟩
  next => exact Ensures.pure rfl

lemma showTrace_of_quiet {s : System} (quiet : s.machine.trace = false) (ins : Instruction) :
    showTrace ins s = .ok ⟨⟩ s := by
  show (if s.machine.trace = true then liftM (Console.write (s.machine.traceLine ins))
    else pure () : Action Unit) s = _
  rw [if_neg (by simp [quiet])]
  rfl

lemma Instruction.serve_eq_pure {ins : Instruction} (h : ∀ service, ins ≠ .system service) :
    ins.serve = pure () := by
  cases ins with
  | system service => exact absurd rfl (h service)
  | _ => rfl

/-- Instructions that are no system calls do nothing at the console but to be shown, which fails if
the output is closed. -/
lemma Instruction.perform_ensures {program : Program} {ins : Instruction} {s : System}
    {done : Flow → Machine → Prop} {failed : MachineError → Machine → Prop}
    (hserve : ins.serve = pure ()) (hshow : failed .outputClosed s.machine)
    (h : Ensures (Machine.execute program ins) s.machine done failed) :
    Ensures (ins.perform program) s (fun flow t => done flow t.machine)
      (fun e t => failed e t.machine) := by
  refine Ensures.bind (showTrace_ensures ins s) ?_ ?_
  · rintro e t ⟨rfl, ht⟩
    rw [ht]
    exact hshow
  intro _ t ht
  rw [hserve, pure_bind]
  rw [← ht] at h
  exact (Ensures.onMachine h).mono (fun _ _ h => h.1) (fun _ _ h => h.1)

lemma write_ensures (text : String) (s : System) :
    Ensures (liftM (Console.write text) : Action Unit) s (fun _ t => t.machine = s.machine)
      (fun _ t => t.machine = s.machine) :=
  Ensures.onConsole.mono (fun _ _ h => h.1) (fun _ _ h => h.1)

/-- **A system call does to the machine what its push or pop does**, whatever is read or written: a
word that comes from the console is pushed like any other, and one that goes there is popped like
any other, in whatever form it is written. -/
theorem SystemCall.perform_ensures {done failed : Machine → Prop} (service : SystemCall)
    (s : System) (idle : done s.machine ∧ failed s.machine)
    (toggled : done { s.machine with trace := !s.machine.trace })
    (push : ∀ w, Ensures (Machine.push w) s.machine (fun _ => done) (fun _ => failed))
    (pop : service = .writeNumber ∨ service = .writeCharacter →
      Ensures Machine.pop s.machine (fun _ t => done t ∧ failed t) (fun _ => failed)) :
    Ensures service.perform s (fun _ t => done t.machine) (fun _ t => failed t.machine) := by
  have write : ∀ (text : String) (t : System), done t.machine ∧ failed t.machine →
      Ensures (liftM (Console.write text) : Action Unit) t (fun _ u => done u.machine)
        (fun _ u => failed u.machine) := by
    intro text t ht
    refine (write_ensures text t).mono ?_ ?_
    · intro _ u hu
      rw [hu]
      exact ht.1
    · intro _ u hu
      rw [hu]
      exact ht.2
  have push : ∀ (w : Word) (t : System), t.machine = s.machine →
      Ensures (liftM (Machine.push w) : Action Unit) t (fun _ u => done u.machine)
        (fun _ u => failed u.machine) := by
    intro w t ht
    have pushes := push w
    rw [← ht] at pushes
    exact (Ensures.onMachine pushes).mono (fun _ _ hu => hu.1) (fun _ _ hu => hu.1)
  have read : ∀ word : String → Except MachineError Word,
      Ensures (do Machine.push (← word (← Console.readLine)) : Action Unit) s
        (fun _ t => done t.machine) (fun _ t => failed t.machine) := by
    intro word
    refine Ensures.bind Ensures.onConsole ?_ ?_
    · rintro e t ⟨ht, -⟩
      rw [ht]
      exact idle.2
    rintro line t ⟨ht, -⟩
    refine Ensures.bind_check ?_ ?_
    · intro e _
      rw [ht]
      exact idle.2
    · intro w _
      exact push w t ht
  have pop : service = .writeNumber ∨ service = .writeCharacter →
      Ensures (liftM Machine.pop : Action Word) s (fun _ t => done t.machine ∧ failed t.machine)
        (fun _ t => failed t.machine) := by
    intro takes
    exact (Ensures.onMachine (pop takes)).mono (fun _ _ ht => ht.1) (fun _ _ ht => ht.1)
  cases service with
  | toggleTrace => exact Ensures.update toggled
  | dumpMemory => exact Ensures.get_bind (write _ s idle)
  | readNumber => exact read numberOfLine
  | readCharacter => exact read codeOfLine
  | writeNumber =>
      refine Ensures.bind (pop (Or.inl rfl)) (fun _ _ ht => ht) ?_
      intro w t ht
      exact write w.text t ht
  | writeCharacter =>
      refine Ensures.bind (pop (Or.inr rfl)) (fun _ _ ht => ht) ?_
      intro code t ht
      refine Ensures.bind_check (fun _ _ => ht.2) ?_
      intro c _
      exact write c.toString t ht
  | newLine => exact write "\n" s idle
  | endOfInput => exact push 0 s rfl

lemma SystemCall.perform_settles (service : SystemCall) (s : System) :
    Ensures service.perform s (fun _ t => Machine.Settled s.machine t.machine)
      (fun _ t => Machine.Settled s.machine t.machine) := by
  have idle := Machine.Settled.refl s.machine
  refine service.perform_ensures s ⟨idle, idle⟩ ⟨rfl, rfl, rfl, idle.rise, fun _ h => h⟩ ?_ ?_
  · intro w
    refine (Machine.push_shifts w s.machine).mono ?_ ?_ <;>
      · intro _ t ht
        exact ht.settled (by omega) (by omega)
  · intro _
    refine (Machine.pop_shifts s.machine).mono ?_ ?_
    · rintro w t ⟨ht, filled⟩
      have settled := ht.settled (by omega) (by omega)
      exact ⟨settled, settled⟩
    · rintro e t rfl
      exact idle

/-- **Every instruction settles at the console that is no call and no return.** -/
theorem Instruction.perform_settles {program : Program} (ins : Instruction) (s : System)
    (hcall : ∀ frame, ins ≠ .call frame) (hret : ∀ results, ins ≠ .ret results) :
    Ensures (ins.perform program) s (fun _ t => Machine.Settled s.machine t.machine)
      (fun _ t => Machine.Settled s.machine t.machine) := by
  by_cases hsystem : ∃ service, ins = .system service
  · obtain ⟨service, rfl⟩ := hsystem
    refine Ensures.bind (showTrace_ensures _ s) ?_ ?_
    · rintro e t ⟨-, ht⟩
      rw [ht]
      exact Machine.Settled.refl _
    intro _ t ht
    rw [← ht]
    refine Ensures.bind (service.perform_settles t) (fun _ _ h => h) ?_
    intro _ u hu
    exact Ensures.pure hu
  · have hserve := Instruction.serve_eq_pure fun service hs => hsystem ⟨service, hs⟩
    exact Instruction.perform_ensures hserve (Machine.Settled.refl _)
      (Machine.execute_settles program ins s.machine hcall hret)

/-! ## The cases of a step -/

/-- **What one step does to frames.**  A step after the end of a run does nothing.  A step that
opens or closes a frame succeeds, and one that stops half-way in doing so faults with an overflow.
-/
inductive Execution.Move (program : Program) (e e' : Execution) : Prop where
  | ended (before : e.outcome ≠ none) (same : e' = e)
  | settled (before : e.outcome = none)
      (plain : e'.outcome = none → ∀ frame, e.fetch? program ≠ some (.call frame))
      (settled : Machine.Settled e.system.machine e'.system.machine)
  | opened (frame : Nat) (before : e.outcome = none)
      (fetched : e.fetch? program = some (.call frame))
      (after : e'.outcome = none) (opened : Machine.Opened frame e.system.machine e'.system.machine)
  | orphaned (frame : Nat) (before : e.outcome = none)
      (fetched : e.fetch? program = some (.call frame))
      (after : e'.outcome = some (.faulted
        ⟨e.system.machine.registers.ip, (Instruction.call frame).text, .arithmeticOverflow⟩))
      (orphaned : Machine.Orphaned frame e.system.machine e'.system.machine)
  | closed (results : Nat) (point : ReturnPoint) (before : e.outcome = none)
      (fetched : e.fetch? program = some (.ret results)) (after : e'.outcome = none)
      (resumed : e'.system.machine.registers.ip = point.callSite + 1)
      (closed : Machine.Closed results point e.system.machine e'.system.machine)
  | unclosed (results : Nat) (point : ReturnPoint) (before : e.outcome = none)
      (fetched : e.fetch? program = some (.ret results))
      (after : e'.outcome = some (.faulted
        ⟨e.system.machine.registers.ip, (Instruction.ret results).text, .arithmeticOverflow⟩))
      (unclosed : Machine.Unclosed results point e.system.machine e'.system.machine)

namespace Execution

open Machine

variable {program : Program} {e : Execution}

/-- Where a run goes on is no matter of frames. -/
lemma Settled.goTo {m t : Machine} (h : Settled m t) (index : Nat) :
    Settled m { t with registers.ip := index } :=
  ⟨h.gbr, h.lbr, h.returns, h.rise, h.floor⟩

lemma step_settles {ins : Instruction} (before : e.outcome = none)
    (fetched : e.fetch? program = some ins) (hcall : ∀ frame, ins ≠ .call frame)
    (h : Ensures (ins.perform program) e.system (fun _ t => Settled e.system.machine t.machine)
      (fun _ t => Settled e.system.machine t.machine)) : Move program e (e.step program) := by
  have plain : ∀ frame, e.fetch? program ≠ some (.call frame) := by
    intro frame hf
    rw [fetched] at hf
    exact hcall frame (Option.some.inj hf)
  refine .settled before (fun _ => plain) ?_
  rcases step_ensures before fetched h with
    ⟨_, t, ht, hm, -⟩ | ⟨t, ht, hm, -⟩ | ⟨_, t, -, ht, hm, -⟩
  · rw [hm]
    exact ht
  · rw [hm]
    exact ht
  · rw [hm]
    exact Settled.goTo ht _

lemma step_call {frame : Nat} (before : e.outcome = none)
    (fetched : e.fetch? program = some (.call frame)) : Move program e (e.step program) := by
  have h : Ensures ((Instruction.call frame).perform program) e.system _ _ :=
    Instruction.perform_ensures rfl (Or.inl (Settled.refl _)) (enterRoutine_ensures frame _)
  rcases step_ensures before fetched h with
    ⟨_, t, ht, hm, ho⟩ | ⟨t, ht, hm, ho⟩ | ⟨_, t, _, ht, hm, ho⟩
  · rw [← hm] at ht
    rcases ht with ht | ⟨rfl, ht⟩
    · refine .settled before ?_ ht
      intro hnone
      rw [ho] at hnone
      exact nomatch hnone
    · exact .orphaned frame before fetched ho ht
  · obtain ⟨⟨_, hflow⟩, -⟩ := ht
    exact nomatch hflow
  · obtain ⟨-, ht⟩ := ht
    refine .opened frame before fetched ho ?_
    rw [hm]
    exact ⟨⟨ht.gbr, ht.str, ht.taken, ht.returns⟩, ht.lbr, ht.fits_frame, ht.fits⟩

lemma step_ret {results : Nat} (before : e.outcome = none)
    (fetched : e.fetch? program = some (.ret results)) : Move program e (e.step program) := by
  have h : Ensures ((Instruction.ret results).perform program) e.system _ _ :=
    Instruction.perform_ensures rfl (Or.inl (Settled.refl _)) (leaveRoutine_ensures results _)
  have plain : ∀ frame, e.fetch? program ≠ some (.call frame) := by
    intro frame hf
    rw [fetched] at hf
    exact nomatch hf
  rcases step_ensures before fetched h with
    ⟨_, t, ht, hm, ho⟩ | ⟨t, ht, hm, ho⟩ | ⟨_, t, _, ht, hm, ho⟩
  · rw [← hm] at ht
    rcases ht with ht | ⟨point, rfl, ht⟩
    · exact .settled before (fun _ => plain) ht
    · exact .unclosed results point before fetched ho ht
  · obtain ⟨_, hflow, -⟩ := ht
    exact nomatch hflow
  · obtain ⟨point, rfl, ht⟩ := ht
    refine .closed results point before fetched ho ?_ ?_
    · rw [hm]
      rfl
    · rw [hm]
      exact ⟨⟨ht.gbr, ht.str, ht.returns⟩, ht.lbr, ht.fits_frame⟩

/-- **Every step does one of these.** -/
theorem step_moves (program : Program) (e : Execution) : Move program e (e.step program) := by
  by_cases ended : e.outcome ≠ none
  · exact .ended ended (step_of_ended ended)
  have before : e.outcome = none := Decidable.of_not_not ended
  cases fetched : e.fetch? program with
  | none =>
      refine .settled before (fun _ frame => by rw [fetched]; exact nofun) ?_
      rw [step_of_end before fetched, machine_fail]
      exact Settled.refl _
  | some ins =>
      by_cases hcall : ∃ frame, ins = .call frame
      · obtain ⟨frame, rfl⟩ := hcall
        exact step_call before fetched
      by_cases hret : ∃ results, ins = .ret results
      · obtain ⟨results, rfl⟩ := hret
        exact step_ret before fetched
      have hcall' : ∀ frame, ins ≠ .call frame := fun frame h => hcall ⟨frame, h⟩
      have hret' : ∀ results, ins ≠ .ret results := fun results h => hret ⟨results, h⟩
      exact step_settles before fetched hcall' (ins.perform_settles e.system hcall' hret')

/-- **The stack rises by one word a step** at most. -/
lemma Move.str_le {e' : Execution} (h : Move program e e') :
    e'.system.machine.registers.str ≤ e.system.machine.registers.str + 1 := by
  cases h with
  | ended before same =>
      rw [same]
      omega
  | settled before plain settled => exact settled.rise
  | opened frame before fetched after opened =>
      have hstr := opened.str
      omega
  | orphaned frame before fetched after orphaned =>
      have hstr := orphaned.str
      omega
  | closed results point before fetched after resumed closed =>
      have hstr := closed.str
      have hdrop := topAfter_le results e.system.machine
      omega
  | unclosed results point before fetched after unclosed =>
      have hstr := unclosed.str
      have hdrop := topAfter_le results e.system.machine
      omega

lemma run_str_lt (program : Program) (trace : Bool) (console : Console) (count : Nat) :
    (run program count (fresh program trace console)).system.machine.registers.str < count := by
  induction count with
  | zero => exact show (-1 : Int) < 0 by decide
  | succ count ih =>
      have hstep := (step_moves program (run program count (fresh program trace console))).str_le
      rw [run_succ]
      omega

end Execution

end StackMachine

import StackMachine.Proofs.Frames.Move
import StackMachine.Proofs.Strict.Basic

/-!
# Room for an instruction

As long as there is room for a word above the stack top, no instruction stops the strict machine,
and it does what the machine does.  What an instruction pushes it has popped before, but for one
word.

* `Machine.Room` — so many words fit above the stack top, and every return point can be gone behind.
* `Flow.Near`, `Program.Small` — places that fit words.
* `Strict.push_agrees`, `Strict.pop_agrees` — the stack, and `Strict.push_overruns` without room.
* `Strict.execute_agrees`, `Strict.perform_agrees` — one instruction.
-/

namespace StackMachine

/-! ## Room -/

namespace Machine

/-- **There is room for so many words above the stack top**, and the running instruction and all
calls on the return stack can be gone behind. -/
structure Room (count : Nat) (m : Machine) : Prop where
  gbr : m.registers.gbr = 0
  low : -0x8000000000000000 ≤ m.registers.str
  high : m.registers.str + count < 0x8000000000000000
  ip : m.registers.ip + 1 < 0x8000000000000000
  sites : ∀ point ∈ m.returns, point.callSite + 1 < 0x8000000000000000

namespace Room

variable {count : Nat} {m t : Machine}

lemma mono {rest : Nat} (h : Room count m) (hrest : rest ≤ count) : Room rest m :=
  ⟨h.gbr, h.low, by have hhigh := h.high; omega, h.ip, h.sites⟩

lemma zero (h : Room count m) : Room 0 m := h.mono (Nat.zero_le count)

/-- The local base takes no room. -/
lemma rebased (h : Room count m) (base : Int) : Room count { m with registers.lbr := base } :=
  ⟨h.gbr, h.low, h.high, h.ip, h.sites⟩

/-- Moving the stack top takes room or makes room. -/
lemma shifted {d : Int} {rest : Nat} (h : Room count m) (ht : Shifted d m t)
    (low : -0x8000000000000000 ≤ m.registers.str + d) (hrest : d + rest ≤ count) :
    Room rest t where
  gbr := ht.gbr.trans h.gbr
  low := by
    rw [ht.str]
    exact low
  high := by
    have hhigh := h.high
    rw [ht.str]
    omega
  ip := by
    rw [ht.ip]
    exact h.ip
  sites := by
    rw [ht.returns]
    exact h.sites

/-- What leaves the stack top where it was leaves the room. -/
lemma settled (h : Room count m) (ht : Shifted 0 m t) : Room count t := by
  refine h.shifted ht ?_ (by omega)
  rw [Int.add_zero]
  exact h.low

end Room

end Machine

/-- **A flow that stays near** leads to a place that fits a word, if one can go behind the place
that it starts from. -/
def Flow.Near (flow : Flow) : Prop :=
  ∀ index, index + 1 < 0x8000000000000000 → flow.target index < 0x8000000000000000

/-- **A program whose places fit words.** -/
structure Program.Small (program : Program) : Prop where
  size : program.instructions.size < 0x8000000000000000
  labels : ∀ name index, program.label name = .ok index → index < 0x8000000000000000

namespace Strict

open Machine (Room Shifted)

variable {count : Nat} {m : Machine}

lemma moveTop_agrees {d : Int} (h : Word.Fits (m.registers.str + d)) :
    Agrees (moveTop d) (Machine.moveTop d) m (fun _ t => Shifted d m t) (fun _ _ => False) where
  run := by
    show (liftM (word (m.registers.str + d)) >>= fun str : Word =>
      modify fun m => { m with registers.str := str.toInt } : StrictM Machine Unit) m = _
    rw [word_of_fits h]
    rfl
  ensures := Machine.moveTop_shifts d m

lemma push_agrees (w : Word) (h : Room (count + 1) m) :
    Agrees (push w) (Machine.push w) m (fun _ t => Room count t) (fun _ t => Room count t) := by
  have hlow := h.low
  have hhigh := h.high
  have hfits : Word.Fits (m.registers.str + 1) := by
    simp only [Word.Fits]
    omega
  refine Agrees.bind (moveTop_agrees hfits) (fun _ _ h => h.elim) ?_
  intro _ t ht
  have hroom : Room count t := h.shifted ht (by omega) (by omega)
  refine Agrees.get_bind (Agrees.mono (Agrees.lift (Machine.store_shifts _ w t)) ?_ ?_)
  · intro _ u hu
    exact hroom.settled hu
  · rintro _ u rfl
    exact hroom

/-- Without room the strict machine stops before it has done anything. -/
lemma push_overruns (w : Word) (h : ¬ Word.Fits (m.registers.str + 1)) :
    push w m = .error .overran m := by
  refine bind_error ?_
  show (liftM (word (m.registers.str + 1)) >>= fun str : Word =>
    modify fun m => { m with registers.str := str.toInt } : StrictM Machine Unit) m = _
  rw [word, dif_neg h]
  rfl

lemma pop_agrees (h : Room count m) :
    Agrees pop Machine.pop m (fun _ t => Room (count + 1) t) (fun _ t => Room count t) := by
  refine Agrees.bind (Agrees.lift (Machine.top_ensures m)) ?_ ?_
  · rintro e t rfl
    exact h
  rintro w t ⟨rfl, hstr⟩
  rw [h.gbr] at hstr
  have hhigh := h.high
  refine Agrees.get_bind (Agrees.bind (Agrees.lift (Machine.store_shifts _ Word.unset t)) ?_ ?_)
  · rintro e u rfl
    exact h
  intro _ u hu
  have htop := hu.str
  have hfits : Word.Fits (u.registers.str + -1) := by
    simp only [Word.Fits]
    omega
  refine Agrees.bind (moveTop_agrees hfits) (fun _ _ h => h.elim) ?_
  intro _ v hv
  exact Agrees.pure (h.shifted (hu.trans hv) (by omega) (by omega))

lemma popMany_agrees (words : Nat) (h : Room count m) :
    Agrees (popMany words) (Machine.popMany words) m (fun _ t => Room count t)
      (fun _ t => Room count t) := by
  induction words generalizing m with
  | zero => exact Agrees.pure h
  | succ words ih =>
      refine Agrees.bind (pop_agrees h) (fun _ _ ht => ht) ?_
      intro _ t ht
      exact ih (ht.mono (Nat.le_add_right count 1))

/-! ## Instructions

An instruction leaves no room on the whole, and goes on nearby.  When it fails, there is at least as
much room as that.
-/

lemma near_next : Flow.Near .next := fun _ h => h

/-- An operation that keeps some room, and then the rest of the instruction. -/
lemma then_agrees {α : Type} {y : StrictM Machine α} {x : MachineM α} {g : α → StrictM Machine Flow}
    {f : α → MachineM Flow} {rest : Nat}
    (hx : Agrees y x m (fun _ t => Room rest t) (fun _ t => Room count t))
    (hf : ∀ a t, Room rest t → Agrees (g a) (f a) t (fun flow u => Room 0 u ∧ flow.Near)
      (fun _ u => Room 0 u)) :
    Agrees (y >>= g) (x >>= f) m (fun flow t => Room 0 t ∧ flow.Near) (fun _ t => Room 0 t) :=
  Agrees.bind hx (fun _ _ ht => ht.zero) hf

lemma push_next (w : Word) (h : Room (count + 1) m) :
    Agrees (do push w; return .next : StrictM Machine Flow)
      (do Machine.push w; return .next : MachineM Flow) m
      (fun flow t => Room 0 t ∧ flow.Near) (fun _ t => Room 0 t) := by
  refine then_agrees (push_agrees w h) ?_
  intro _ t ht
  exact Agrees.pure ⟨ht.zero, near_next⟩

/-- Look something up and push it. -/
lemma push_of_reads {x : MachineM Word} (hx : Reads x) (h : Room (count + 1) m) :
    Agrees (do push (← x); return .next : StrictM Machine Flow)
      (do Machine.push (← x); return .next : MachineM Flow) m
      (fun flow t => Room 0 t ∧ flow.Near) (fun _ t => Room 0 t) := by
  refine Agrees.bind (Agrees.lift (hx m)) ?_ ?_
  · rintro e t rfl
    exact h.zero
  · rintro w t rfl
    exact push_next w h

/-- A number that fits is pushed as it is. -/
lemma push_of_fits {x : Int} (hx : Word.Fits x) (h : Room (count + 1) m) :
    Agrees (do push (← word x); return .next : StrictM Machine Flow)
      (do Machine.push (Word.wrap x); return .next : MachineM Flow) m
      (fun flow t => Room 0 t ∧ flow.Near) (fun _ t => Room 0 t) := by
  refine (push_next (Word.wrap x) h).congr ?_
  have hw : (⟨x, hx⟩ : Word) = Word.wrap x := Word.ext (Word.toInt_wrap hx).symm
  rw [word_of_fits hx, hw]
  rfl

/-- The address of a local cell is checked. -/
lemma localAddress_ensures (i : Int) :
    Ensures (Machine.localAddress i) m (fun address t => Word.Fits address ∧ t = m)
      (fun _ t => t = m) := by
  refine Ensures.get_bind (Ensures.bind_of_reads (Machine.checked_reads _) (fun _ => rfl) ?_)
  intro place
  refine (Machine.checked_ensures _ m).mono ?_ (fun _ _ ht => ht.2.2)
  rintro address t ⟨rfl, hfits, rfl⟩
  exact ⟨hfits, rfl⟩

/-- Pop a word and store it somewhere. -/
lemma store_of_pop {f : Word → MachineM Unit}
    (hf : ∀ w t, Ensures (f w) t (fun _ u => Shifted 0 t u) (fun _ u => u = t))
    (h : Room count m) :
    Agrees (do f (← pop); return .next : StrictM Machine Flow)
      (do f (← Machine.pop); return .next : MachineM Flow) m
      (fun flow t => Room 0 t ∧ flow.Near) (fun _ t => Room 0 t) := by
  refine then_agrees (pop_agrees h) ?_
  intro w t ht
  refine Agrees.bind (Agrees.lift (hf w t)) ?_ ?_
  · rintro e u rfl
    exact ht.zero
  · intro _ u hu
    exact Agrees.pure ⟨ht.zero.settled hu, near_next⟩

lemma enterRoutine_agrees (frame : Nat) (h : Room count m) :
    Agrees (enterRoutine frame) (Machine.enterRoutine frame) m
      (fun flow t => Room 0 t ∧ flow.Near) (fun _ t => Room 0 t) := by
  refine then_agrees (pop_agrees h) ?_
  intro w t ht
  refine Agrees.bind_check (Memory.place w.toInt) (fun _ _ => ht.zero) ?_
  intro target hplace
  have htarget : target < 0x8000000000000000 := by
    have hfits := w.fits
    rw [Memory.place] at hplace
    split at hplace
    · exact nomatch hplace
    · obtain rfl := Except.ok.inj hplace
      simp only [Word.Fits] at hfits
      omega
  have hroom : Room 0 { t with returns := ⟨t.registers.ip, frame⟩ :: t.returns } := by
    refine ⟨ht.gbr, ht.low, ht.zero.high, ht.ip, ?_⟩
    intro point hpoint
    rcases List.mem_cons.mp hpoint with rfl | hrest
    · exact ht.ip
    · exact ht.sites point hrest
  have hopen := Agrees.lift (Machine.openFrame_ensures frame
    { t with returns := ⟨t.registers.ip, frame⟩ :: t.returns })
  refine Agrees.modify_bind (Agrees.bind hopen ?_ ?_)
  · rintro e u ⟨-, -, rfl⟩
    exact hroom
  · rintro _ u ⟨-, -, rfl⟩
    exact Agrees.pure ⟨hroom.rebased _, fun _ _ => htarget⟩

/-- Where the stack top is put when a frame ends is checked. -/
lemma collapseFrame_low (results : Nat) (low : -0x8000000000000000 ≤ m.registers.str) :
    Ensures (Machine.collapseFrame results) m
      (fun _ t => -0x8000000000000000 ≤ t.registers.str) (fun _ _ => True) := by
  refine Ensures.bind (Machine.depth_ensures m) (fun _ _ _ => trivial) ?_
  rintro d t ⟨-, rfl⟩
  refine Ensures.bind_of_reads (Machine.checked_reads _) (fun _ => trivial) ?_
  intro r
  refine Ensures.bind_of_reads (Machine.checked_reads _) (fun _ => trivial) ?_
  intro others
  show Ensures (if 0 < others then _ else pure ()) _ _ _
  split
  next =>
    refine Ensures.bind (Machine.moveDown_shifts others 0 results t) (fun _ _ _ => trivial) ?_
    intro _ u _
    refine Ensures.get_bind ?_
    refine Ensures.bind (Machine.checked_ensures _ u) (fun _ _ _ => trivial) ?_
    rintro top v ⟨rfl, hfits, rfl⟩
    exact Ensures.update hfits.1
  next => exact Ensures.pure low

lemma leaveRoutine_agrees (results : Nat) (h : Room count m) :
    Agrees (leaveRoutine results) (Machine.leaveRoutine results) m
      (fun flow t => Room 0 t ∧ flow.Near) (fun _ t => Room 0 t) := by
  have hcollapse := (Machine.collapseFrame_shifts results m).and (collapseFrame_low results h.low)
  refine Agrees.bind (Agrees.lift hcollapse) ?_ ?_
  · rintro e t ⟨ht, -⟩
    exact h.zero.settled ht
  rintro _ t ⟨ht, hlow⟩
  have hdrop := Machine.topAfter_le results m
  rw [ht.str] at hlow
  have hroom : Room 0 t := h.shifted ht hlow (by omega)
  refine Agrees.bind (Agrees.lift (Machine.popReturn_ensures t)) ?_ ?_
  · rintro e u ⟨-, -, rfl⟩
    exact hroom
  rintro point u ⟨rest, hreturns, rfl⟩
  have hsites := hroom.sites
  rw [hreturns] at hsites
  have hpoint : point.callSite + 1 < 0x8000000000000000 := hsites point List.mem_cons_self
  have hrest : Room 0 { t with returns := rest } := by
    refine ⟨hroom.gbr, hroom.low, hroom.high, hroom.ip, ?_⟩
    intro other hother
    exact hsites other (List.mem_cons_of_mem point hother)
  have hclose := Agrees.lift (Machine.closeFrame_ensures point.frame { t with returns := rest })
  refine Agrees.bind hclose ?_ ?_
  · rintro e v ⟨-, -, rfl⟩
    exact hrest
  · rintro _ v ⟨-, rfl⟩
    refine (Agrees.pure ⟨hrest.rebased _, fun _ _ => hpoint⟩).congr ?_
    rw [place, if_pos (by omega)]
    rfl

/-- **The strict machine carries out every instruction** for which there is room. -/
theorem execute_agrees {program : Program} (small : program.Small) (ins : Instruction)
    (h : Room 1 m) :
    Agrees (execute program ins) (Machine.execute program ins) m
      (fun flow t => Room 0 t ∧ flow.Near) (fun _ t => Room 0 t) := by
  cases ins with
  | nop => exact Agrees.lift (Ensures.pure ⟨h.zero, near_next⟩)
  | halt => exact Agrees.lift (Ensures.pure ⟨h.zero, fun _ => Nat.lt_of_succ_lt⟩)
  | literal w => exact push_next w h
  | loadLocal i => exact push_of_reads (Machine.loadLocal_reads i.toInt) h
  | loadGlobal i => exact push_of_reads (Machine.loadGlobal_reads i.toInt) h
  | storeLocal i => exact store_of_pop (Machine.storeLocal_shifts i.toInt) h
  | storeGlobal i => exact store_of_pop (Machine.storeGlobal_shifts i.toInt) h
  | localAddress i =>
      refine Agrees.bind (Agrees.lift (localAddress_ensures i.toInt)) ?_ ?_
      · rintro e t rfl
        exact h.zero
      · rintro address t ⟨hfits, rfl⟩
        exact push_of_fits hfits h
  | globalAddress i => exact push_next i h
  | unary op =>
      refine then_agrees (pop_agrees h) ?_
      intro w t ht
      exact push_of_reads (Reads.check (op.apply w)) ht
  | binary op =>
      refine then_agrees (pop_agrees h) ?_
      intro right t ht
      refine then_agrees (pop_agrees ht) ?_
      intro left u hu
      refine (push_of_reads (Reads.check (op.apply left right)) hu).congr ?_
      rw [apply_eq, lift_known]
  | pop words =>
      refine then_agrees (popMany_agrees words h) ?_
      intro _ t ht
      exact Agrees.pure ⟨ht.zero, near_next⟩
  | dup => exact push_of_reads Machine.top_reads h
  | swap =>
      refine then_agrees (pop_agrees h) ?_
      intro first t ht
      refine then_agrees (pop_agrees ht) ?_
      intro second u hu
      refine then_agrees (push_agrees first hu) ?_
      intro _ v hv
      exact push_next second hv
  | call frame => exact enterRoutine_agrees frame h
  | ret results => exact leaveRoutine_agrees results h
  | goto label =>
      refine Agrees.lift (Ensures.bind_check (fun _ _ => h.zero) ?_)
      intro index hlabel
      exact Ensures.pure ⟨h.zero, fun _ _ => small.labels label index hlabel⟩
  | branch yes no =>
      refine Agrees.bind_check (program.label yes) (fun _ _ => h.zero) ?_
      intro first hyes
      refine Agrees.bind_check (program.label no) (fun _ _ => h.zero) ?_
      intro second hno
      refine then_agrees (pop_agrees h) ?_
      intro w t ht
      refine Agrees.pure ⟨ht.zero, ?_⟩
      intro _ _
      show (if w.toInt = 0 then second else first) < _
      split
      · exact small.labels no second hno
      · exact small.labels yes first hyes
  | code label =>
      refine Agrees.bind_check (program.label label) (fun _ _ => h.zero) ?_
      intro index hlabel
      have hindex := small.labels label index hlabel
      exact push_of_fits (by simp only [Word.Fits]; omega) h
  | system service => exact Agrees.lift (Ensures.pure ⟨h.zero, near_next⟩)
  | unknown row => exact Agrees.lift (Ensures.throw h.zero)

/-! ## At the console -/

section Console

variable {α : Type} {s : System}

/-- An operation on the machine that agrees does so at the console. -/
lemma onMachine_agrees {y : StrictM Machine α} {x : MachineM α} {done : α → Machine → Prop}
    {failed : MachineError → Machine → Prop} (h : Agrees y x s.machine done failed) :
    Agrees (onMachine y) (liftM x : Action α) s (fun a t => done a t.machine)
      (fun e t => failed e t.machine) where
  run := by
    cases hrun : x s.machine with
    | ok a m =>
        rw [strict_ok (onMachine_ok hrun), onMachine, h.run, strict_ok hrun]
    | error e m =>
        rw [strict_error (onMachine_error hrun), onMachine, h.run, strict_error hrun]
  ensures := (Ensures.onMachine h.ensures).mono (fun _ _ h => h.1) (fun _ _ h => h.1)

/-- The console takes no room. -/
lemma onConsole_agrees (x : ConsoleM α) (h : Room count s.machine) :
    Agrees (liftM x) (liftM x : Action α) s (fun _ t => Room count t.machine)
      (fun _ t => Room count t.machine) := by
  refine Agrees.lift (Ensures.onConsole.mono ?_ ?_)
  · rintro a t ⟨same, -⟩
    rw [same]
    exact h
  · rintro e t ⟨same, -⟩
    rw [same]
    exact h

/-- What is written to the console is written to the same machine. -/
lemma write_agrees (text : String) (h : Room count s.machine) :
    Agrees (liftM (Console.write text)) (liftM (Console.write text) : Action Unit) s
      (fun _ t => Room 0 t.machine) (fun _ t => Room 0 t.machine) :=
  onConsole_agrees (Console.write text) h.zero

/-- A word that comes from the console is pushed like any other. -/
lemma read_agrees {word : String → Except MachineError Word} (h : Room 1 s.machine) :
    Agrees (do let line ← Console.readLine; onMachine (push (← word line)) : StrictM System Unit)
      (do let line ← Console.readLine; Machine.push (← word line) : Action Unit) s
      (fun _ t => Room 0 t.machine) (fun _ t => Room 0 t.machine) := by
  refine Agrees.bind (onConsole_agrees Console.readLine h) (fun _ _ ht => ht.zero) ?_
  intro line t ht
  refine Agrees.bind_check (word line) (fun _ _ => ht.zero) ?_
  intro w _
  exact onMachine_agrees (push_agrees w ht)

lemma call_agrees (service : SystemCall) (h : Room 1 s.machine) :
    Agrees (call service) service.perform s (fun _ t => Room 0 t.machine)
      (fun _ t => Room 0 t.machine) := by
  cases service with
  | toggleTrace =>
      have toggled : Room 0 { s.machine with trace := !s.machine.trace } :=
        ⟨h.gbr, h.low, h.zero.high, h.ip, h.sites⟩
      exact Agrees.lift (Ensures.update toggled)
  | dumpMemory => exact Agrees.lift (Ensures.get_bind (write_agrees _ h).ensures)
  | readNumber => exact read_agrees h
  | readCharacter => exact read_agrees h
  | writeNumber =>
      refine Agrees.bind (onMachine_agrees (pop_agrees h)) (fun _ _ ht => ht.zero) ?_
      intro w t ht
      exact write_agrees w.text ht
  | writeCharacter =>
      refine Agrees.bind (onMachine_agrees (pop_agrees h)) (fun _ _ ht => ht.zero) ?_
      intro code t ht
      refine Agrees.bind_check (characterOfCode code) (fun _ _ => ht.zero) ?_
      intro c _
      exact write_agrees c.toString ht
  | newLine => exact write_agrees "\n" h
  | endOfInput => exact onMachine_agrees (push_agrees 0 h)

/-- **The strict machine carries out every instruction at the console** for which there is room. -/
theorem perform_agrees {program : Program} (small : program.Small) (ins : Instruction)
    (h : Room 1 s.machine) :
    Agrees (perform program ins) (ins.perform program) s
      (fun flow t => Room 0 t.machine ∧ flow.Near) (fun _ t => Room 0 t.machine) := by
  refine Agrees.bind (Agrees.lift (showTrace_ensures ins s)) ?_ ?_
  · rintro e t ⟨-, same⟩
    rw [same]
    exact h.zero
  intro _ t same
  rw [← same] at h
  by_cases service : ∃ service, ins = .system service
  · obtain ⟨service, rfl⟩ := service
    refine Agrees.bind (call_agrees service h) (fun _ _ hu => hu) ?_
    intro _ u hu
    have hnext : Agrees (execute program (.system service))
        (Machine.execute program (.system service)) u.machine
        (fun flow t => Room 0 t ∧ flow.Near) (fun _ t => Room 0 t) :=
      Agrees.lift (Ensures.pure ⟨hu, near_next⟩)
    exact onMachine_agrees hnext
  · have hserve : serve ins = pure () ∧ ins.serve = pure () := by
      cases ins with
      | system call => exact absurd ⟨call, rfl⟩ service
      | _ => exact ⟨rfl, rfl⟩
    rw [hserve.1, hserve.2]
    exact onMachine_agrees (execute_agrees small ins h)

end Console

end Strict

end StackMachine

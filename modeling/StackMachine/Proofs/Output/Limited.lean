import StackMachine.Proofs.Cells
import StackMachine.Proofs.Frames.Shift
import StackMachine.Proofs.Tracing.Past

/-!
# Instructions at a limited console

A console that takes only so many bytes is a console without a limit until the byte that it does not
take.  So an instruction does the same on either of them or, where what it writes does not fit, is
cut short at its write.  Then the limited console holds the beginning of what the other one holds,
which stays its beginning whatever is written later.

Nothing has happened to the machine before a write, except that `OUTPUT` and `OUTPUTC` have taken
the word that they write.

* `Console.limited`, `System.limited` — the same with a limit.
* `Console.Grows`, `Console.Cut` — what is written stays, and what is left of it under a limit.
* `Truncates` — actions that are cut short at a write.
* `Instruction.perform_truncates` — every instruction is one of them.
-/

namespace StackMachine

/-! ## Consoles with a limit -/

namespace Console

variable {capacity : Nat} {c d e : Console}

/-- The console as one that takes only so many bytes. -/
def limited (capacity : Nat) (c : Console) : Console := { c with capacity := some capacity }

/-- **An unlimited console only grows**: what was written on it stays there. -/
def Grows (c d : Console) : Prop :=
  c.capacity = none → d.capacity = none ∧ ∃ more, d.output = c.output ++ more

lemma grows_of_same (same : d.output = c.output) (limit : d.capacity = c.capacity) :
    Grows c d := by
  intro h
  refine ⟨limit.trans h, ByteArray.empty, ?_⟩
  rw [same, ByteArray.append_empty]

lemma grows_stable : Stable Grows where
  refl c := grows_of_same rfl rfl
  trans h h' hc := by
    obtain ⟨hd, more, hmore⟩ := h hc
    obtain ⟨he, others, hothers⟩ := h' hd
    refine ⟨he, more ++ others, ?_⟩
    rw [hothers, hmore, ByteArray.append_assoc]
  write text c := by
    cases limit : c.capacity with
    | none => exact Ensures.of_ok (write_run text limit) fun _ => ⟨limit, _, rfl⟩
    | some capacity =>
        have hnone : ∀ d, Grows c d := fun d h => nomatch limit.symm.trans h
        cases hrun : write text c with
        | ok a d => exact Ensures.of_ok hrun (hnone d)
        | error e d => exact Ensures.of_error hrun (hnone d)
  readLine c := readLine_leaves (grows_of_same rfl rfl) (grows_of_same rfl rfl)

/-- **All that was written so far fits** on a console that takes so many bytes. -/
structure Within (capacity : Nat) (c : Console) : Prop where
  unlimited : c.capacity = none
  fits : c.output.size ≤ capacity

/-- **A console holds what is left of another one's output** when that does not fit. -/
structure Cut (capacity : Nat) (c d : Console) : Prop where
  unlimited : c.capacity = none
  excess : capacity < c.output.size
  output : d.output = c.output.extract 0 capacity

/-- What is left stays the same when more is written. -/
lemma Cut.grows (h : Cut capacity c d) (hc : Grows c e) : Cut capacity e d := by
  obtain ⟨unlimited, more, hmore⟩ := hc h.unlimited
  have hexcess := h.excess
  refine ⟨unlimited, ?_, ?_⟩
  · rw [hmore, ByteArray.size_append]
    omega
  · have hbeyond : more.extract (0 - c.output.size) (capacity - c.output.size) =
        ByteArray.empty := by
      rw [Nat.sub_eq_zero_of_le (Nat.le_of_lt hexcess), Nat.zero_sub]
      simp
    rw [h.output, hmore, ByteArray.extract_append, hbeyond, ByteArray.append_empty]

/-- A write on a limited console goes through when all of it fits. -/
lemma write_limited (text : String) (fits : (c.output ++ text.toUTF8).size ≤ capacity) :
    write text (c.limited capacity) =
      .ok ⟨⟩ ({ c with output := c.output ++ text.toUTF8 }.limited capacity) := by
  refine write_run_of_fits text ?_
  intro other limit
  obtain rfl := Option.some.inj limit
  exact fits

lemma write_limited_of_excess (text : String) (excess : capacity < (c.output ++ text.toUTF8).size) :
    write text (c.limited capacity) = .error .outputClosed
      ({ c with output := (c.output ++ text.toUTF8).extract 0 capacity }.limited capacity) :=
  write_run_of_excess text rfl excess

end Console

/-- The system with a console that takes only so many bytes. -/
def System.limited (capacity : Nat) (s : System) : System :=
  { s with console := s.console.limited capacity }

/-! ## Actions -/

/-- **An action is cut short at a write**, or it does the same on a limited console.  When it is cut
short, it leaves a machine with `left`, and the output holds the beginning of what the action would
have written. -/
inductive Truncates {α : Type} (capacity : Nat) (x : Action α) (s : System)
    (left : Machine → Prop) (done : α → System → Prop) : Prop where
  | of_ok {a : α} {t : System} (run : x s = .ok a t)
      (image : x (s.limited capacity) = .ok a (t.limited capacity))
      (within : t.console.Within capacity) (holds : done a t)
  | of_error {e : MachineError} {t : System} (run : x s = .error e t)
      (image : x (s.limited capacity) = .error e (t.limited capacity))
      (within : t.console.Within capacity)
  | of_closed {u : System} (image : x (s.limited capacity) = .error .outputClosed u)
      (holds : left u.machine)
      (cut : Ensures x s (fun _ t => t.console.Cut capacity u.console)
        (fun _ t => t.console.Cut capacity u.console))

namespace Truncates

variable {α β : Type} {capacity : Nat} {x : Action α} {f : α → Action β} {s : System}
  {left early : Machine → Prop} {done middle : α → System → Prop} {after : β → System → Prop}

lemma mono (h : Truncates capacity x s early middle) (hleft : ∀ m, early m → left m)
    (hdone : ∀ a t, middle a t → done a t) : Truncates capacity x s left done := by
  cases h with
  | of_ok run image within holds => exact of_ok run image within (hdone _ _ holds)
  | of_error run image within => exact of_error run image within
  | of_closed image holds cut => exact of_closed image (hleft _ holds) cut

/-- Two actions in a row.  What the second one writes does not matter any more when the first one is
cut short. -/
lemma bind (hx : Truncates capacity x s early middle) (hearly : ∀ m, early m → left m)
    (grows : ∀ a, Keeps Console.Grows (f a))
    (hf : ∀ a t, middle a t → t.console.Within capacity → Truncates capacity (f a) t left after) :
    Truncates capacity (x >>= f) s left after := by
  cases hx with
  | of_error run image within => exact of_error (bind_error run) (bind_error image) within
  | of_closed image holds cut =>
      refine of_closed (bind_error image) (hearly _ holds) ?_
      refine Ensures.bind cut (fun _ _ ht => ht) ?_
      intro a t ht
      exact (grows a t).mono (fun _ _ hu => ht.grows hu) (fun _ _ hu => ht.grows hu)
  | of_ok run image within holds =>
      cases hf _ _ holds within with
      | of_ok run' image' within' holds' =>
          exact of_ok ((bind_ok run).trans run') ((bind_ok image).trans image') within' holds'
      | of_error run' image' within' =>
          exact of_error ((bind_ok run).trans run') ((bind_ok image).trans image') within'
      | of_closed image' holds' cut =>
          exact of_closed ((bind_ok image).trans image') holds' (Ensures.bind_of_ok run cut)

/-- Looking at the system first, but not at the limit. -/
lemma get_bind {f : System → Action β} (same : f (s.limited capacity) = f s)
    (h : Truncates capacity (f s) s left after) : Truncates capacity (get >>= f) s left after := by
  have image : ∀ {r}, f s (s.limited capacity) = r → (get >>= f) (s.limited capacity) = r :=
    fun h => (congrFun same _).trans h
  cases h with
  | of_ok run himage within holds => exact of_ok run (image himage) within holds
  | of_error run himage within => exact of_error run (image himage) within
  | of_closed himage holds cut => exact of_closed (image himage) holds (Ensures.get_bind cut)

variable (within : s.console.Within capacity)
include within

lemma pure {a : α} (h : done a s) : Truncates capacity (Pure.pure a) s left done :=
  of_ok rfl rfl within h

lemma check (c : Except MachineError α) :
    Truncates capacity (liftM c) s left (fun _ t => t = s) := by
  cases c with
  | ok a => exact of_ok liftM_ok liftM_ok within rfl
  | error e => exact of_error liftM_error liftM_error within

/-- The machine has nothing to do with the console. -/
lemma onMachine (x : MachineM α) :
    Truncates capacity (liftM x) s left (fun a t => x s.machine = .ok a t.machine) := by
  cases hx : x s.machine with
  | ok a m => exact of_ok (onMachine_ok hx) (onMachine_ok hx) within rfl
  | error e m => exact of_error (onMachine_error hx) (onMachine_error hx) within

/-- Reading a line writes nothing. -/
lemma readLine : Truncates capacity (liftM Console.readLine) s left
    (fun _ t => t.machine = s.machine) := by
  have unlimited := within.unlimited
  by_cases failing : s.console.flushes.size ∈ s.console.failingFlushes
  · have hrun := Console.readLine_run_of_failing failing
    have himage := Console.readLine_run_of_failing (c := s.console.limited capacity) failing
    exact of_error (onConsole_error hrun) (onConsole_error himage) ⟨unlimited, within.fits⟩
  · have hrun := Console.readLine_run failing
    have himage := Console.readLine_run (c := s.console.limited capacity) failing
    have hinput : (s.console.limited capacity).input = s.console.input := rfl
    rw [hinput] at himage
    cases hline : Console.line s.console.input with
    | ok text =>
        rw [hline] at hrun himage
        exact of_ok (onConsole_ok hrun) (onConsole_ok himage) ⟨unlimited, within.fits⟩ rfl
    | error e =>
        rw [hline] at hrun himage
        exact of_error (onConsole_error hrun) (onConsole_error himage) ⟨unlimited, within.fits⟩

/-- **A write** is cut short when it does not fit, and leaves the machine alone. -/
lemma write (text : String) :
    Truncates capacity (liftM (Console.write text)) s
      (fun m => m = s.machine ∧ capacity < (s.console.output ++ text.toUTF8).size)
      (fun _ t => t.machine = s.machine ∧
        (s.console.output ++ text.toUTF8).size ≤ capacity) := by
  have hrun := Console.write_run text within.unlimited
  rcases Nat.lt_or_ge capacity (s.console.output ++ text.toUTF8).size with excess | fits
  · have himage : (liftM (Console.write text) : Action Unit) (s.limited capacity) = _ :=
      onConsole_error (Console.write_limited_of_excess text excess)
    refine of_closed himage ⟨rfl, excess⟩ ?_
    exact Ensures.of_ok (onConsole_ok hrun) ⟨within.unlimited, excess, rfl⟩
  · have himage : (liftM (Console.write text) : Action Unit) (s.limited capacity) = _ :=
      onConsole_ok (Console.write_limited text fits)
    exact of_ok (onConsole_ok hrun) himage ⟨within.unlimited, fits⟩ ⟨rfl, fits⟩

end Truncates

/-! ## Instructions -/

lemma Machine.pop_ensures (m : Machine) :
    Ensures pop m (fun _ t => t = m.popped) (fun _ t => t = m) := by
  refine Ensures.bind (top_reads m) (fun _ _ ht => ht) ?_
  rintro w t rfl
  rcases Int.lt_or_le t.registers.str 0 with neg | nonneg
  · exact Ensures.of_error (bind_get.trans (bind_error (store_run_of_neg neg Word.unset))) rfl
  · exact Ensures.of_ok (bind_get.trans (bind_ok (store_run nonneg Word.unset))) rfl

/-- The instructions that take from the stack what they write. -/
def Instruction.Outputs (ins : Instruction) : Prop :=
  ins = .system .writeNumber ∨ ins = .system .writeCharacter

section Instruction

variable {capacity : Nat} {s : System} (within : s.console.Within capacity)
include within

lemma read_truncates {word : String → Except MachineError Word} {left : Machine → Prop} :
    Truncates capacity (do Machine.push (← word (← Console.readLine)) : Action Unit) s left
      (fun _ _ => True) := by
  have grows : ∀ w, Keeps Console.Grows (liftM (Machine.push w) : Action Unit) := fun w =>
    Keeps.onMachine Console.grows_stable _
  refine Truncates.bind (Truncates.readLine within) (fun _ h => h) ?_ ?_
  · intro line
    exact Keeps.bind Console.grows_stable (Keeps.check Console.grows_stable _) grows
  · intro line t _ ht
    refine Truncates.bind (Truncates.check ht (word line)) (fun _ h => h) grows ?_
    intro w u _ hu
    exact (Truncates.onMachine hu _).mono (fun _ h => h) (fun _ _ _ => trivial)

/-- What a system call takes from the stack it has taken before it writes. -/
lemma SystemCall.perform_truncates (service : SystemCall) :
    Truncates capacity service.perform s
      (fun m => ((Instruction.system service).Outputs → m = s.machine.popped) ∧
        (¬ (Instruction.system service).Outputs → m = s.machine))
      (fun _ _ => True) := by
  have written : ∀ {t : System} (text : String), t.console.Within capacity →
      Truncates capacity (liftM (Console.write text)) t (fun m => m = t.machine)
        (fun _ _ => True) := by
    intro t text ht
    exact (Truncates.write ht text).mono (fun _ h => h.1) (fun _ _ _ => trivial)
  cases service with
  | toggleTrace => exact Truncates.of_ok rfl rfl within trivial
  | dumpMemory =>
      refine Truncates.get_bind rfl ((written s.machine.dumpLine within).mono ?_ ?_)
      · intro m hm
        exact ⟨fun h => by simp [Instruction.Outputs] at h, fun _ => hm⟩
      · intro _ _ h
        exact h
  | readNumber => exact read_truncates within
  | readCharacter => exact read_truncates within
  | writeNumber =>
      refine Truncates.bind (Truncates.onMachine within Machine.pop) (fun _ h => h) ?_ ?_
      · intro w
        exact Keeps.write Console.grows_stable w.text
      intro w t ht hwithin
      have popped := (Machine.pop_ensures s.machine).ok ht
      refine (written w.text hwithin).mono ?_ (fun _ _ h => h)
      intro m hm
      exact ⟨fun _ => hm.trans popped, fun h => absurd (Or.inl rfl) h⟩
  | writeCharacter =>
      have grows (c : Char) :
          Keeps Console.Grows (liftM (Console.write c.toString) : Action Unit) :=
        Keeps.write Console.grows_stable c.toString
      refine Truncates.bind (Truncates.onMachine within Machine.pop) (fun _ h => h) ?_ ?_
      · intro w
        exact Keeps.bind Console.grows_stable (Keeps.check Console.grows_stable _) grows
      intro w t ht hwithin
      have popped := (Machine.pop_ensures s.machine).ok ht
      refine Truncates.bind (Truncates.check hwithin (characterOfCode w)) (fun _ h => h) grows ?_
      rintro c u rfl -
      refine (written c.toString hwithin).mono ?_ (fun _ _ h => h)
      intro m hm
      exact ⟨fun _ => hm.trans popped, fun h => absurd (Or.inr rfl) h⟩
  | newLine =>
      refine (written "\n" within).mono ?_ (fun _ _ h => h)
      intro m hm
      exact ⟨fun h => by simp [Instruction.Outputs] at h, fun _ => hm⟩
  | endOfInput =>
      exact (Truncates.onMachine within _).mono (fun _ h => h) (fun _ _ _ => trivial)

lemma Instruction.serve_truncates (ins : Instruction) :
    Truncates capacity ins.serve s
      (fun m => (ins.Outputs → m = s.machine.popped) ∧ (¬ ins.Outputs → m = s.machine))
      (fun _ _ => True) := by
  cases ins with
  | system service => exact service.perform_truncates within
  | _ => exact Truncates.pure within trivial

lemma showTrace_truncates (ins : Instruction) :
    Truncates capacity (showTrace ins) s
      (fun m => m = s.machine ∧
        capacity < (s.console.output ++ (ins.shown s.machine).toUTF8).size)
      (fun _ t => t.machine = s.machine ∧
        (s.console.output ++ (ins.shown s.machine).toUTF8).size ≤ capacity) := by
  refine Truncates.get_bind rfl ?_
  show Truncates capacity (if s.machine.trace = true then liftM (Console.write _) else pure ())
    s _ _
  rw [Instruction.shown]
  split
  next => exact Truncates.write within (s.machine.traceLine ins)
  next =>
    refine Truncates.pure within ⟨rfl, ?_⟩
    show (s.console.output ++ ByteArray.empty).size ≤ capacity
    rw [ByteArray.append_empty]
    exact within.fits

/-- **An instruction is cut short at its write.**  It has taken a word from the stack exactly if it
is one that writes a word from there and the line that shows it still fits. -/
theorem Instruction.perform_truncates (program : Program) (ins : Instruction) :
    let own := ins.Outputs ∧ (s.console.output ++ (ins.shown s.machine).toUTF8).size ≤ capacity
    Truncates capacity (ins.perform program) s
      (fun m => (own → m = s.machine.popped) ∧ (¬ own → m = s.machine)) (fun _ _ => True) := by
  intro own
  have grows : Keeps Console.Grows (liftM (Machine.execute program ins) : Action Flow) :=
    Keeps.onMachine Console.grows_stable _
  refine Truncates.bind (showTrace_truncates within ins) ?_ ?_ ?_
  · rintro m ⟨rfl, excess⟩
    exact ⟨fun h => absurd excess (Nat.not_lt.mpr h.2), fun _ => rfl⟩
  · intro _
    exact Keeps.bind Console.grows_stable (ins.serve_keeps Console.grows_stable) fun _ => grows
  rintro _ t ⟨hmachine, fits⟩ hwithin
  refine Truncates.bind (ins.serve_truncates hwithin) ?_ (fun _ => grows) ?_
  · rw [hmachine]
    intro m hm
    exact ⟨fun h => hm.1 h.1, fun h => hm.2 fun outputs => h ⟨outputs, fits⟩⟩
  · intro _ u _ hu
    exact (Truncates.onMachine hu _).mono (fun _ h => h) (fun _ _ _ => trivial)

end Instruction

end StackMachine

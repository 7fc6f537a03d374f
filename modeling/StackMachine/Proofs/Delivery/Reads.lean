import StackMachine.Proofs.Frames.Move
import StackMachine.Proofs.Mirrors

/-!
# Instructions that read

Two instructions read a line, and each begins with a flush.  Nothing else that a run does looks at
the input, at the flushes so far or at the flushes that are set to fail: a write depends on the
output and its limit only.  So a change of the console that leaves these two alone goes unnoticed by
every instruction that comes to no read, and by a read if the line that it gets is the same.

* `Instruction.reads`, `Execution.reads` — the instructions that read, and the steps.
* `Console.Aside`, `Instruction.perform_mirrors_aside` — what goes unnoticed.
* `Instruction.perform_quiet` — what an instruction without a read leaves alone.
* `Instruction.serve_of_reads` — a read is a line, a word and a push.
* `Instruction.perform_of_failing_read`, `Instruction.perform_of_read` — how a read begins.
-/

namespace StackMachine

/-- Whether an instruction reads a line. -/
def Instruction.reads : Instruction → Bool
  | .system .readNumber | .system .readCharacter => true
  | _ => false

lemma Instruction.eq_of_reads {ins : Instruction} (h : ins.reads = true) :
    ins = .system .readNumber ∨ ins = .system .readCharacter := by
  unfold Instruction.reads at h
  split at h
  next => exact .inl rfl
  next => exact .inr rfl
  next => exact absurd h Bool.false_ne_true

/-- Whether the next step comes to carry out an instruction that reads. -/
def Execution.reads (program : Program) (e : Execution) : Bool :=
  (e.reached? program).any Instruction.reads

namespace Execution

variable {program : Program} {e : Execution} {ins : Instruction}

lemma reads_of_ended (h : e.outcome ≠ none) : e.reads program = false := by
  rw [reads, reached?_of_ended h, Option.any_none]

lemma reads_of_end (fetched : e.fetch? program = none) : e.reads program = false := by
  rw [reads, reached?_of_end fetched, Option.any_none]

lemma reads_of_shown {t : System} (before : e.outcome = none)
    (fetched : e.fetch? program = some ins) (shown : showTrace ins e.system = .ok ⟨⟩ t) :
    e.reads program = ins.reads := by
  rw [reads, reached?_of_shown before fetched shown, Option.any_some]

/-- A step that reads has shown an instruction that reads. -/
lemma exists_of_reads (h : e.reads program = true) :
    ∃ ins t, e.outcome = none ∧ e.fetch? program = some ins ∧ ins.reads = true ∧
      showTrace ins e.system = .ok ⟨⟩ t ∧ e.reached? program = some ins := by
  rw [reads, Option.any_eq_true_iff_get] at h
  obtain ⟨some, reads⟩ := h
  have reached := (Option.some_get some).symm
  obtain ⟨before, fetched, t, shown⟩ := exists_of_reached reached
  exact ⟨_, t, before, fetched, reads, shown, reached⟩

end Execution

/-! ## What a write does not notice -/

/-- **A change of the console that no write notices.** -/
structure Console.Aside (view : Console → Console) : Prop where
  capacity : ∀ c, (view c).capacity = c.capacity
  output : ∀ c, (view c).output = c.output
  written : ∀ c output, view { c with output } = { view c with output }

/-- The system with another view of its console. -/
def System.beside (view : Console → Console) (s : System) : System :=
  { s with console := view s.console }

section Aside

variable {view : Console → Console} {α : Type} {s : System}

lemma Console.Aside.write_mirrors (aside : Console.Aside view) (text : String) (c : Console) :
    Mirrors view (Console.write text) (Console.write text) c (fun _ _ => True) := by
  by_cases excess : ∃ capacity, c.capacity = some capacity ∧
      capacity < (c.output ++ text.toUTF8).size
  · obtain ⟨capacity, limit, excess⟩ := excess
    have run := Console.write_run_of_excess text limit excess
    have image := Console.write_run_of_excess (c := view c) text ((aside.capacity c).trans limit)
      (by rwa [aside.output c])
    rw [aside.output c] at image
    exact Mirrors.of_error run (image.trans (congrArg _ (aside.written c _).symm))
  · have fits : ∀ capacity, c.capacity = some capacity →
        (c.output ++ text.toUTF8).size ≤ capacity := by
      intro capacity limit
      exact Nat.not_lt.mp fun h => excess ⟨capacity, limit, h⟩
    have run := Console.write_run_of_fits text fits
    have image := Console.write_run_of_fits (c := view c) text (by
      rwa [aside.capacity c, aside.output c])
    rw [aside.output c] at image
    exact Mirrors.of_shown run (aside.written c _) image trivial

lemma Machine.mirrors_beside (x : MachineM α) :
    Mirrors (System.beside view) (liftM x : Action α) (liftM x) s
      (fun _ t => t.console = s.console) := by
  refine (Mirrors.liftMachine (Mirrors.same x s.machine) fun _ => rfl).mono ?_
  rintro a t ⟨-, same⟩
  exact same

lemma Console.mirrors_beside {x : ConsoleM α} {done : α → Console → Prop}
    (hx : Mirrors view x x s.console done) :
    Mirrors (System.beside view) (liftM x : Action α) (liftM x) s (fun _ _ => True) :=
  (Mirrors.liftConsole hx fun _ => rfl).forget

variable (aside : Console.Aside view)
include aside

lemma write_mirrors_beside (text : String) (s : System) :
    Mirrors (System.beside view) (liftM (Console.write text) : Action Unit)
      (liftM (Console.write text)) s (fun _ _ => True) :=
  Console.mirrors_beside (aside.write_mirrors text s.console)

lemma showTrace_mirrors_beside (ins : Instruction) (s : System) :
    Mirrors (System.beside view) (showTrace ins) (showTrace ins) s (fun _ _ => True) := by
  refine Mirrors.get_bind ?_
  show Mirrors _ (if s.machine.trace = true then liftM (Console.write _) else pure ())
    (if s.machine.trace = true then liftM (Console.write _) else pure ()) s _
  split
  next => exact write_mirrors_beside aside _ s
  next => exact Mirrors.pure trivial

/-- Only a read may notice the change. -/
lemma SystemCall.perform_mirrors_beside (service : SystemCall) (s : System)
    (read : (Instruction.system service).reads = true →
      Mirrors view Console.readLine Console.readLine s.console (fun _ _ => True)) :
    Mirrors (System.beside view) service.perform service.perform s (fun _ _ => True) := by
  refine SystemCall.mirrors ?write ?push (Machine.mirrors_beside Machine.pop).forget service
    trivial rfl ?read ?toggle
  case write =>
    intro text t _
    exact write_mirrors_beside aside text t
  case push =>
    intro w t _
    exact (Machine.mirrors_beside (Machine.push w)).forget
  case read =>
    rintro (rfl | rfl)
    · exact Console.mirrors_beside (read rfl)
    · exact Console.mirrors_beside (read rfl)
  case toggle =>
    intro _
    exact Mirrors.forget (Mirrors.update rfl)

/-- **An instruction does not notice the change** unless it reads and the read does. -/
theorem Instruction.perform_mirrors_aside (program : Program) (ins : Instruction)
    (read : ins.reads = true → ∀ t, showTrace ins s = .ok ⟨⟩ t →
      Mirrors view Console.readLine Console.readLine t.console (fun _ _ => True)) :
    Mirrors (System.beside view) (ins.perform program) (ins.perform program) s
      (fun _ _ => True) := by
  refine Mirrors.bind (showTrace_mirrors_beside aside ins s).known ?_
  rintro _ t ⟨shown, -⟩
  have serve : Mirrors (System.beside view) ins.serve ins.serve t (fun _ _ => True) := by
    cases ins with
    | system service =>
        exact service.perform_mirrors_beside aside t fun reads => read reads t shown
    | _ => exact Mirrors.pure trivial
  refine Mirrors.bind serve ?_
  intro _ u _
  exact (Machine.mirrors_beside (Machine.execute program ins)).forget

end Aside

/-! ## What is left alone without a read -/

/-- The console with the unread input and the flushes of another one. -/
def Console.resumed (c d : Console) : Console :=
  { d with input := c.input, flushes := c.flushes, failingFlushes := c.failingFlushes }

lemma Console.aside_resumed (c : Console) : Console.Aside c.resumed where
  capacity _ := rfl
  output _ := rfl
  written _ _ := rfl

/-- **Nothing is read or flushed between two consoles**, and the same flushes fail. -/
structure Console.Quiet (c d : Console) : Prop where
  input : d.input = c.input
  flushes : d.flushes = c.flushes
  failing : d.failingFlushes = c.failingFlushes

/-- An action that does not notice another input or other flushes leaves both alone. -/
lemma quiet_of_mirrors {α : Type} {x : Action α} {s : System}
    (h : Mirrors (System.beside s.console.resumed) x x s (fun _ _ => True)) :
    Leaves x s (fun t => s.console.Quiet t.console) := by
  refine (h.fixed rfl).relax ?_
  intro t same
  rw [← same]
  exact ⟨rfl, rfl, rfl⟩

lemma showTrace_quiet (ins : Instruction) (s : System) :
    Leaves (showTrace ins) s (fun t => s.console.Quiet t.console) :=
  quiet_of_mirrors (showTrace_mirrors_beside s.console.aside_resumed ins s)

/-- **An instruction that comes to no read** leaves the input and the flushes alone. -/
theorem Instruction.perform_quiet (program : Program) (ins : Instruction) (s : System)
    (quiet : ∀ t, showTrace ins s = .ok ⟨⟩ t → ins.reads = false) :
    Leaves (ins.perform program) s (fun t => s.console.Quiet t.console) := by
  refine quiet_of_mirrors (ins.perform_mirrors_aside s.console.aside_resumed program ?_)
  intro reads t shown
  exact absurd reads (by simp [quiet t shown])

/-! ## How a read begins -/

lemma machine_leaves_console {α : Type} (x : MachineM α) (s : System) :
    Leaves (liftM x : Action α) s (fun t => t.console = s.console) := by
  cases hx : x s.machine with
  | ok a machine => exact Ensures.of_ok (onMachine_ok hx) rfl
  | error error machine => exact Ensures.of_error (onMachine_error hx) rfl

/-- The console behind the read of a line. -/
def Console.advanced (c : Console) : Console := { c.flushed with input := (firstLine c.input).2 }

namespace Instruction

variable {program : Program} {ins : Instruction} {s t : System}

/-- The word that an instruction takes from a line. -/
def wordOfLine : Instruction → String → Except MachineError Word
  | .system .readCharacter => codeOfLine
  | _ => numberOfLine

@[simp]
lemma wordOfLine_readNumber : wordOfLine (.system .readNumber) = numberOfLine := rfl

@[simp]
lemma wordOfLine_readCharacter : wordOfLine (.system .readCharacter) = codeOfLine := rfl

/-- An instruction that reads gets a line, and pushes the word that it holds. -/
lemma serve_of_reads (reads : ins.reads = true) :
    ins.serve = (do Machine.push (← ins.wordOfLine (← Console.readLine)) : Action Unit) := by
  rcases eq_of_reads reads with rfl | rfl
  · rw [wordOfLine_readNumber]
    rfl
  · rw [wordOfLine_readCharacter]
    rfl

lemma perform_of_shown (shown : showTrace ins s = .ok ⟨⟩ t) :
    ins.perform program s = (do ins.serve; Machine.execute program ins : Action Flow) t :=
  bind_ok shown

/-- **A read whose flush fails** does nothing else. -/
lemma perform_of_failing_read (program : Program) (reads : ins.reads = true)
    (shown : showTrace ins s = .ok ⟨⟩ t)
    (failing : t.console.flushes.size ∈ t.console.failingFlushes) :
    ins.perform program s = .error .outputClosed { t with console := t.console.flushed } := by
  rw [perform_of_shown shown, serve_of_reads reads]
  exact bind_error (bind_error (onConsole_error (Console.readLine_run_of_failing failing)))

/-- **A read whose flush does not fail** takes the first line off the input, and writes nothing
behind the flush. -/
lemma perform_of_read (reads : ins.reads = true) (shown : showTrace ins s = .ok ⟨⟩ t)
    (goes : t.console.flushes.size ∉ t.console.failingFlushes) :
    Leaves (ins.perform program) s (fun u => u.console = t.console.advanced) := by
  have line : Leaves (liftM Console.readLine : Action String) t
      (fun u => u.console = t.console.advanced) := by
    have taken := Console.readLine_leaves_of_good goes
    refine Ensures.onConsole.mono ?_ ?_
    · rintro text u ⟨-, run⟩
      exact taken.ok run
    · rintro error u ⟨-, run⟩
      exact taken.error run
  have serves : Leaves ins.serve t (fun u => u.console = t.console.advanced) := by
    rw [serve_of_reads reads]
    refine Ensures.seq line ?_
    intro text u hu
    refine Ensures.bind_check (fun _ _ => hu) ?_
    intro w _
    exact (machine_leaves_console (Machine.push w) u).relax fun _ h => h.trans hu
  refine Ensures.bind_of_ok shown (Ensures.seq serves ?_)
  intro _ u hu
  exact (machine_leaves_console (Machine.execute program ins) u).relax fun _ h => h.trans hu

end Instruction

end StackMachine

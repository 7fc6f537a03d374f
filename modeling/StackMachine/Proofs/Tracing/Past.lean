import StackMachine.Proofs.Console
import StackMachine.Proofs.Tracing.Blind

/-!
# A system and its past

Every system is its untraced core, with the trace off and nothing written yet, seen behind its past:
the trace flag and what was written and flushed so far.  The past has no influence on what an
instruction does.  Only the line that shows the instruction depends on it, and that line is written
before anything is done.  So an instruction does to the core what it does to the system, behind a
past to which at most that line was added.

* `Past`, `System.untraced`, `System.behind` — a system taken apart and put together.
* `SystemCall.perform_mirrors`, `Instruction.work_mirrors` — the past has no influence.
* `Instruction.shown`, `Instruction.perform_run` — the line that depends on it.
-/

namespace StackMachine

/-! ## The past of a system -/

/-- Whether the trace is on, and what was written and flushed so far. -/
structure Past where
  /-- Whether the trace is on. -/
  trace : Bool
  /-- Everything that was written. -/
  output : ByteArray
  /-- For every flush, how many bytes had been written before it. -/
  flushes : Array Nat

/-- The past with a text more on the output. -/
def Past.wrote (past : Past) (text : String) : Past :=
  { past with output := past.output ++ text.toUTF8 }

lemma Past.wrote_empty (past : Past) : past.wrote "" = past := by
  have hempty : "".toUTF8 = ByteArray.empty := rfl
  rw [wrote, hempty, ByteArray.append_empty]

/-- What a console comes to when all was written and flushed behind a past. -/
def Console.behind (past : Past) (c : Console) : Console :=
  { c with
    output := past.output ++ c.output
    flushes := past.flushes ++ c.flushes.map (past.output.size + ·) }

namespace System

/-- A system whose run went on behind a past. -/
def behind (past : Past) (s : System) : System :=
  ⟨s.machine.switched past.trace, s.console.behind past⟩

/-- The past of a system. -/
def past (s : System) : Past := ⟨s.machine.trace, s.console.output, s.console.flushes⟩

/-- The system with the trace off and nothing written yet. -/
def untraced (s : System) : System :=
  ⟨{ s.machine with trace := false }, Console.ofInput s.console.input⟩

lemma untraced_behind_wrote {s : System} (text : String) (h : s.console.Open) :
    s.untraced.behind (s.past.wrote text) =
      { s with console.output := s.console.output ++ text.toUTF8 } := by
  obtain ⟨⟨registers, memory, returns, trace⟩, ⟨input, output, flushes, capacity, failing⟩⟩ := s
  obtain ⟨rfl, rfl⟩ := h
  simp [behind, untraced, past, Past.wrote, Machine.switched, Console.behind, Console.ofInput]

/-- **A system is its untraced core behind its past.** -/
lemma untraced_behind {s : System} (h : s.console.Open) : s.untraced.behind s.past = s := by
  have hsame := untraced_behind_wrote "" h
  rw [Past.wrote_empty] at hsame
  exact hsame.trans (congrArg (fun output => { s with console.output := output })
    ByteArray.append_empty)

lemma open_untraced (s : System) : s.untraced.console.Open := ⟨rfl, rfl⟩

end System

/-! ## The console -/

namespace Console

variable {c : Console} (past : Past)

lemma Open.behind (h : c.Open) : (c.behind past).Open := ⟨h.unlimited, h.reliable⟩

lemma flushed_behind : c.flushed.behind past = (c.behind past).flushed := by
  simp [flushed, Console.behind]

lemma write_mirrors (text : String) (h : c.Open) :
    Mirrors (Console.behind past) (write text) (write text) c (fun _ t => t.Open) := by
  refine Mirrors.of_shown (write_run text h.unlimited) ?_
    (write_run text (h.behind past).unlimited) ⟨h.unlimited, h.reliable⟩
  simp only [Console.behind, ByteArray.append_assoc]

lemma readLine_mirrors (h : c.Open) :
    Mirrors (Console.behind past) readLine readLine c (fun _ t => t.Open) := by
  refine (readLine_mirrors_of_good h.not_failing (h.behind past).not_failing rfl ?_).mono ?_
  · rw [← flushed_behind]
    rfl
  · rintro text t rfl
    exact ⟨h.unlimited, h.reliable⟩

end Console

/-! ## Instructions -/

section Action

variable {s : System} (past : Past)

lemma onMachine_mirrors {α : Type} {x : MachineM α} (hx : Blind x) (h : s.console.Open) :
    Mirrors (System.behind past) (liftM x : Action α) (liftM x) s (fun _ t => t.console.Open) := by
  refine (Mirrors.liftMachine (hx past.trace s.machine) fun _ => rfl).mono ?_
  rintro a t ⟨-, same⟩
  rw [same]
  exact h

lemma onConsole_mirrors {α : Type} {x : ConsoleM α}
    (hx : Mirrors (Console.behind past) x x s.console (fun _ t => t.Open)) :
    Mirrors (System.behind past) (liftM x : Action α) (liftM x) s (fun _ t => t.console.Open) := by
  refine (Mirrors.liftConsole hx fun _ => rfl).mono ?_
  rintro a t ⟨holds, -⟩
  exact holds

/-- **A system call does the same behind any past**, what it writes following what was written. -/
lemma SystemCall.perform_mirrors (service : SystemCall) (h : s.console.Open) :
    Mirrors (System.behind past) service.perform service.perform s
      (fun _ t => t.console.Open) := by
  refine SystemCall.mirrors ?write ?push
    (onMachine_mirrors past Machine.pop_blind h) service h rfl ?read ?toggle
  case write =>
    intro text t ht
    exact onConsole_mirrors past (Console.write_mirrors past text ht)
  case push =>
    intro w t ht
    exact onMachine_mirrors past (Machine.push_blind w) ht
  case read =>
    intro _
    exact onConsole_mirrors past (Console.readLine_mirrors past h)
  case toggle =>
    intro _
    refine Mirrors.mono (Mirrors.update ?_) ?_
    · simp only [System.behind, Machine.switched, Bool.xor_not]
    · rintro _ t rfl
      exact h

end Action

namespace Instruction

variable {s : System}

/-- An instruction without the line that shows it. -/
def work (program : Program) (ins : Instruction) : Action Flow := do
  ins.serve
  Machine.execute program ins

lemma work_mirrors (past : Past) (program : Program) (ins : Instruction) (h : s.console.Open) :
    Mirrors (System.behind past) (ins.work program) (ins.work program) s
      (fun _ t => t.console.Open) := by
  have hserve : Mirrors (System.behind past) ins.serve ins.serve s
      (fun _ t => t.console.Open) := by
    cases ins with
    | system service => exact service.perform_mirrors past h
    | _ => exact Mirrors.pure h
  refine Mirrors.bind hserve ?_
  intro _ t ht
  exact onMachine_mirrors past (Machine.execute_blind program ins) ht

lemma work_open (program : Program) (ins : Instruction) (h : s.console.Open) :
    Ensures (ins.work program) s (fun _ t => t.console.Open) (fun _ t => t.console.Open) := by
  have steady : Steady (ins.work program) := by
    refine Keeps.bind Console.limits_stable (ins.serve_keeps Console.limits_stable) ?_
    intro _
    exact Keeps.onMachine Console.limits_stable (Machine.execute program ins)
  exact (steady s).mono (fun _ _ ht => h.of_limits ht) (fun _ _ ht => h.of_limits ht)

/-- The line that shows an instruction on a machine, if its trace is on. -/
def shown (m : Machine) (ins : Instruction) : String := if m.trace then m.traceLine ins else ""

/-- With the trace on or off, it is the same work behind what was shown. -/
lemma perform_run (program : Program) (ins : Instruction) (h : s.console.Open) :
    ins.perform program s =
      ins.work program (s.untraced.behind (s.past.wrote (ins.shown s.machine))) := by
  have hshown : showTrace ins s =
      .ok ⟨⟩ (s.untraced.behind (s.past.wrote (ins.shown s.machine))) := by
    show (if s.machine.trace = true then liftM (Console.write (s.machine.traceLine ins))
      else pure () : Action Unit) s = _
    by_cases on : s.machine.trace = true
    · rw [shown, if_pos on, if_pos on, System.untraced_behind_wrote _ h]
      exact onConsole_ok (Console.write_run _ h.unlimited)
    · rw [shown, if_neg on, if_neg on, Past.wrote_empty, System.untraced_behind h]
      rfl
  exact bind_ok hshown

end Instruction

end StackMachine

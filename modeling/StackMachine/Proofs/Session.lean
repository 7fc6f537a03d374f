import StackMachine.Proofs.Run

/-!
# Sessions

One machine runs a program after another.  Each run starts in the state in which the last one ended,
also when that was a fault: registers, memory and return stack are carried over, and so is the
instruction pointer.  Only the console is fresh.

* `Session` — the program that is run on the machine, and how far its run has come.
* `Turn`, `Session.take` — an instruction of the run, or a new run after its end.
* `Session.after` — every session, as the states that its turns lead through.
* `Session.take_ensures` — what a turn does to the machine.
-/

namespace StackMachine

/-- A machine in use: the program that runs on it and the run of that program. -/
structure Session where
  /-- The program. -/
  program : Program
  /-- Its run. -/
  run : Execution

/-- What happens next in a session. -/
inductive Turn where
  /-- The run goes on by one instruction. -/
  | step
  /-- A program is run.  The trace is turned on or off before, or left as it is. -/
  | execute (program : Program) (trace : Option Bool) (console : Console)

namespace Session

/-- The machine. -/
def machine (s : Session) : Machine := s.run.system.machine

/-- The beginning of a session, with the first run on a machine that has not run. -/
def first (program : Program) (trace : Bool) (console : Console) : Session where
  program := program
  run := Execution.fresh program trace console

/-- The session after a turn.  No other program is run before the run has ended. -/
def take (s : Session) : Turn → Session
  | .step => { s with run := s.run.step s.program }
  | .execute program trace console =>
    match s.run.outcome with
    | none => s
    | some _ =>
      { program
        run := .start program { s.machine with trace := trace.getD s.machine.trace } console }

/-- The states of a session, one after the other. -/
def after (s : Session) (turns : Nat → Turn) : Nat → Session
  | 0 => s
  | i + 1 => (after s turns i).take (turns i)

/-- **What a turn does to the machine**: a step of the program, or nothing but to the trace. -/
lemma take_ensures (s : Session) (turn : Turn) :
    (s.take turn).run = s.run.step s.program ∨
    ∃ trace, (s.take turn).machine = { s.machine with trace } := by
  cases turn with
  | step => exact .inl rfl
  | execute program trace console =>
      refine .inr ?_
      simp only [take]
      cases s.run.outcome with
      | none => exact ⟨s.machine.trace, rfl⟩
      | some outcome => exact ⟨trace.getD s.machine.trace, rfl⟩

end Session

end StackMachine

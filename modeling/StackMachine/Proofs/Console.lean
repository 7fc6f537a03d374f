import StackMachine.Proofs.Ensures

/-!
# What operations on the console come to

A write succeeds on a console whose output has no limit, a flush when it is not one that was set to
fail, and a read then depends on nothing but the input.

* `Console.Open` — a console that accepts every write and flush.
* `Console.write_run`, `Console.flush_run` — the output.
* `Console.line`, `Console.readLine_run`, `Console.readLine_leaves` — the input.
* `Keeps`, with `Instruction.perform_keeps` — what no operation on the console breaks.
* `Steady`, with `Instruction.perform_steady` — the limits of a console never change.
-/

namespace StackMachine

namespace Console

variable {c : Console}

/-- **A console that accepts every write and flush.** -/
structure Open (c : Console) : Prop where
  /-- The output has no limit. -/
  unlimited : c.capacity = none
  /-- No flush was set to fail. -/
  reliable : c.failingFlushes = []

/-- A write goes through when all of it fits. -/
lemma write_run_of_fits (text : String)
    (fits : ∀ capacity, c.capacity = some capacity →
      (c.output ++ text.toUTF8).size ≤ capacity) :
    write text c = .ok ⟨⟩ { c with output := c.output ++ text.toUTF8 } := by
  obtain ⟨input, output, flushes, limit, failing⟩ := c
  cases limit with
  | none => rfl
  | some capacity =>
      show (if capacity < (output ++ text.toUTF8).size then _ else _ : ConsoleM Unit) _ = _
      rw [if_neg (Nat.not_lt.mpr (fits capacity rfl))]
      rfl

lemma write_run_of_excess (text : String) {capacity : Nat} (limit : c.capacity = some capacity)
    (excess : capacity < (c.output ++ text.toUTF8).size) :
    write text c = .error .outputClosed
      { c with output := (c.output ++ text.toUTF8).extract 0 capacity } := by
  obtain ⟨input, output, flushes, _, failing⟩ := c
  obtain rfl := limit
  show (if capacity < (output ++ text.toUTF8).size then _ else _ : ConsoleM Unit) _ = _
  rw [if_pos excess]
  rfl

lemma write_run (text : String) (h : c.capacity = none) :
    write text c = .ok ⟨⟩ { c with output := c.output ++ text.toUTF8 } :=
  write_run_of_fits text fun _ limit => nomatch h.symm.trans limit

/-- A write that fails does so because the output is closed. -/
lemma write_closes (text : String) (c : Console) :
    Ensures (write text) c (fun _ _ => True) (fun e _ => e = .outputClosed) := by
  by_cases fits : ∀ capacity, c.capacity = some capacity →
      (c.output ++ text.toUTF8).size ≤ capacity
  · exact Ensures.of_ok (write_run_of_fits text fits) trivial
  · obtain ⟨capacity, limit, excess⟩ : ∃ capacity, c.capacity = some capacity ∧
        capacity < (c.output ++ text.toUTF8).size := by
      simpa using fits
    exact Ensures.of_error (write_run_of_excess text limit excess) rfl

/-- The console after a flush. -/
def flushed (c : Console) : Console := { c with flushes := c.flushes.push c.output.size }

lemma Open.flushed (h : c.Open) : c.flushed.Open := ⟨h.unlimited, h.reliable⟩

lemma Open.not_failing (h : c.Open) : c.flushes.size ∉ c.failingFlushes := by
  simp [h.reliable]

lemma flush_run (h : c.flushes.size ∉ c.failingFlushes) : flush c = .ok ⟨⟩ c.flushed := by
  show (if c.flushes.size ∈ c.failingFlushes then throw .outputClosed else pure () : ConsoleM Unit)
    c.flushed = _
  rw [if_neg h]
  rfl

lemma flush_run_of_failing (h : c.flushes.size ∈ c.failingFlushes) :
    flush c = .error .outputClosed c.flushed := by
  show (if c.flushes.size ∈ c.failingFlushes then throw .outputClosed else pure () : ConsoleM Unit)
    c.flushed = _
  rw [if_pos h]
  rfl

/-- The first line of some input as text, without line feeds and carriage returns at its end. -/
def line (input : List UInt8) : Except MachineError String :=
  if input.isEmpty then
    .error .endOfInput
  else
    match String.fromUTF8? (firstLine input).1.toByteArray with
    | some text => .ok (String.ofList (Blank.dropTrailing isLineEnd text.toList))
    | none => .error .inputNotUtf8

/-- A read takes the first line off the input, whether it is text or not. -/
lemma readLine_run (h : c.flushes.size ∉ c.failingFlushes) :
    readLine c = (liftM (line c.input) : ConsoleM String)
      { c.flushed with input := (firstLine c.input).2 } := by
  refine (bind_ok (flush_run h)).trans (bind_get.trans ?_)
  obtain ⟨input, output, flushes, capacity, failing⟩ := c
  cases input with
  | nil => rfl
  | cons b bs =>
      simp only [line, flushed]
      show (match String.fromUTF8? (firstLine (b :: bs)).1.toByteArray with
        | some text => pure (String.ofList (Blank.dropTrailing isLineEnd text.toList))
        | none => throw .inputNotUtf8 : ConsoleM String) ⟨_, output, _, capacity, failing⟩ = _
      cases String.fromUTF8? (firstLine (b :: bs)).1.toByteArray <;> rfl

lemma readLine_run_of_failing (h : c.flushes.size ∈ c.failingFlushes) :
    readLine c = .error .outputClosed c.flushed :=
  bind_error (flush_run_of_failing h)

/-- Whatever the line holds, it is gone behind the read. -/
lemma readLine_leaves_of_good (h : c.flushes.size ∉ c.failingFlushes) :
    Leaves readLine c (fun d => d = { c.flushed with input := (firstLine c.input).2 }) := by
  have run := readLine_run h
  cases hline : line c.input with
  | ok text =>
      rw [hline] at run
      exact Ensures.of_ok run rfl
  | error e =>
      rw [hline] at run
      exact Ensures.of_error run rfl

/-- A read flushes, and takes the first line off the input if the flush does not fail. -/
lemma readLine_leaves {good : Console → Prop} (flushed : good c.flushed)
    (taken : good { c.flushed with input := (firstLine c.input).2 }) : Leaves readLine c good := by
  by_cases failing : c.flushes.size ∈ c.failingFlushes
  · exact Ensures.of_error (readLine_run_of_failing failing) flushed
  · refine (readLine_leaves_of_good failing).relax ?_
    rintro d rfl
    exact taken

end Console

/-! ## What every operation keeps -/

/-- **A relation that no operation on the console breaks**, whether it succeeds or fails. -/
structure Console.Stable (R : Console → Console → Prop) : Prop where
  refl : ∀ c, R c c
  trans : ∀ {c d e}, R c d → R d e → R c e
  write : ∀ text c, Ensures (Console.write text) c (fun _ d => R c d) (fun _ d => R c d)
  readLine : ∀ c, Ensures Console.readLine c (fun _ d => R c d) (fun _ d => R c d)

/-- **An action that keeps a relation** from the console before it to the console after it. -/
def Keeps {α : Type} (R : Console → Console → Prop) (action : Action α) : Prop :=
  ∀ s, Ensures action s (fun _ t => R s.console t.console) (fun _ t => R s.console t.console)

section Keeps

variable {R : Console → Console → Prop} (h : Console.Stable R)
include h

namespace Keeps

variable {α β : Type} {x : Action α} {f : α → Action β}

lemma pure (a : α) : Keeps R (Pure.pure a : Action α) := by
  intro s
  exact Ensures.pure (h.refl _)

lemma check (c : Except MachineError α) : Keeps R (liftM c : Action α) := by
  intro s
  refine (Ensures.check c).mono ?_ ?_
  · rintro a t ⟨_, rfl⟩
    exact h.refl _
  · rintro e t ⟨_, rfl⟩
    exact h.refl _

lemma bind (hx : Keeps R x) (hf : ∀ a, Keeps R (f a)) : Keeps R (x >>= f) := by
  intro s
  refine Ensures.bind (hx s) (fun _ _ ht => ht) ?_
  intro a t ht
  refine (hf a t).mono ?_ ?_
  · intro b u hu
    exact h.trans ht hu
  · intro e u hu
    exact h.trans ht hu

/-- An operation on the machine has nothing to do with the console. -/
lemma onMachine (x : MachineM α) : Keeps R (liftM x) := by
  intro s
  cases hx : x s.machine with
  | ok a m => exact Ensures.of_ok (onMachine_ok hx) (h.refl _)
  | error e m => exact Ensures.of_error (onMachine_error hx) (h.refl _)

omit h in
lemma onConsole {x : ConsoleM α} (hx : ∀ c, Ensures x c (fun _ d => R c d) (fun _ d => R c d)) :
    Keeps R (liftM x) := by
  intro s
  refine Ensures.onConsole.mono ?_ ?_
  · rintro a t ⟨_, run⟩
    exact (hx s.console).ok run
  · rintro e t ⟨_, run⟩
    exact (hx s.console).error run

lemma write (text : String) : Keeps R (liftM (Console.write text) : Action Unit) :=
  onConsole (h.write text)

/-- A line read, and a word that it holds pushed. -/
lemma read (word : String → Except MachineError Word) :
    Keeps R (do Machine.push (← word (← Console.readLine)) : Action Unit) := by
  refine bind h (onConsole h.readLine) ?_
  intro line
  refine bind h (check h (word line)) ?_
  intro w
  exact onMachine h (Machine.push w)

end Keeps

lemma SystemCall.perform_keeps (service : SystemCall) : Keeps R service.perform := by
  cases service with
  | toggleTrace =>
      intro s
      exact Ensures.update (h.refl _)
  | dumpMemory =>
      intro s
      exact Ensures.get_bind (Keeps.write h _ s)
  | readNumber => exact Keeps.read h numberOfLine
  | readCharacter => exact Keeps.read h codeOfLine
  | writeNumber =>
      refine Keeps.bind h (Keeps.onMachine h Machine.pop) ?_
      intro w
      exact Keeps.write h w.text
  | writeCharacter =>
      refine Keeps.bind h (Keeps.onMachine h Machine.pop) ?_
      intro code
      refine Keeps.bind h (Keeps.check h (characterOfCode code)) ?_
      intro c
      exact Keeps.write h c.toString
  | newLine => exact Keeps.write h "\n"
  | endOfInput => exact Keeps.onMachine h (Machine.push 0)

lemma Instruction.serve_keeps (ins : Instruction) : Keeps R ins.serve := by
  cases ins with
  | system service => exact service.perform_keeps h
  | _ => exact Keeps.pure h _

lemma showTrace_keeps (ins : Instruction) : Keeps R (showTrace ins) := by
  intro s
  refine Ensures.get_bind ?_
  show Ensures (if s.machine.trace = true then liftM (Console.write _) else Pure.pure ()) s _ _
  split
  next => exact Keeps.write h _ s
  next => exact Ensures.pure (h.refl _)

/-- **What no operation on the console breaks, no instruction breaks.** -/
theorem Instruction.perform_keeps (program : Program) (ins : Instruction) :
    Keeps R (ins.perform program) := by
  refine Keeps.bind h (showTrace_keeps h ins) ?_
  intro _
  refine Keeps.bind h (ins.serve_keeps h) ?_
  intro _
  exact Keeps.onMachine h (Machine.execute program ins)

end Keeps

/-! ## Limits -/

/-- How much output a console takes and which flushes fail. -/
def Console.limits (c : Console) : Option Nat × List Nat := (c.capacity, c.failingFlushes)

lemma Console.Open.of_limits {c c' : Console} (h : c.Open) (same : c'.limits = c.limits) :
    c'.Open :=
  ⟨(congrArg Prod.fst same).trans h.unlimited, (congrArg Prod.snd same).trans h.reliable⟩

lemma Console.limits_stable : Stable fun c d => d.limits = c.limits where
  refl _ := rfl
  trans h h' := h'.trans h
  write text c := by
    refine Ensures.modify_bind (Ensures.get_bind ?_)
    split
    next => exact Ensures.pure rfl
    next capacity _ =>
      split
      next => exact Ensures.of_error rfl rfl
      next => exact Ensures.pure rfl
  readLine c := readLine_leaves rfl rfl

/-- **An action that leaves the limits of the console as they are**, whether it succeeds or
fails. -/
abbrev Steady {α : Type} (action : Action α) : Prop := Keeps (fun c d => d.limits = c.limits) action

/-- **No instruction changes the limits of the console.** -/
theorem Instruction.perform_steady (program : Program) (ins : Instruction) :
    Steady (ins.perform program) :=
  ins.perform_keeps Console.limits_stable program

end StackMachine

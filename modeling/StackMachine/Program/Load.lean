import StackMachine.Instruction.Decode
import StackMachine.Log
import StackMachine.Program.Basic
import StackMachine.Source.Lines
import StackMachine.Source.Row

/-!
# Loading a program

Each row with words becomes one instruction.  A label points to the instruction of its own row or,
if that row has no words, to the next instruction that follows.  When a label is bound twice the
later binding wins, and the log tells.

Rows are added one by one to a `Draft`, which keeps the labels that still wait for an instruction.

* `Draft.addRow`, `Draft.finish` — the steps of loading.
* `Program.ofRows` — the program of a list of rows, with the log of loading it.
* `Program.ofSource?`, `Program.ofBytes?` — the program of a text, or of the bytes of a text.
-/

namespace StackMachine

/-- A program while its rows are being added. -/
structure Draft where
  /-- What has been loaded so far. -/
  program : Program
  /-- The labels, in order, that point to the next instruction. -/
  pending : List String
  /-- What has been logged so far. -/
  log : Array Event

namespace Draft

/-- The draft to which no row has been added. -/
def empty : Draft := ⟨Program.empty, [], #[]⟩

/-- Add an event to the log. -/
def note (draft : Draft) (event : Event) : Draft := { draft with log := draft.log.push event }

/-- Let a label point to a place.  A binding that the label has already is replaced and logged. -/
def bind (draft : Draft) (label : String) (index : Nat) : Draft :=
  let bound := { draft with program.labels := draft.program.labels.insert label index }
  match draft.program.labels[label]? with
  | some before => bound.note (.labelRedefined label before index)
  | none => bound

/-- Let all waiting labels point to a place. -/
def bindPending (draft : Draft) (index : Nat) : Draft :=
  draft.pending.foldl (fun d label => d.bind label index) { draft with pending := [] }

/-- Add an instruction, to which all waiting labels point. -/
def addInstruction (draft : Draft) (ins : Instruction) : Draft :=
  let bound := draft.bindPending draft.program.instructions.size
  { bound with program.instructions := bound.program.instructions.push ins }

/-- Add a label to those that wait.  An empty label is none. -/
def addLabel (draft : Draft) (label : String) : Draft :=
  if label = "" then draft else { draft with pending := draft.pending ++ [label] }

/-- Add a row: its label, then its instruction if it has words. -/
def addRow (draft : Draft) (row : Row) : Draft :=
  let labelled := draft.addLabel row.label
  if row.words = [] then labelled else labelled.addInstruction (Instruction.decode row.words)

/-- Let the labels that still wait point behind the last instruction, each after a warning. -/
def bindDangling (draft : Draft) : Draft :=
  let index := draft.program.instructions.size
  draft.pending.foldl (fun d label => (d.note (.labelDangling label)).bind label index)
    { draft with pending := [] }

/-- Finish the draft when there are no more rows. -/
def finish (draft : Draft) : Draft :=
  let done := draft.bindDangling
  done.note (.loaded done.program.instructions.size done.program.labels.size)

end Draft

/-- A program and what was logged while it was loaded. -/
structure Loaded where
  /-- The program. -/
  program : Program
  /-- The events in order. -/
  log : Array Event

/-- Why there is no program in a file. -/
inductive LoadError where
  /-- The bytes are not UTF-8. -/
  | notUtf8
  /-- A line, counted from one, does not have the form of a row. -/
  | malformedLine (number : Nat)
deriving DecidableEq

/-- What is reported for a file without a program.  A malformed line is named by its number, without
the reason below it: every line has the form of a row, so this case never comes up. -/
def LoadError.message : LoadError → String
  | .notUtf8 => notUtf8Message
  | .malformedLine number => "line " ++ toString number

namespace Program

/-- The program of a list of rows. -/
def ofRows (rows : List Row) : Loaded :=
  let draft := (rows.foldl Draft.addRow Draft.empty).finish
  ⟨draft.program, draft.log⟩

/-- The rows of a list of lines, of which the first has the given number. -/
def rows? : (number : Nat) → List (List Char) → Except LoadError (List Row)
  | _, [] => .ok []
  | number, line :: lines =>
    match Row.split? (String.ofList line) with
    | some row => (rows? (number + 1) lines).map (row :: ·)
    | none => .error (.malformedLine number)

/-- The program of a source text. -/
def ofSource? (source : String) : Except LoadError Loaded :=
  (rows? 1 (Source.lines source.toList)).map ofRows

/-- The program of the bytes of a source text. -/
def ofBytes? (bytes : ByteArray) : Except LoadError Loaded :=
  match String.fromUTF8? bytes with
  | some source => ofSource? source
  | none => .error .notUtf8

end Program

end StackMachine

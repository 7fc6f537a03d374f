import StackMachine.Proofs.Cells
import StackMachine.Proofs.Echo.Lines
import StackMachine.Proofs.Extension.Resumption
import StackMachine.Proofs.Loading.Listing
import StackMachine.Proofs.Straight

/-!
# Console input undoes console output

A program that writes words in decimal, and characters as they are, each in a line of its own, has
an output that another program reads back.  What is on its stack in the end are the words and the
codes of the characters.

Both programs are straight code.  Of the system it is enough to know what is on the stack, what has
been written and what can still be read; all other parts stay as they are in a new machine.

* `System.Holds` — a system with a given stack, output and input.
* `Echo.Item`, `Echo.writer`, `Echo.reader` — what is written, and the two programs.
* `Execution.At.writes`, `Execution.At.reads` — their runs.
* `input_undoes_output` — from the source of the one to the stack of the other.
-/

namespace StackMachine

/-! ## A system on its way -/

/-- **What a system holds**: the stack, the output and the input that is left.  The trace is off,
the origin of memory is zero and the console accepts everything. -/
structure System.Holds (words : List Word) (output input : List UInt8) (s : System) : Prop where
  quiet : s.machine.trace = false
  base : s.machine.registers.gbr = 0
  top : s.machine.registers.str = (words.length : Int) - 1
  stack : s.machine.stack = words
  unlimited : s.console.Open
  output : s.console.output.toList = output
  input : s.console.input = input

namespace System.Holds

variable {words : List Word} {output input : List UInt8} {s : System}

lemma push (h : s.Holds words output input) (w : Word) :
    Machine.push w s.machine = .ok ⟨⟩ (s.machine.pushed w) ∧
      System.Holds (words ++ [w]) output input { s with machine := s.machine.pushed w } := by
  have floor : -1 ≤ s.machine.registers.str := by
    rw [h.top]
    omega
  refine ⟨Machine.push_run w floor, h.quiet, h.base, ?_, ?_, h.unlimited, h.output,
    h.input⟩
  · show s.machine.registers.str + 1 = _
    rw [h.top, List.length_append, List.length_singleton]
    omega
  · show (s.machine.pushed w).stack = _
    rw [Machine.stack_pushed w floor, h.stack]

lemma pop {w : Word} (h : s.Holds (words ++ [w]) output input) :
    ∃ t, (liftM Machine.pop : Action Word) s = .ok w t ∧ t.Holds words output input := by
  have top : s.machine.registers.str = words.length := by
    rw [h.top, List.length_append, List.length_singleton]
    omega
  have nonneg : 0 ≤ s.machine.registers.str := by
    rw [top]
    exact Int.natCast_nonneg _
  have last : s.machine.memory.read s.machine.registers.str.toNat = w := by
    have last : s.machine.stack.getLast? = some _ := Memory.getLast?_snapshot nonneg
    rw [h.stack, List.getLast?_concat] at last
    exact (Option.some.inj last).symm
  have run := Machine.pop_run (m := s.machine) (by rw [h.base]; exact nonneg) nonneg
  rw [last] at run
  refine ⟨_, onMachine_ok run, h.quiet, h.base, ?_, ?_, h.unlimited, h.output, h.input⟩
  · show s.machine.registers.str + -1 = _
    rw [top]
    rfl
  · show s.machine.popped.stack = words
    rw [Machine.stack_popped nonneg, h.stack, List.dropLast_concat]

lemma write (h : s.Holds words output input) (text : String) :
    ∃ t, (liftM (Console.write text) : Action Unit) s = .ok ⟨⟩ t ∧
      t.Holds words (output ++ utf8 text.toList) input := by
  refine ⟨_, onConsole_ok (Console.write_run text h.unlimited.unlimited),
    h.quiet, h.base, h.top, h.stack, ⟨h.unlimited.unlimited, h.unlimited.reliable⟩, ?_, h.input⟩
  show (s.console.output ++ text.toUTF8).toList = _
  rw [toList_eq_data, ByteArray.data_append, Array.toList_append, ← toList_eq_data,
    ← toList_eq_data, h.output, toList_toUTF8]

lemma readLine {text : List Char} (lined : Console.Lined text)
    (h : s.Holds words output (Console.written text ++ input)) :
    ∃ t, (liftM Console.readLine : Action String) s = .ok (String.ofList text) t ∧
      t.Holds words output input := by
  have run := Console.readLine_run h.unlimited.not_failing
  rw [h.input, Console.line_of_lined lined, Console.firstLine_of_lined lined] at run
  exact ⟨_, onConsole_ok run, h.quiet, h.base, h.top, h.stack,
    ⟨h.unlimited.unlimited, h.unlimited.reliable⟩, h.output, rfl⟩

end System.Holds

/-! ## Instructions -/

section Leads

variable {program : Program} {words : List Word} {output input : List UInt8} {s : System}

/-- A system call that succeeds leads on. -/
lemma leads_of_service {service : SystemCall} {after : System → Prop}
    (quiet : s.machine.trace = false) (served : ∃ t, service.perform s = .ok ⟨⟩ t ∧ after t) :
    (Instruction.system service).Leads program s after := by
  obtain ⟨t, served, holds⟩ := served
  exact ⟨t, (bind_ok (showTrace_of_quiet quiet _)).trans (bind_ok served), holds⟩

namespace System.Holds

lemma literal (h : s.Holds words output input) (w : Word) :
    (Instruction.literal w).Leads program s (System.Holds (words ++ [w]) output input) := by
  obtain ⟨pushed, holds⟩ := h.push w
  have executed : Machine.execute program (.literal w) s.machine =
      .ok .next (s.machine.pushed w) :=
    bind_ok pushed
  exact ⟨_, (bind_ok (showTrace_of_quiet h.quiet _)).trans (onMachine_ok executed), holds⟩

lemma newLine (h : s.Holds words output input) :
    (Instruction.system .newLine).Leads program s
      (System.Holds words (output ++ [Console.lineFeed]) input) :=
  leads_of_service h.quiet (h.write "\n")

lemma writeNumber {w : Word} (h : s.Holds (words ++ [w]) output input) :
    (Instruction.system .writeNumber).Leads program s
      (System.Holds words (output ++ utf8 w.text.toList) input) := by
  obtain ⟨t, popped, holds⟩ := h.pop
  obtain ⟨u, wrote, holds⟩ := holds.write w.text
  exact leads_of_service h.quiet ⟨u, (bind_ok popped).trans wrote, holds⟩

lemma writeCharacter {c : Char} (h : s.Holds (words ++ [Word.wrap c.toNat]) output input) :
    (Instruction.system .writeCharacter).Leads program s
      (System.Holds words (output ++ utf8 [c]) input) := by
  obtain ⟨t, popped, holds⟩ := h.pop
  obtain ⟨u, wrote, holds⟩ := holds.write c.toString
  have code : (liftM (characterOfCode (Word.wrap c.toNat)) : Action Char) t = .ok c t := by
    rw [characterOfCode_wrap]
    rfl
  rw [show c.toString.toList = [c] from String.toList_singleton c] at holds
  exact leads_of_service h.quiet ⟨u, (bind_ok popped).trans ((bind_ok code).trans wrote), holds⟩

lemma readNumber {w : Word}
    (h : s.Holds words output (Console.written w.text.toList ++ input)) :
    (Instruction.system .readNumber).Leads program s
      (System.Holds (words ++ [w]) output input) := by
  obtain ⟨t, line, holds⟩ := h.readLine w.lined_text
  obtain ⟨pushed, holds⟩ := holds.push w
  rw [String.ofList_toList] at line
  have number : (liftM (numberOfLine w.text) : Action Word) t = .ok w t := by
    rw [numberOfLine_text]
    rfl
  exact leads_of_service h.quiet
    ⟨_, (bind_ok line).trans ((bind_ok number).trans (onMachine_ok pushed)), holds⟩

lemma readCharacter {c : Char} (inside : Console.isLineEnd c = false)
    (h : s.Holds words output (Console.written [c] ++ input)) :
    (Instruction.system .readCharacter).Leads program s
      (System.Holds (words ++ [Word.wrap c.toNat]) output input) := by
  have lined : Console.Lined [c] := by simpa [Console.Lined] using inside
  obtain ⟨t, line, holds⟩ := h.readLine lined
  obtain ⟨pushed, holds⟩ := holds.push (Word.wrap c.toNat)
  have code : (liftM (codeOfLine (String.ofList [c])) : Action Word) t =
      .ok (Word.wrap c.toNat) t := by
    rw [show String.ofList [c] = c.toString from rfl, codeOfLine_toString]
    rfl
  exact leads_of_service h.quiet
    ⟨_, (bind_ok line).trans ((bind_ok code).trans (onMachine_ok pushed)), holds⟩

end System.Holds

end Leads

/-! ## Straight code -/

namespace Execution

variable {program : Program} {e : Execution} {ins : Instruction} {code : List Instruction}
  {words words' : List Word} {output output' input input' : List UInt8}

/-- **Where a run is on its way**: what lies ahead of it, and what its system holds. -/
structure At (program : Program) (code : List Instruction) (words : List Word)
    (output input : List UInt8) (e : Execution) : Prop where
  ahead : e.Ahead program code
  holds : e.system.Holds words output input

lemma At.next (h : e.At program (ins :: code) words output input)
    (leads : ins.Leads program e.system (System.Holds words' output' input')) :
    (e.step program).At program code words' output' input' := by
  obtain ⟨ahead, t, holds, system⟩ := h.ahead.next leads
  refine ⟨ahead, ?_⟩
  rw [system]
  exact ⟨holds.quiet, holds.base, holds.top, holds.stack, holds.unlimited, holds.output,
    holds.input⟩

/-- A run gets to a place on its way. -/
def Reaches (program : Program) (e : Execution) (place : Execution → Prop) : Prop :=
  ∃ count, place (run program count e)

lemma Reaches.trans {place later : Execution → Prop} (h : e.Reaches program place)
    (onward : ∀ l, place l → l.Reaches program later) : e.Reaches program later := by
  obtain ⟨first, hplace⟩ := h
  obtain ⟨second, hlater⟩ := onward _ hplace
  exact ⟨first + second, by rwa [run_add]⟩

/-- A halt on the way ends the run with all that was held. -/
lemma At.halts (h : e.At program (.halt :: code) words output input) :
    ∃ ending, (e.step program).ending? = some ending ∧ ending.outcome = .halted ∧
      ending.machine.stack = words ∧ ending.output.toList = output ∧ ending.rest = input := by
  have performed : Instruction.halt.perform program e.system = .ok .halt e.system :=
    bind_ok (showTrace_of_quiet h.holds.quiet _)
  have step := step_of_halt h.ahead.running h.ahead.fetched performed
  have flush := Console.flush_run h.holds.unlimited.not_failing
  have outcome : (e.step program).outcome = some .halted := by
    rw [step]
    simp only [finish, note, flush]
  refine ⟨_, by rw [ending?, outcome, Option.map_some], rfl, ?_, ?_, ?_⟩
  · rw [step, machine_finish]
    exact h.holds.stack
  · rw [step, console_finish]
    exact h.holds.output
  · rw [step, console_finish]
    exact h.holds.input

end Execution

/-! ## The two programs -/

namespace Echo

/-- Something that can be written in a line of its own: a word, or a character that ends no line. -/
inductive Item where
  | word (w : Word)
  | character (c : Char) (inside : c ≠ '\n' ∧ c ≠ '\r')

namespace Item

/-- The word that stands for an item: the word itself, or the code of the character. -/
def code : Item → Word
  | .word w => w
  | .character c _ => Word.wrap c.toNat

/-- The line that an item is written in. -/
def line : Item → List Char
  | .word w => w.text.toList
  | .character c _ => [c]

/-- The service that writes an item. -/
def output : Item → SystemCall
  | .word _ => .writeNumber
  | .character _ _ => .writeCharacter

/-- The service that reads an item. -/
def input : Item → SystemCall
  | .word _ => .readNumber
  | .character _ _ => .readCharacter

/-- The instructions that write an item. -/
def writing (item : Item) : List Instruction :=
  [.literal item.code, .system item.output, .system .newLine]

section Leads

variable {program : Program} {words : List Word} {output input : List UInt8} {s : System}

lemma output_leads (item : Item) (h : s.Holds (words ++ [item.code]) output input) :
    (Instruction.system item.output).Leads program s
      (System.Holds words (output ++ utf8 item.line) input) := by
  cases item with
  | word w => exact h.writeNumber
  | character c inside => exact h.writeCharacter

lemma input_leads (item : Item) (h : s.Holds words output (Console.written item.line ++ input)) :
    (Instruction.system item.input).Leads program s
      (System.Holds (words ++ [item.code]) output input) := by
  cases item with
  | word w => exact h.readNumber
  | character c inside =>
      have unended : Console.isLineEnd c = false := by simp [Console.isLineEnd, inside]
      exact h.readCharacter unended

end Leads

end Item

/-- The program that writes some items. -/
def writer (items : List Item) : List Instruction := items.flatMap Item.writing ++ [.halt]

/-- The program that reads some items. -/
def reader (items : List Item) : List Instruction :=
  items.map (fun item => .system item.input) ++ [.halt]

/-- The lines that some items are written in. -/
def transcript (items : List Item) : List UInt8 :=
  items.flatMap fun item => Console.written item.line

end Echo

namespace Instruction

lemma spelling_literal (w : Word) : (literal w).Spelling (literal w).words := by
  have isWord : ∀ word ∈ ["LIT", w.text], Row.IsWord word := by
    intro word mem
    simp only [List.mem_cons, List.not_mem_nil, or_false] at mem
    rcases mem with rfl | rfl
    · decide
    · exact w.isWord_text
  have found : decode? ["LIT", w.text] = some (literal w) := by
    simp [decode?, withOperand?, w.read?_text]
  exact spelling_of_decode? isWord found

lemma spelling_system (service : SystemCall) :
    (system service).Spelling (system service).words := by
  have isWord : ∀ word ∈ ["SOS", Mnemonic.text service], Row.IsWord word := by
    intro word mem
    simp only [List.mem_cons, List.not_mem_nil, or_false] at mem
    rcases mem with rfl | rfl
    · decide
    · exact isWord_system service
  have found : decode? ["SOS", Mnemonic.text service] = some (system service) := by
    simp [decode?, withOperand?]
  exact spelling_of_decode? isWord found

lemma spelling_halt : halt.Spelling halt.words := by
  have isWord : ∀ word ∈ ["HALT"], Row.IsWord word := by decide
  exact spelling_of_decode? isWord rfl

end Instruction

namespace Echo

lemma spelling_of_mem_writer {items : List Item} {ins : Instruction} (h : ins ∈ writer items) :
    ins.Spelling ins.words := by
  rw [writer, List.mem_append, List.mem_flatMap, List.mem_singleton] at h
  rcases h with ⟨item, -, mem⟩ | rfl
  · simp only [Item.writing, List.mem_cons, List.not_mem_nil, or_false] at mem
    rcases mem with rfl | rfl | rfl
    · exact Instruction.spelling_literal _
    · exact Instruction.spelling_system _
    · exact Instruction.spelling_system _
  · exact Instruction.spelling_halt

lemma spelling_of_mem_reader {items : List Item} {ins : Instruction} (h : ins ∈ reader items) :
    ins.Spelling ins.words := by
  rw [reader, List.mem_append, List.mem_map, List.mem_singleton] at h
  rcases h with ⟨item, -, rfl⟩ | rfl
  · exact Instruction.spelling_system _
  · exact Instruction.spelling_halt

end Echo

/-! ## Their runs -/

namespace Execution

open Echo

variable {program : Program} {e : Execution} {code : List Instruction}
  {words : List Word} {output input : List UInt8}

lemma At.writes_item {item : Item} (h : e.At program (item.writing ++ code) [] output input) :
    e.Reaches program (At program code [] (output ++ Console.written item.line) input) := by
  have first := h.next (h.holds.literal item.code)
  have second := first.next (item.output_leads first.holds)
  have third := second.next second.holds.newLine
  rw [List.append_assoc] at third
  exact ⟨3, third⟩

/-- **The writer writes its items**, one after the other. -/
lemma At.writes {items : List Item}
    (h : e.At program (items.flatMap Item.writing ++ code) [] output input) :
    e.Reaches program (At program code [] (output ++ transcript items) input) := by
  induction items generalizing e output with
  | nil =>
      refine ⟨0, ?_⟩
      simpa [transcript, run] using h
  | cons item items ih =>
      rw [List.flatMap_cons, List.append_assoc] at h
      refine h.writes_item.trans fun l hl => ?_
      have rest := ih hl
      rwa [List.append_assoc] at rest

/-- **The reader reads its items**, one after the other. -/
lemma At.reads {items : List Item}
    (h : e.At program (items.map (fun item => .system item.input) ++ code) words output
      (transcript items ++ input)) :
    e.Reaches program (At program code (words ++ items.map Item.code) output input) := by
  induction items generalizing e words with
  | nil =>
      refine ⟨0, ?_⟩
      simpa [transcript, run] using h
  | cons item items ih =>
      rw [transcript, List.flatMap_cons, List.append_assoc] at h
      have first : e.Reaches program (At program _ (words ++ [item.code]) output _) :=
        ⟨1, h.next (item.input_leads h.holds)⟩
      refine first.trans fun l hl => ?_
      have rest := ih hl
      rwa [List.append_assoc] at rest

/-- A program that is run on a new machine is on its way. -/
lemma at_start (h : program.instructions.toList = code) (input : List UInt8) :
    (start program Machine.initial (Console.ofInput input)).At program code [] [] input where
  ahead := ahead_start h rfl _
  holds := ⟨rfl, rfl, rfl, rfl, ⟨rfl, rfl⟩, toList_eq_data _, rfl⟩

/-- A run that gets to a halt ends there. -/
lemma ends_of_reaches {rest : List UInt8}
    (h : (start program Machine.initial (Console.ofInput input)).Reaches program
      (At program [.halt] words output rest)) :
    ∃ ending, Ends program Machine.initial input ending ∧ ending.outcome = .halted ∧
      ending.machine.stack = words ∧ ending.output.toList = output ∧ ending.rest = rest := by
  obtain ⟨count, place⟩ := h
  obtain ⟨ending, ends, holds⟩ := place.halts
  rw [← run_succ] at ends
  exact ⟨ending, ⟨count + 1, ends⟩, holds⟩

end Execution

/-- **Console input undoes console output.**  Some words and characters, of which none ends a line,
are given.  The source of the program that writes each of them in a line of its own is loaded and
run on a new machine, and halts.  What it has written is the input for the program that reads as
many words and characters.  That program is loaded and run on a new machine as well, and halts with
the words and the codes of the characters on its stack, in order, and with nothing left to read. -/
theorem input_undoes_output (items : List Echo.Item) :
    ∃ writer reader : Loaded,
      Program.ofSource? (Program.listing (Echo.writer items)) = .ok writer ∧
      Program.ofSource? (Program.listing (Echo.reader items)) = .ok reader ∧
      ∀ input, ∃ first last : Ending,
        Execution.Ends writer.program Machine.initial input first ∧ first.outcome = .halted ∧
        Execution.Ends reader.program Machine.initial first.output.toList last ∧
          last.outcome = .halted ∧
        last.machine.stack = items.map Echo.Item.code ∧ last.rest = [] := by
  obtain ⟨writer, loadsWriter, writing⟩ :=
    Program.ofSource?_listing fun ins (h : ins ∈ Echo.writer items) =>
      Echo.spelling_of_mem_writer h
  obtain ⟨reader, loadsReader, reading⟩ :=
    Program.ofSource?_listing fun ins (h : ins ∈ Echo.reader items) =>
      Echo.spelling_of_mem_reader h
  refine ⟨writer, reader, loadsWriter, loadsReader, fun input => ?_⟩
  obtain ⟨first, firstEnds, firstHalts, -, written, -⟩ :=
    Execution.ends_of_reaches (Execution.at_start writing input).writes
  rw [List.nil_append] at written
  have given : (Execution.start reader.program Machine.initial
      (Console.ofInput first.output.toList)).At reader.program (Echo.reader items) [] []
      (Echo.transcript items ++ []) := by
    rw [List.append_nil, ← written]
    exact Execution.at_start reading _
  obtain ⟨last, lastEnds, lastHalts, stack, -, rest⟩ := Execution.ends_of_reaches given.reads
  exact ⟨first, last, firstEnds, firstHalts, lastEnds, lastHalts, stack, rest⟩

/-- The sources for a negative word and a character that is white space. -/
example :
    let items := [Echo.Item.word (Word.wrap (-7)), .character '\x0c' (by decide)]
    Program.listing (Echo.writer items) =
        " LIT -7\n SOS OUTPUT\n SOS OUTPUTL\n LIT 12\n SOS OUTPUTC\n SOS OUTPUTL\n HALT\n" ∧
      Program.listing (Echo.reader items) = " SOS INPUT\n SOS INPUTC\n HALT\n" := by
  decide

end StackMachine

import StackMachine.CommandLine.File
import StackMachine.CommandLine.Request
import StackMachine.Execution.Basic
import StackMachine.Program.Load

/-!
# The command line

From arguments to a report.  A request is either answered at once or names a program; the program is
loaded into a `Job`; and when the run has ended, the job reports on it.  Opening the file and
running the program lie between these steps, with whoever asks.

* `Report` — exit code, output, complaint and log of the command.
* `CommandLine.plan` — the program to run, or the report without one.
* `Launch.load` — the job of a file, or the report on a file that holds no program.
* `Job.start`, `Job.report` — the beginning of the run, and the report at its end.
-/

namespace StackMachine

/-- What the command leaves behind. -/
structure Report where
  /-- The exit code. -/
  exit : Nat
  /-- Everything written to the standard output. -/
  output : ByteArray
  /-- What is written to the standard error besides the log. -/
  complaint : String
  /-- The log. -/
  log : List Event

namespace CommandLine

/-- The name of the command. -/
def name : String := "winzig-vm"

/-- The version of the command. -/
def versionLine : String := name ++ " 0.1.0\n"

/-- The form of the command line. -/
def usageLine : String := "Usage: " ++ name ++ " [OPTIONS] [PROGRAM]\n"

/-- The explanation of the command line. -/
def helpText : String :=
  "Runs a WinZig stack machine program\n\n" ++ usageLine ++
    "\nArguments:\n" ++
    "  [PROGRAM]  bytecode program\n" ++
    "\nOptions:\n" ++
    "  -d, --debug    print each instruction, LBR and the stack before it executes\n" ++
    "  -h, --help     Print help\n" ++
    "  -V, --version  Print version\n"

end CommandLine

namespace Report

/-- A report of success that consists of a text. -/
def ofText (text : String) : Report := ⟨0, text.toUTF8, "", []⟩

/-- The report on a mistake on the command line: the first line of its message. -/
def ofUsageError (error : UsageError) : Report :=
  let line := (Source.lines error.message.toList).headD []
  ⟨2, ByteArray.empty, String.ofList line, []⟩

/-- The report on something that was attempted in vain. -/
def ofFailure (attempt cause : String) : Report :=
  ⟨1, ByteArray.empty, "Error: " ++ attempt ++ "\n\nCaused by:\n    " ++ cause ++ "\n", []⟩

/-- The report with only those events that a threshold shows. -/
def filterLog (report : Report) (threshold : Threshold) : Report :=
  { report with log := report.log.filter fun event => threshold.shows event.level }

end Report

/-- A program that is to be run. -/
structure Launch where
  /-- The path of the program. -/
  path : String
  /-- Whether the trace is on from the start. -/
  trace : Bool

/-- A program that was loaded and is to be run. -/
structure Job where
  /-- The program, with the log of loading it. -/
  loaded : Loaded
  /-- Whether the trace is on from the start. -/
  trace : Bool

/-- The program to run, or the report when there is none. -/
def CommandLine.plan (arguments : List String) : Except Report Launch :=
  match Request.ofArguments arguments with
  | .error error => .error (Report.ofUsageError error)
  | .ok .help => .error (Report.ofText helpText)
  | .ok .version => .error (Report.ofText versionLine)
  | .ok .usage => .error (Report.ofText usageLine)
  | .ok (.run path trace) => .ok ⟨path, trace⟩

/-- The job of a file, or the report when there is no program in it. -/
def Launch.load (launch : Launch) (file : FileAccess) : Except Report Job :=
  match file with
  | .unopened cause => .error (Report.ofFailure ("cannot open " ++ launch.path) cause.message)
  | .unread cause => .error (Report.ofFailure ("cannot load " ++ launch.path) cause.message)
  | .content bytes =>
    match Program.ofBytes? bytes with
    | .error error => .error (Report.ofFailure ("cannot load " ++ launch.path) error.message)
    | .ok loaded => .ok ⟨loaded, launch.trace⟩

namespace Job

/-- The run of a job before its first instruction. -/
def start (job : Job) (input : List UInt8) : Execution :=
  Execution.start job.loaded.program { Machine.initial with trace := job.trace }
    (Console.ofInput input)

/-- The report on a run that has ended. -/
def report (job : Job) (e : Execution) (outcome : Outcome) : Report :=
  let log := job.loaded.log.toList ++ e.log.toList
  match outcome with
  | .halted => ⟨0, e.system.console.output, "", log ++ [.finished e.system.machine.registers]⟩
  | .faulted fault => ⟨1, e.system.console.output, "Error: " ++ fault.text ++ "\n", log⟩

end Job

end StackMachine

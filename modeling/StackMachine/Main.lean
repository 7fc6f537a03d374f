import StackMachine.CommandLine.Report

/-!
# The command

The command line on a real system.  Files, console and log are those of the process; everything that
is decided is decided by `StackMachine.CommandLine`.  Output is delivered before each read, and
whenever much of it is pending.  The variable `WINZIG_LOG` sets the threshold of the log.
-/

namespace StackMachine.Command

/-- The cause behind a failed operation on a file. -/
def causeOf (e : IO.Error) : OsError :=
  match e with
  | .noFileOrDirectory .. => .notFound
  | .inappropriateType _ code details | .permissionDenied _ code details
  | .resourceExhausted _ code details | .invalidArgument _ code details =>
    ⟨code.toNat, details⟩
  | .otherError code details => ⟨code.toNat, details⟩
  | other => ⟨0, other.toString⟩

/-- All bytes that a handle still gives. -/
partial def readAll (handle : IO.FS.Handle) (sofar : ByteArray) : IO ByteArray := do
  let chunk ← handle.read 65536
  if chunk.isEmpty then return sofar
  readAll handle (sofar ++ chunk)

/-- Open a path and read what is there. -/
def access (path : String) : IO FileAccess := do
  match ← (IO.FS.Handle.mk path .read).toBaseIO with
  | .error e => return .unopened (causeOf e)
  | .ok handle =>
    match ← (readAll handle ByteArray.empty).toBaseIO with
    | .error e => return .unread (causeOf e)
    | .ok bytes => return .content bytes

/-- One line of the standard input, with its line feed. -/
partial def readLine (sofar : List UInt8) : IO (List UInt8) := do
  match (← (← IO.getStdin).read 1).toList with
  | [] => return sofar.reverse
  | byte :: _ =>
    if byte = Console.lineFeed then return (byte :: sofar).reverse
    readLine (byte :: sofar)

/-- Write the part of the output behind the first `delivered` bytes. -/
def deliver (e : Execution) (delivered : Nat) : IO Unit := do
  let output := e.system.console.output
  let stream ← IO.getStdout
  stream.write (output.extract delivered output.size)
  stream.flush

/-- Write the events that a threshold shows. -/
def showLog (threshold : Threshold) (events : List Event) : IO Unit :=
  events.forM fun event => do
    if threshold.shows event.level then
      IO.eprintln ("[" ++ event.level.name ++ "] " ++ event.message)

/-- Whether the next instruction reads a line that is not there yet. -/
def awaitsInput (program : Program) (e : Execution) : Bool :=
  e.system.console.input.isEmpty &&
    match program.instructions[e.system.machine.registers.ip]? with
    | some (.system .readNumber) | some (.system .readCharacter) => true
    | _ => false

/-- How much output may be pending. -/
def pendingLimit : Nat := 8192

/-- Run to the end, given how much output has been delivered. -/
partial def runToEnd (program : Program) (e : Execution) (delivered : Nat) :
    IO (Execution × Outcome) := do
  match e.outcome with
  | some outcome =>
    deliver e delivered
    return (e, outcome)
  | none =>
    let written := e.system.console.output.size
    if awaitsInput program e then
      deliver e delivered
      let line ← readLine []
      runToEnd program ({ e with system.console.input := line }.step program) written
    else if pendingLimit ≤ written - delivered then
      deliver e delivered
      runToEnd program (e.step program) written
    else
      runToEnd program (e.step program) delivered

/-- Run a job and report on it. -/
def runJob (job : Job) : IO Report := do
  let (e, outcome) ← runToEnd job.loaded.program (job.start []) 0
  return { job.report e outcome with output := ByteArray.empty }

/-- The report of the command. -/
def run (arguments : List String) : IO Report := do
  match CommandLine.plan arguments with
  | .error report => return report
  | .ok launch =>
    match launch.load (← access launch.path) with
    | .error report => return report
    | .ok job => runJob job

end StackMachine.Command

open StackMachine in
/-- Answer the command line. -/
def main (arguments : List String) : IO UInt32 := do
  let threshold := ((← IO.getEnv "WINZIG_LOG").map Threshold.read).getD Threshold.default
  let report ← Command.run arguments
  (← IO.getStdout).write report.output
  Command.showLog threshold report.log
  let newline := if report.complaint.isEmpty || report.complaint.endsWith "\n" then "" else "\n"
  IO.eprint (report.complaint ++ newline)
  return UInt32.ofNat report.exit

import StackMachine.Error
import StackMachine.Machine.Registers

/-!
# The log

Loading and running are observed through events.  An event has a level and a message; a threshold
says which levels are shown.

* `Event`, with `Event.level` and `Event.message`.
* `Level`, `Threshold.shows` — which events pass a threshold.
* `Threshold.read` — the threshold that a setting names.
-/

namespace StackMachine

/-- How much an event matters, from most to least. -/
inductive Level where
  | error | warn | info | debug | trace
deriving DecidableEq

namespace Level

/-- All levels, from most to least important. -/
def all : List Level := [.error, .warn, .info, .debug, .trace]

/-- The name of a level. -/
def name : Level → String
  | .error => "ERROR"
  | .warn => "WARN"
  | .info => "INFO"
  | .debug => "DEBUG"
  | .trace => "TRACE"

end Level

/-- Something worth telling about loading or running a program. -/
inductive Event where
  /-- A label was bound again. -/
  | labelRedefined (label : String) (before now : Nat)
  /-- A label stands behind the last instruction. -/
  | labelDangling (label : String)
  /-- A program was loaded. -/
  | loaded (instructions labels : Nat)
  /-- A run begins. -/
  | executing (instructions : Nat)
  /-- A call moved the local base up. -/
  | frameOpened (size : Nat) (base : Int)
  /-- A return moved the local base down. -/
  | frameClosed (size : Nat) (base : Int)
  /-- The run reached the end that the program asked for. -/
  | halted (index : Nat)
  /-- The output that was pending at a fault could not be delivered. -/
  | outputLost
  /-- The registers when all is done. -/
  | finished (registers : Registers)
deriving DecidableEq

namespace Event

/-- The level of an event. -/
def level : Event → Level
  | .labelRedefined .. | .labelDangling _ | .outputLost => .warn
  | .loaded .. | .executing _ | .halted _ | .finished _ => .debug
  | .frameOpened .. | .frameClosed .. => .trace

/-- What is logged for an event. -/
def message : Event → String
  | .labelRedefined label before now =>
    "label `" ++ label ++ "` redefined: " ++ toString before ++ " -> " ++ toString now
  | .labelDangling label => "label `" ++ label ++ "` is not followed by an instruction"
  | .loaded instructions labels =>
    "loaded " ++ toString instructions ++ " instructions, " ++ toString labels ++ " labels"
  | .executing instructions => "executing " ++ toString instructions ++ " instructions"
  | .frameOpened size base => "open frame " ++ toString size ++ ": LBR=" ++ toString base
  | .frameClosed size base => "close frame " ++ toString size ++ ": LBR=" ++ toString base
  | .halted index => "halted at " ++ toString index
  | .outputLost => "output lost after fault: " ++ MachineError.outputClosed.message
  | .finished registers => "final registers: " ++ registers.text

end Event

/-- The least important level that is shown, or nothing to show no event at all. -/
abbrev Threshold := Option Level

namespace Threshold

/-- Whether events of a level are shown. -/
def shows (threshold : Threshold) (level : Level) : Bool :=
  match threshold with
  | none => false
  | some least => Level.all.idxOf level ≤ Level.all.idxOf least

/-- The threshold without a setting. -/
def default : Threshold := some .warn

/-- The threshold that a setting names, in any letter case.  Any other setting shows nothing. -/
def read (setting : String) : Threshold :=
  Level.all.find? fun level => level.name == setting.toUpper

end Threshold

end StackMachine

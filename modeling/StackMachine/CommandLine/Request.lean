import StackMachine.Text.Plain

/-!
# Requests

What the arguments of the command line ask for.  Arguments are read from left to right; help and
version are answered as soon as they are met, and so is every mistake but one: an empty path is
noticed only when an option follows that is known, or when the arguments end.

* `Request` — what can be asked for.
* `UsageError`, `UsageError.message` — the mistakes.
* `Request.ofArguments` — the request of a list of arguments.
-/

namespace StackMachine

/-- What the command line asks for. -/
inductive Request where
  /-- Explain the options. -/
  | help
  /-- Tell the version. -/
  | version
  /-- Explain the form of the command line, since no program is named. -/
  | usage
  /-- Run the program in a file, with the trace on or off. -/
  | run (path : String) (trace : Bool)
deriving DecidableEq

/-- The options of the command line. -/
inductive Switch where
  | debug | help | version
deriving DecidableEq

/-- A mistake on the command line. -/
inductive UsageError where
  /-- An option that does not exist, or a second path. -/
  | unexpectedArgument (argument : String)
  /-- A value for an option that takes none. -/
  | unexpectedValue (value : String) (option : Switch)
  /-- An option that is given twice. -/
  | repeated (option : Switch)
  /-- An empty path. -/
  | emptyPath
deriving DecidableEq

namespace Switch

/-- All options. -/
def all : List Switch := [.debug, .help, .version]

/-- The long name of an option. -/
def long : Switch → String
  | .debug => "debug"
  | .help => "help"
  | .version => "version"

/-- The letter of an option. -/
def letter : Switch → Char
  | .debug => 'd'
  | .help => 'h'
  | .version => 'V'

end Switch

/-- What is reported for a mistake.  What was typed is repeated as plain text. -/
def UsageError.message : UsageError → String
  | .unexpectedArgument argument =>
    "error: unexpected argument '" ++ Plain.text argument ++ "' found"
  | .unexpectedValue value option =>
    "error: unexpected value '" ++ Plain.text value ++ "' for '--" ++ option.long ++
      "' found; no more were expected"
  | .repeated option =>
    "error: the argument '--" ++ option.long ++ "' cannot be used multiple times"
  | .emptyPath => "error: a value is required for '[PROGRAM]' but none was supplied"

/-- What the arguments read so far have settled. -/
structure Settings where
  /-- Whether the trace is asked for. -/
  debug : Bool
  /-- The path of the program, once it is given. -/
  path : Option String
  /-- Whether all further arguments are paths. -/
  optionsEnded : Bool

/-- Why no further argument is read. -/
inductive Stop where
  /-- The request is settled. -/
  | settled (request : Request)
  /-- A mistake was made. -/
  | mistaken (error : UsageError)

namespace Settings

/-- Nothing is settled. -/
def initial : Settings := ⟨false, none, false⟩

/-- The path that was given must not be empty. -/
def checkPath (settings : Settings) : Except Stop Unit :=
  if settings.path = some "" then throw (.mistaken .emptyPath) else pure ()

/-- Read an option. -/
def addSwitch (settings : Settings) (switch : Switch) : Except Stop Settings := do
  settings.checkPath
  match switch with
  | .debug =>
    if settings.debug then throw (.mistaken (.repeated .debug))
    return { settings with debug := true }
  | .help => throw (.settled .help)
  | .version => throw (.settled .version)

/-- Read an option that is given by its letter. -/
def addLetter (settings : Settings) (letter : Char) : Except Stop Settings :=
  match Switch.all.find? (·.letter == letter) with
  | some switch => settings.addSwitch switch
  | none => throw (.mistaken (.unexpectedArgument ("-" ++ letter.toString)))

/-- Read an option that is given by its long name, with a value behind an equals sign or without. -/
def addLong (settings : Settings) (text : List Char) : Except Stop Settings :=
  let name := String.ofList (text.takeWhile (· ≠ '='))
  match Switch.all.find? (·.long == name), text.dropWhile (· ≠ '=') with
  | some switch, [] => settings.addSwitch switch
  | some switch, _ :: value =>
    throw (.mistaken (.unexpectedValue (String.ofList value) switch))
  | none, _ => throw (.mistaken (.unexpectedArgument ("--" ++ name)))

/-- Read a path. -/
def addPath (settings : Settings) (path : String) : Except Stop Settings :=
  match settings.path with
  | none => return { settings with path := some path }
  | some _ => throw (.mistaken (.unexpectedArgument path))

/-- Read one argument.  Two dashes alone end the options, and a single dash is a path. -/
def add (settings : Settings) (argument : String) : Except Stop Settings :=
  if settings.optionsEnded then settings.addPath argument
  else
    match argument.toList with
    | ['-', '-'] => return { settings with optionsEnded := true }
    | '-' :: '-' :: text => settings.addLong text
    | '-' :: letter :: letters => (letter :: letters).foldlM addLetter settings
    | _ => settings.addPath argument

/-- The request when there are no more arguments. -/
def request (settings : Settings) : Except Stop Request := do
  settings.checkPath
  match settings.path with
  | some path => return .run path settings.debug
  | none => return .usage

end Settings

/-- The request of a list of arguments. -/
def Request.ofArguments (arguments : List String) : Except UsageError Request :=
  match arguments.foldlM Settings.add Settings.initial >>= Settings.request with
  | .ok request => .ok request
  | .error (.settled request) => .ok request
  | .error (.mistaken error) => .error error

end StackMachine

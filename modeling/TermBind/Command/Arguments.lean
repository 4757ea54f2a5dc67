import TermBind.Path

/-! What the arguments of the program ask for. -/
namespace TermBind.Command

inductive Verb where
  | generate
  | check
  | bindings
deriving DecidableEq, Repr, Inhabited

namespace Verb

def name : Verb → String
  | .generate => "generate"
  | .check => "check"
  | .bindings => "bindings"

def all : List Verb := [.generate, .check, .bindings]

def ofName? (name : String) : Option Verb := all.find? fun verb => verb.name == name

end Verb

inductive Flag where
  | verbose
  | help
  | version
deriving DecidableEq, Repr

/-- An option that takes a value. -/
inductive Setting where
  | config
  | outDirectory
  | report
  | output
deriving DecidableEq, Repr

inductive Switch where
  | flag (flag : Flag)
  | setting (setting : Setting)
deriving DecidableEq, Repr

namespace Switch

def all : List Switch :=
  [.setting .config, .setting .outDirectory, .setting .report, .setting .output, .flag .verbose,
    .flag .help, .flag .version]

def letter : Switch → Char
  | .flag .verbose => 'v'
  | .flag .help => 'h'
  | .flag .version => 'V'
  | .setting .config => 'c'
  | .setting .outDirectory => 'd'
  | .setting .report => 'r'
  | .setting .output => 'o'

def word : Switch → String
  | .flag .verbose => "verbose"
  | .flag .help => "help"
  | .flag .version => "version"
  | .setting .config => "config"
  | .setting .outDirectory => "out-dir"
  | .setting .report => "report"
  | .setting .output => "output"

/-- An option belongs to some commands, or to the program alone, where no command is given yet. -/
def isOffered (level : Option Verb) : Switch → Bool
  | .flag .version => level.isNone
  | .setting .outDirectory => level == some .generate
  | .setting .report => level == some .generate
  | .setting .output => level == some .check
  | _ => true

def ofLetter? (level : Option Verb) (letter : Char) : Option Switch :=
  all.find? fun switch => switch.isOffered level && switch.letter == letter

def ofWord? (level : Option Verb) (word : String) : Option Switch :=
  all.find? fun switch => switch.isOffered level && switch.word == word

def display (switch : Switch) : String := "--" ++ switch.word

end Switch

inductive UsageProblem where
  | noCommand
  | unknownCommand (text : String)
  | unexpectedArgument (text : String)
  | missingValue (switch : Switch)
  | unexpectedValue (switch : Switch) (text : String)
  | repeatedSwitch (switch : Switch)
deriving DecidableEq, Repr

def UsageProblem.message : UsageProblem → String
  | .noCommand => "a command is required but none was given"
  | .unknownCommand text => s!"unrecognized command '{text}'"
  | .unexpectedArgument text => s!"unexpected argument '{text}' found"
  | .missingValue switch => s!"a value is required for '{switch.display}' but none was supplied"
  | .unexpectedValue switch text =>
    s!"unexpected value '{text}' for '{switch.display}' found; no more were expected"
  | .repeatedSwitch switch => s!"the argument '{switch.display}' cannot be used multiple times"

/-- Why nothing is to be run. -/
inductive Ending where
  | help (verb : Option Verb)
  | version
  | misuse (problem : UsageProblem)
deriving DecidableEq, Repr

inductive Task where
  | generate (outDirectory report : Option Path)
  | check (report : Path)
  | bindings
deriving DecidableEq, Repr

structure Invocation where
  config : Option Path := none
  isVerbose : Bool := false
  task : Task
deriving DecidableEq, Repr

/-- The options given before the command, or after it. Each may be given once in either place. -/
structure Given where
  isVerbose : Bool := false
  values : List (Setting × String) := []
deriving DecidableEq, Repr, Inhabited

namespace Given

/-- What the reading of options gives: an option at the end may still wait for its value. -/
abbrev Progress := Except Ending (Given × Option Setting)

def flag (level : Option Verb) (flag : Flag) (given : Given) : Except Ending Given :=
  match flag with
  | .help => .error (.help level)
  | .version => .error .version
  | .verbose =>
    if given.isVerbose then .error (.misuse (.repeatedSwitch (.flag flag)))
    else .ok { given with isVerbose := true }

def setting (setting : Setting) (value : String) (given : Given) : Except Ending Given :=
  if value.isEmpty then .error (.misuse (.missingValue (.setting setting)))
  else if (given.values.lookup setting).isSome then
    .error (.misuse (.repeatedSwitch (.setting setting)))
  else .ok { given with values := given.values ++ [(setting, value)] }

def path? (setting : Setting) (given : Given) : Option Path :=
  (given.values.lookup setting).map Path.mk

/-- Options written as letters. What follows a letter that takes a value is the value. -/
def letters (level : Option Verb) (given : Given) : List Char → Progress
  | [] => .ok (given, none)
  | letter :: rest =>
    match Switch.ofLetter? level letter with
    | none => .error (.misuse (.unexpectedArgument ("-" ++ String.singleton letter)))
    | some (.flag flag) => do letters level (← given.flag level flag) rest
    | some (.setting setting) =>
      match rest with
      | [] => .ok (given, some setting)
      | '=' :: value => return (← given.setting setting (String.ofList value), none)
      | value => return (← given.setting setting (String.ofList value), none)

/-- An option written as a word, perhaps with a value after an equals sign. -/
def word (level : Option Verb) (given : Given) (text : List Char) : Progress :=
  let name := String.ofList (text.takeWhile (· ≠ '='))
  match Switch.ofWord? level name, text.dropWhile (· ≠ '=') with
  | none, _ => .error (.misuse (.unexpectedArgument ("--" ++ name)))
  | some (.flag flag), [] => return (← given.flag level flag, none)
  | some (.flag flag), _ :: value =>
    .error (.misuse (.unexpectedValue (.flag flag) (String.ofList value)))
  | some (.setting setting), [] => .ok (given, some setting)
  | some (.setting setting), _ :: value =>
    return (← given.setting setting (String.ofList value), none)

end Given

/-- The file that a check reports to unless told otherwise. -/
def defaultReport : Path := ⟨"report.json"⟩

def Task.ofGiven (verb : Verb) (given : Given) : Task :=
  match verb with
  | .generate => .generate (given.path? .outDirectory) (given.path? .report)
  | .check => .check ((given.path? .output).getD defaultReport)
  | .bindings => .bindings

/-- Arguments read so far: the command, if it was given, and the options around it. -/
structure Reading where
  verb : Option Verb := none
  outer : Given := {}
  given : Given := {}
deriving DecidableEq, Repr, Inhabited

namespace Reading

/-- An option after the command has precedence over the same one before it. -/
def finish (reading : Reading) : Except Ending Invocation :=
  match reading.verb with
  | none => .error (.misuse .noCommand)
  | some verb =>
    .ok
      { config := (reading.given.path? .config).or (reading.outer.path? .config)
        isVerbose := reading.given.isVerbose || reading.outer.isVerbose
        task := .ofGiven verb reading.given }

/-- Help may be asked for one command. -/
def helpOn : List String → Ending
  | [] => .help none
  | [name] =>
    match Verb.ofName? name with
    | some verb => .help (some verb)
    | none => .misuse (.unknownCommand name)
  | _ :: name :: _ => .misuse (.unknownCommand name)

/-- Neither an option nor the value of one: the command, unless it was given already. -/
def plain (reading : Reading) (text : String) : Except Ending Reading :=
  match reading.verb, Verb.ofName? text with
  | none, some verb => .ok { verb := some verb, outer := reading.given }
  | none, none => .error (.misuse (.unknownCommand text))
  | some _, _ => .error (.misuse (.unexpectedArgument text))

/-- Read the rest of the arguments, the first of which may be the value of an option. -/
def read (reading : Reading) (awaiting : Option Setting) : List String → Except Ending Invocation
  | [] =>
    match awaiting with
    | some setting => .error (.misuse (.missingValue (.setting setting)))
    | none => reading.finish
  | text :: rest =>
    match awaiting, text.toList with
    | some setting, '-' :: _ :: _ => .error (.misuse (.missingValue (.setting setting)))
    | some setting, _ => do
      read { reading with given := ← reading.given.setting setting text } none rest
    | none, ['-', '-'] =>
      match rest with
      | [] => reading.finish
      | next :: _ => .error (.misuse (.unexpectedArgument next))
    | none, '-' :: '-' :: option => do
      let (given, awaiting) ← reading.given.word reading.verb option
      read { reading with given } awaiting rest
    | none, '-' :: letter :: option => do
      let (given, awaiting) ← reading.given.letters reading.verb (letter :: option)
      read { reading with given } awaiting rest
    | none, _ =>
      if reading.verb.isNone && text == "help" then .error (helpOn rest)
      else do read (← reading.plain text) none rest

end Reading

/-- What the arguments of the program ask for. -/
def Invocation.ofArguments (arguments : List String) : Except Ending Invocation :=
  Reading.read {} none arguments

end TermBind.Command

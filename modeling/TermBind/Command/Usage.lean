import TermBind.Command.Arguments

/-! How the program is called. -/
namespace TermBind.Command

def programName : String := "ttlgen"

def programVersion : String := "0.1.0"

def Verb.summary : Verb → String
  | .generate => "Generate sources for every schema binding"
  | .check => "Run the pipeline without writing any sources"
  | .bindings => "List the schema bindings found in the sources"

namespace Switch

def summary : Switch → String
  | .flag .verbose => "Enable verbose output"
  | .flag .help => "Print help"
  | .flag .version => "Print version"
  | .setting .config => "Path to config file (default: ttlgen.toml)"
  | .setting .outDirectory => "Directory for generated sources (overrides the config)"
  | .setting .report => "Output file for report.json"
  | .setting .output => "Output file for report.json [default: report.json]"

/-- The word for the value of an option. -/
def valueName : Switch → String
  | .flag _ => ""
  | .setting .config => " <CONFIG>"
  | .setting .outDirectory => " <OUT_DIR>"
  | .setting .report => " <REPORT>"
  | .setting .output => " <OUTPUT>"

def form (switch : Switch) : String :=
  "-" ++ String.singleton switch.letter ++ ", " ++ switch.display ++ switch.valueName

end Switch

namespace Usage

/-- Entries in two columns. -/
def columns (entries : List (String × String)) : List String :=
  let width := (entries.map fun entry => entry.1.length).foldl max 0
  entries.map fun entry =>
    let gap := String.ofList (List.replicate (width - entry.1.length + 2) ' ')
    "  " ++ entry.1 ++ gap ++ entry.2

def options (level : Option Verb) : List String :=
  "Options:" :: columns ((Switch.all.filter (·.isOffered level)).map fun switch =>
    (switch.form, switch.summary))

def commands : List String :=
  "Commands:" :: columns (Verb.all.map (fun verb => (verb.name, verb.summary)) ++
    [("help", "Print this message or the help of the given subcommand(s)")])

/-- Help on the program or on one command. -/
def help : Option Verb → List String
  | none =>
    ["Constants generated from Turtle schemas", "",
      "Usage: " ++ programName ++ " [OPTIONS] <COMMAND>", ""] ++ commands ++ [""] ++ options none
  | some verb =>
    [verb.summary, "", "Usage: " ++ programName ++ " " ++ verb.name ++ " [OPTIONS]", ""] ++
      options (some verb)

def version : String := programName ++ " " ++ programVersion

end Usage
end TermBind.Command

import TermBind.Diagnostic.Code
import TermBind.Text.Template

/-! Source locations and diagnostics. -/
namespace TermBind

structure Location where
  file : String
  line : Option Nat := none
  column : Option Nat := none
deriving DecidableEq, Repr, Inhabited

namespace Location

def ofFile (file : String) : Location := { file }

def ofPosition (file : String) (line column : Nat) : Location :=
  { file, line := some line, column := some column }

/-- File, then line, then column; the column of a location without a line is not shown. -/
def display (location : Location) : String :=
  match location.line, location.column with
  | none, _ => location.file
  | some line, none => s!"{location.file}:{line}"
  | some line, some column => s!"{location.file}:{line}:{column}"

instance : Ord Location where
  compare left right :=
    (compare left.file right.file).then
      ((compare left.line right.line).then (compare left.column right.column))

end Location

/-- A reported problem. The message is fixed when the diagnostic is made. -/
structure Diagnostic where
  code : Code
  severity : Severity
  message : String
  arguments : List String
  location : Option Location := none
deriving DecidableEq, Repr, Inhabited

namespace Diagnostic

def of (code : Code) (arguments : List String) : Diagnostic where
  code
  severity := code.defaultSeverity
  message := Template.render code.descriptor.template arguments
  arguments

def withSeverity (severity : Severity) (diagnostic : Diagnostic) : Diagnostic :=
  { diagnostic with severity }

def withLocation (location : Location) (diagnostic : Diagnostic) : Diagnostic :=
  { diagnostic with location := some location }

def withLocationIfAbsent (location : Location) (diagnostic : Diagnostic) : Diagnostic :=
  { diagnostic with location := diagnostic.location.or (some location) }

def locatedAt (location : Option Location) (diagnostic : Diagnostic) : Diagnostic :=
  { diagnostic with location := diagnostic.location.or location }

def display (diagnostic : Diagnostic) : String :=
  let head := s!"{diagnostic.severity.name}[{diagnostic.code.id}] {diagnostic.message}"
  match diagnostic.location with
  | none => head
  | some location => s!"{head} (at {location.display})"

/-- Diagnostics are shown by location (absent first), code and message. -/
structure SortKey where
  location : Option Location
  code : Code
  message : String

instance : Ord SortKey where
  compare left right :=
    (compare left.location right.location).then
      ((compare left.code right.code).then (compare left.message right.message))

def sortKey (diagnostic : Diagnostic) : SortKey :=
  ⟨diagnostic.location, diagnostic.code, diagnostic.message⟩

def isError (diagnostic : Diagnostic) : Bool := diagnostic.severity == .error

end Diagnostic
end TermBind

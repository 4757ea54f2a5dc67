/-! The closed set of problems this library reports, with the stable data of each. -/
namespace TermBind

inductive Severity where
  | info
  | warn
  | error
deriving DecidableEq, Repr, Inhabited

namespace Severity

def name : Severity → String
  | .info => "info"
  | .warn => "warn"
  | .error => "error"

def ofName? : String → Option Severity
  | "info" => some .info
  | "warn" => some .warn
  | "error" => some .error
  | _ => none

/-- The word used when a severity is shown to a person. -/
def word : Severity → String
  | .info => "info"
  | .warn => "warning"
  | .error => "error"

theorem ofName?_name (severity : Severity) : ofName? severity.name = some severity := by
  cases severity <;> rfl

end Severity

inductive Code where
  | notADeclaration
  | incorrectArgumentCount
  | unresolvableDeclaration
  | unresolvedSchemaReference
  | schemaParseError
  | nonLiteralArgument
  | invalidBindingArgument
  | duplicateSchemaKey
  | ambiguousSchemaReference
  | duplicateArtifactName
  | conflictingTermName
  | sourceParseError
  | templateError
deriving DecidableEq, Repr, Inhabited

/-- What is fixed about a code: identifier, name, title, message template, severity. -/
structure Descriptor where
  id : String
  name : String
  title : String
  template : String
  severity : Severity := .error

namespace Code

def all : List Code :=
  [.notADeclaration, .incorrectArgumentCount, .unresolvableDeclaration, .unresolvedSchemaReference,
    .schemaParseError, .nonLiteralArgument, .invalidBindingArgument, .duplicateSchemaKey,
    .ambiguousSchemaReference, .duplicateArtifactName, .conflictingTermName, .sourceParseError,
    .templateError]

def descriptor : Code → Descriptor
  | .notADeclaration =>
    { id := "TTL0001", name := "not-a-declaration", title := "Not a type declaration"
      template := "`\x7b0\x7d` is not a type declaration; schema bindings apply to structs, enums and unions." }
  | .incorrectArgumentCount =>
    { id := "TTL0002", name := "incorrect-argument-count"
      title := "Incorrect number of arguments to schema binding"
      template := "Incorrect number of arguments to schema binding annotation. (\x7b0\x7d!=3)" }
  | .unresolvableDeclaration =>
    { id := "TTL0003", name := "unresolvable-declaration", title := "Cannot resolve declared type"
      template := "Cannot resolve declared type \x7b0\x7d." }
  | .unresolvedSchemaReference =>
    { id := "TTL0004", name := "unresolved-schema-reference", title := "Cannot find linked schema document"
      template := "Cannot find linked schema document \x7b0\x7d." }
  | .schemaParseError =>
    { id := "TTL0005", name := "schema-parse-error", title := "Schema document failed to parse"
      template := "Schema document \x7b0\x7d failed to parse: \x7b1\x7d" }
  | .nonLiteralArgument =>
    { id := "TTL0006", name := "non-literal-argument", title := "Schema binding argument is not a literal"
      template := "Argument \x7b0\x7d of schema binding annotation must be a literal, found `\x7b1\x7d`." }
  | .invalidBindingArgument =>
    { id := "TTL0007", name := "invalid-binding-argument", title := "Invalid schema binding argument"
      template := "Invalid schema binding on \x7b0\x7d: \x7b1\x7d" }
  | .duplicateSchemaKey =>
    { id := "TTL0008", name := "duplicate-schema-key", title := "Duplicate schema document key"
      template := "Schema document key \x7b0\x7d is provided by more than one file: \x7b1\x7d" }
  | .ambiguousSchemaReference =>
    { id := "TTL0009", name := "ambiguous-schema-reference", title := "Ambiguous schema document reference"
      template := "Schema document \x7b0\x7d is ambiguous: more than one file has that name." }
  | .duplicateArtifactName =>
    { id := "TTL0010", name := "duplicate-artifact-name", title := "Duplicate generated artifact name"
      template := "Generated artifact \x7b0\x7d would be produced by more than one declaration: \x7b1\x7d" }
  | .conflictingTermName =>
    { id := "TTL0011", name := "conflicting-term-name", title := "Schema terms map to the same constant"
      template := "Schema terms \x7b1\x7d all map to the constant \x7b0\x7d." }
  | .sourceParseError =>
    { id := "TTL0012", name := "source-parse-error", title := "Source file failed to parse"
      template := "Source file \x7b0\x7d failed to parse: \x7b1\x7d" }
  | .templateError =>
    { id := "TTL0013", name := "template-error", title := "Failed to render generated source"
      template := "Failed to render generated source for \x7b0\x7d: \x7b1\x7d" }

def id (code : Code) : String := code.descriptor.id

def name (code : Code) : String := code.descriptor.name

def defaultSeverity (code : Code) : Severity := code.descriptor.severity

/-- The place of a code in `all`; codes are ordered by it. -/
def position (code : Code) : Nat := all.idxOf code

def ofName? (name : String) : Option Code := all.find? fun code => code.name == name

instance : Ord Code := ⟨fun left right => compare left.position right.position⟩

theorem mem_all (code : Code) : code ∈ all := by cases code <;> simp [all]

end Code
end TermBind

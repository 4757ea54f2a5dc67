import TermBind.Collection.Ascending
import TermBind.Diagnostic.Basic
import TermBind.Path

/-! Settings of a project. -/
namespace TermBind

structure BindingSettings where
  annotationName : String := "ttlgen::from_ttl"
  sourceRoot : Path := ⟨"src"⟩
deriving DecidableEq, Repr, Inhabited

structure SchemaSettings where
  extension : String := "ttl"
  directories : List Path := [⟨"schemas"⟩]
deriving DecidableEq, Repr, Inhabited

structure OutputSettings where
  artifactSuffix : String := ".g.rs"
  directory : Path := ⟨"src/generated"⟩
deriving DecidableEq, Repr, Inhabited

/-- Severities by the names of codes, ascending; names that no code has are kept. -/
structure SeverityOverrides where
  entries : List (String × Severity) := []
deriving DecidableEq, Repr, Inhabited

namespace SeverityOverrides

def ofList (entries : List (String × Severity)) : SeverityOverrides :=
  ⟨Collection.lastByKey entries⟩

def severityOf (overrides : SeverityOverrides) (code : Code) (fallback : Severity) : Severity :=
  (overrides.entries.lookup code.name).getD fallback

def set (overrides : SeverityOverrides) (code : Code) (severity : Severity) : SeverityOverrides :=
  ofList (overrides.entries ++ [(code.name, severity)])

def apply (overrides : SeverityOverrides) (diagnostic : Diagnostic) : Diagnostic :=
  diagnostic.withSeverity (overrides.severityOf diagnostic.code diagnostic.severity)

end SeverityOverrides

structure Config where
  binding : BindingSettings := {}
  schema : SchemaSettings := {}
  output : OutputSettings := {}
  severity : SeverityOverrides := {}
  projectRoot : Path := ⟨""⟩
deriving DecidableEq, Repr, Inhabited

namespace Config

/-- The name that a file of settings has by default. -/
def fileName : String := "ttlgen.toml"

/-- Relative paths are below the root of the project. -/
def resolve (config : Config) (path : Path) : Path :=
  if path.isAbsolute then path else config.projectRoot.join path

end Config
end TermBind

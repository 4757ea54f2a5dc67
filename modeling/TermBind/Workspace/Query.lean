import TermBind.Incremental.Program
import TermBind.Output

/-! The inputs of an evaluation and the queries that are remembered about them. -/
namespace TermBind.Workspace

abbrev FileId := Nat

/-- A file has a path and a text; a workspace has lists of files; settings are one input. -/
inductive Field where
  | sourcePath (file : FileId)
  | sourceText (file : FileId)
  | schemaPath (file : FileId)
  | schemaText (file : FileId)
  | sources
  | schemas
  | config
deriving DecidableEq, Repr

@[reducible] def Field.Value : Field → Type
  | .sourcePath _ => Path
  | .sourceText _ => String
  | .schemaPath _ => Path
  | .schemaText _ => String
  | .sources => List FileId
  | .schemas => List FileId
  | .config => Config

/-- Schema files by key: the file of each key that one file has, and the paths of the files of every
other key. -/
structure SchemaIndex where
  documents : List (String × FileId) := []
  duplicates : List (String × List Path) := []
deriving DecidableEq, Repr, Inhabited

inductive Query where
  | loadSchema (file : FileId)
  | schemaIndex
  | scanSource (file : FileId)
  | joinBinding (binding : Binding)
  | generateBinding (binding : Binding)
  | pipeline
deriving DecidableEq, Repr

namespace Query

@[reducible] def Result : Query → Type
  | .loadSchema _ => Outcome Document
  | .schemaIndex => SchemaIndex
  | .scanSource _ => List (Outcome ScannedBinding)
  | .joinBinding _ => Outcome JoinedUnit
  | .generateBinding _ => Outcome Artifact
  | .pipeline => Output

def rank : Query → Nat
  | .loadSchema _ => 0
  | .schemaIndex => 0
  | .scanSource _ => 0
  | .joinBinding _ => 1
  | .generateBinding _ => 2
  | .pipeline => 3

end Query

@[reducible] def signature : Incremental.Signature := ⟨Field, Field.Value, Query, Query.Result, Query.rank⟩

end TermBind.Workspace

import TermBind.Incremental.Engine
import TermBind.Workspace.Rules

/-! A workspace that is edited and evaluated in turns. -/
namespace TermBind.Workspace

open Incremental

/-- What is remembered, and how many source and schema files there have been. -/
structure Session where
  store : Store signature
  sourceCount : Nat := 0
  schemaCount : Nat := 0

namespace Session

def noValues : (field : Field) → field.Value
  | .sourcePath _ => ⟨""⟩
  | .sourceText _ => ""
  | .schemaPath _ => ⟨""⟩
  | .schemaText _ => ""
  | .sources => []
  | .schemas => []
  | .config => {}

def empty : Session := { store := { values := noValues, stamps := fun _ => 1 } }

/-- The value of a field. -/
def value (session : Session) (field : Field) : field.Value := session.store.values field

def create (session : Session) (field : Field) (value : field.Value) : Session :=
  { session with store := session.store.create field value }

/-- Set a field. -/
def set (session : Session) (field : Field) (value : field.Value) : Session :=
  { session with store := session.store.set field value }

/-- Make a source file, which is not yet among the sources. -/
def newSource (session : Session) (path : Path) (text : String) : Session :=
  let file := session.sourceCount
  { (session.create (.sourcePath file) path).create (.sourceText file) text with
    sourceCount := file + 1 }

def newSchema (session : Session) (path : Path) (text : String) : Session :=
  let file := session.schemaCount
  { (session.create (.schemaPath file) path).create (.schemaText file) text with
    schemaCount := file + 1 }

/-- A workspace of files. -/
def ofFiles (config : Config) (sources schemas : List (Path × String)) : Session :=
  let made := sources.foldl (fun session file => session.newSource file.1 file.2) empty
  let made := schemas.foldl (fun session file => session.newSchema file.1 file.2) made
  ((made.create .sources (List.range made.sourceCount)).create .schemas
    (List.range made.schemaCount)).create .config config

def addSource (session : Session) (path : Path) (text : String) : Session :=
  (session.newSource path text).set .sources (session.value .sources ++ [session.sourceCount])

def addSchema (session : Session) (path : Path) (text : String) : Session :=
  (session.newSchema path text).set .schemas (session.value .schemas ++ [session.schemaCount])

/-- Take the source file at an index out of the workspace. -/
def removeSource (session : Session) (index : Nat) : Session :=
  session.set .sources ((session.value .sources).eraseIdx index)

def removeSchema (session : Session) (index : Nat) : Session :=
  session.set .schemas ((session.value .schemas).eraseIdx index)

def reverse (session : Session) : Session :=
  (session.set .sources (session.value .sources).reverse).set .schemas
    (session.value .schemas).reverse

/-- The result of a query, and the workspace that remembers it. -/
def fetch [Wording] (query : Query) (session : Session) : query.Result × Session :=
  let (result, store) := (rules.fetch query).run session.store
  (result.value, { session with store })

end Session
end TermBind.Workspace

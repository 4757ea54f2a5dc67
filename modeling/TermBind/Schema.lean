import TermBind.Graph
import TermBind.Outcome
import TermBind.Path
import TermBind.Turtle.Statement
import TermBind.Wording

/-! Loading schema documents, and the file names that mark and identify them. -/
namespace TermBind.Schema

/-- The blank nodes seen so far, in order of appearance; a node's label is its place. -/
abbrev Labels := List Turtle.BlankId

namespace Labels

def insert (id : Turtle.BlankId) (labels : Labels) : Labels :=
  if labels.contains id then labels else labels ++ [id]

def label (labels : Labels) (id : Turtle.BlankId) : String := s!"b{labels.idxOf id}"

def noteTerm (labels : Labels) : Turtle.Term → Labels
  | .blank id => labels.insert id
  | _ => labels

/-- The subject of a statement appears before its object. -/
def note (labels : Labels) (statement : Turtle.Statement) : Labels :=
  (labels.noteTerm statement.subject).noteTerm statement.object

def ofStatements (statements : List Turtle.Statement) : Labels := statements.foldl note []

end Labels

def node (labels : Labels) : Turtle.Term → Node
  | .iri text => .iri text
  | .blank id => .blank (labels.label id)
  | .literal value datatype language => .literal value datatype language

def triple (labels : Labels) (statement : Turtle.Statement) : Triple :=
  ⟨node labels statement.subject, statement.predicate, node labels statement.object⟩

/-- The triples of statements, with blank nodes labelled by first appearance. -/
def triples (statements : List Turtle.Statement) : List Triple :=
  statements.map (triple (Labels.ofStatements statements))

/-- Read a document; the first fault fails all of it. -/
def load [Wording] (text key : String) : Outcome Document :=
  match Turtle.statements? text with
  | some statements => .ok (Document.ofTriples key (triples statements))
  | none => .fail (Diagnostic.of .schemaParseError [key, Wording.ofDocument text])

def lower (text : String) : String := String.ofList (text.toList.map Char.toLower)

/-- Whether a file has the extension, in any case; the extension may be given with dots in front. -/
def isSchemaFile (path : Path) (extension : String) : Bool :=
  let wanted := String.ofList (extension.toList.dropWhile (· == '.'))
  path.extension?.any fun found => lower found == lower wanted

def documentKey? (path : Path) : Option String := path.fileName?

end TermBind.Schema

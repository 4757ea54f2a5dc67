import TermBind.Constant
import TermBind.Digest
import TermBind.Graph
import TermBind.Outcome
import TermBind.Text.Quoted

/-! Generated source text: one constant for each term of a document below the prefix URI. -/
namespace TermBind

structure Artifact where
  name : String
  text : String
  binding : Binding
deriving DecidableEq, Repr, Inhabited

/-- What a report says about an artifact. -/
structure ArtifactRecord where
  name : String
  binding : String
  document : String
  sha256 : String
deriving DecidableEq, Repr, Inhabited

namespace Artifact

def digest (artifact : Artifact) : String := Digest.ofText artifact.text

def record (artifact : Artifact) : ArtifactRecord where
  name := artifact.name
  binding := artifact.binding.qualifiedName.display
  document := artifact.binding.documentKey
  sha256 := artifact.digest

/-- The file of a declaration; the mark of a raw identifier is left out. -/
def nameFor (binding : Binding) (suffix : String) : String :=
  match binding.typeName.toList with
  | 'r' :: '#' :: rest => String.ofList rest ++ suffix
  | _ => binding.typeName ++ suffix

def commentIri : String := "http://www.w3.org/2000/01/rdf-schema#comment"

def labelIri : String := "http://www.w3.org/2000/01/rdf-schema#label"

/-- Constants that every artifact has; no term may map onto them. -/
def reservedNames : List String := ["PREFIX", "PREFIX_URI"]

def splitBlanks : List Char → List (List Char)
  | [] => [[]]
  | c :: rest =>
    if Unicode.isWhitespace c then [] :: splitBlanks rest
    else
      match splitBlanks rest with
      | [] => [[c]]
      | word :: others => (c :: word) :: others

/-- The words of a text on one line. -/
def oneLine (text : String) : String :=
  let words := (splitBlanks text.toList).filter fun word => !word.isEmpty
  String.ofList (List.intercalate [' '] words)

/-- The first comment that is not blank, else the first such label. -/
def documentation? (schema : Document) (iri : String) : Option String :=
  ((schema.literals iri commentIri ++ schema.literals iri labelIri).map oneLine).find?
    fun text => !text.isEmpty

/-- The part of an IRI below a prefix. -/
def localName? (prefixUri iri : String) : Option String :=
  if prefixUri.toList.isPrefixOf iri.toList then
    some (String.ofList (iri.toList.drop prefixUri.toList.length))
  else none

/-- The constant names of the terms below a prefix, ascending, each with its IRIs. -/
def termNames (prefixUri : String) (schema : Document) : List (String × List String) :=
  Collection.groups <| schema.iris.filterMap fun iri =>
    ((localName? prefixUri iri).bind Constant.ofLocal?).map fun name => (name, iri)

def isConflict (entry : String × List String) : Bool :=
  1 < entry.2.length || reservedNames.contains entry.1

def conflict (entry : String × List String) : Diagnostic :=
  Diagnostic.of .conflictingTermName [entry.1, ", ".intercalate entry.2]

def constantLine (name value : String) : String :=
  "    pub const " ++ name ++ ": &'static str = " ++ Quoted.encode value ++ ";\n"

def termText (schema : Document) (name iri : String) : String :=
  let doc :=
    match documentation? schema iri with
    | some text => "    /// " ++ text ++ "\n"
    | none => ""
  "\n" ++ doc ++ constantLine name iri

def header (binding : Binding) : String :=
  "// @generated by ttlgen from " ++ binding.documentKey ++ ". Do not edit.\n\nimpl " ++
    binding.typeName ++ " \x7b\n    /// Preferred prefix for terms of `" ++ binding.documentKey ++
    "`\n" ++ constantLine "PREFIX" binding.prefixLabel ++
    "\n    /// Namespace shared by the terms below\n" ++
    constantLine "PREFIX_URI" binding.prefixUri

/-- The text for a request, or one diagnostic for each constant that terms contend for. -/
def generate (binding : Binding) (schema : Document) : Outcome String :=
  let entries := termNames binding.prefixUri schema
  match Diagnostics.ofList? ((entries.filter isConflict).map conflict) with
  | some diagnostics => .failed diagnostics
  | none =>
    let terms := entries.filterMap fun entry => entry.2.head?.map (termText schema entry.1)
    .ok (header binding ++ String.join terms ++ "\x7d\n")

end Artifact
end TermBind

import TermBind.Iri
import TermBind.Turtle.LanguageTag
import TermBind.Turtle.Token

/-! The statements that Turtle tokens make, in the order in which reading completes them. -/
namespace TermBind.Turtle

/-- A blank node is known by its written label, or by its number if it has none. -/
inductive BlankId where
  | written (label : String)
  | anonymous (number : Nat)
deriving DecidableEq, Repr

inductive Term where
  | iri (text : String)
  | blank (id : BlankId)
  | literal (value datatype : String) (language : Option String)
deriving DecidableEq, Repr

structure Statement where
  subject : Term
  predicate : String
  object : Term
deriving DecidableEq, Repr

def rdf (name : String) : String := "http://www.w3.org/1999/02/22-rdf-syntax-ns#" ++ name

/-- What may stand where a verb can: nothing else, the end of the list, or that and semicolons. -/
inductive Turn where
  | required
  | optional
  | repeated
deriving DecidableEq, Repr

/-- What reading expects next. A finished term goes to the expectation below it. -/
inductive Expectation where
  | subject
  | verb (subject : Term) (turn : Turn)
  | object (subject : Term) (predicate : String)
  | afterObject (subject : Term) (predicate : String)
  | bracketed
  | closing (node : Term)
  | listed
  | item (cell : Term)
  | afterItem (cell : Term)
  | suffix (value : String)
  | datatype (value : String)
  | prefixLabel (dotted : Bool)
  | prefixIri (label : String) (dotted : Bool)
  | baseIri (dotted : Bool)
  | directiveDot
deriving DecidableEq, Repr

/-- Reading so far: the latest statement comes first, and those of the present token are kept
apart. An empty stack is between statements. -/
structure Reader where
  base : Option String := none
  prefixes : List (String × String) := []
  fresh : Nat := 0
  emitted : List Statement := []
  statements : List Statement := []
  stack : List Expectation := []
deriving Repr

namespace Reader

def emit (subject : Term) (predicate : String) (object : Term) (reader : Reader) : Reader :=
  { reader with emitted := ⟨subject, predicate, object⟩ :: reader.emitted }

def freshNode (reader : Reader) : Term × Reader :=
  (.blank (.anonymous reader.fresh), { reader with fresh := reader.fresh + 1 })

def expecting (stack : List Expectation) (reader : Reader) : Reader := { reader with stack }

/-- Hand a term to the expectation on top. -/
def place (turn : Turn) (term : Term) (reader : Reader) : Option Reader :=
  match reader.stack with
  | .subject :: below => some (reader.expecting (.verb term turn :: below))
  | .object subject predicate :: below =>
    some ((reader.emit subject predicate term).expecting (.afterObject subject predicate :: below))
  | .item cell :: below =>
    some ((reader.emit cell (rdf "first") term).expecting (.afterItem cell :: below))
  | _ => none

/-- A finished literal that nothing is added to. -/
def settleLiteral (token : Token) (reader : Reader) : Option Reader :=
  match reader.stack, token with
  | .suffix _ :: _, .tag _ => some reader
  | .suffix _ :: _, .mark .datatype => some reader
  | .suffix value :: below, _ =>
    (reader.expecting below).place .required (.literal value (xsd "string") none)
  | _, _ => some reader

/-- A bracket or list turns out to hold something. -/
def settleOpening (token : Token) (reader : Reader) : Option Reader :=
  match reader.stack with
  | .bracketed :: below =>
    if token == .mark .closeBracket then some reader
    else
      let (node, reader) := reader.freshNode
      some (reader.expecting (.verb node .required :: .closing node :: below))
  | .listed :: below =>
    if token == .mark .closeParen then some reader
    else
      let (cell, reader) := reader.freshNode
      ((reader.expecting below).place .required cell).map fun reader =>
        reader.expecting (.item cell :: reader.stack)
  | .afterItem cell :: below =>
    if token == .mark .closeParen then some reader
    else
      let (next, reader) := reader.freshNode
      some ((reader.emit cell (rdf "rest") next).expecting (.item next :: below))
  | _ => some reader

def nameIri? (reader : Reader) (label part : String) : Option String := do
  let start ← reader.prefixes.lookup label
  let iri := start ++ part
  if Iri.isAbsolute iri then some iri else none

/-- The IRI that a token writes, in the present base and prefixes. -/
def iri? (reader : Reader) : Token → Option String
  | .iri text => Iri.resolve? reader.base text
  | .name label part => reader.nameIri? label part
  | _ => none

/-- A token that begins a subject or an object. -/
def beginTerm (isObject : Bool) (token : Token) (reader : Reader) : Option Reader :=
  match token with
  | .blank label => reader.place .required (.blank (.written label))
  | .mark .openBracket => some (reader.expecting (.bracketed :: reader.stack))
  | .mark .openParen => some (reader.expecting (.listed :: reader.stack))
  | .string value =>
    if isObject then some (reader.expecting (.suffix value :: reader.stack)) else none
  | .number text datatype =>
    if isObject then reader.place .required (.literal text datatype none) else none
  | .word text =>
    if isObject && (text == "true" || text == "false") then
      reader.place .required (.literal text (xsd "boolean") none)
    else none
  | token => (reader.iri? token).bind fun iri => reader.place .required (.iri iri)

def verb? (reader : Reader) : Token → Option String
  | .word "a" => some (rdf "type")
  | token => reader.iri? token

def directive? (token : Token) : Option Expectation :=
  match token with
  | .tag "prefix" => some (.prefixLabel true)
  | .tag "base" => some (.baseIri true)
  | .word text =>
    let word := String.ofList (text.toList.map Char.toLower)
    if word == "prefix" then some (.prefixLabel false)
    else if word == "base" then some (.baseIri false)
    else none
  | _ => none

def afterDirective (dotted : Bool) : List Expectation :=
  if dotted then [.directiveDot] else []

/-- The end of a list of verbs: of a statement, or of a bracket whose node is then finished. -/
def finishVerbs (token : Token) (below : List Expectation) (reader : Reader) :
    Option Reader :=
  match token, below with
  | .mark .dot, [] => some (reader.expecting [])
  | .mark .closeBracket, .closing node :: below => (reader.expecting below).place .optional node
  | _, _ => none

def advance (token : Token) (reader : Reader) : Option Reader :=
  match reader.stack with
  | [] =>
    match directive? token with
    | some expectation => some (reader.expecting [expectation])
    | none => beginTerm false token (reader.expecting [.subject])
  | .subject :: _ => none
  | .verb subject turn :: below =>
    match verb? reader token with
    | some predicate => some (reader.expecting (.object subject predicate :: below))
    | none =>
      if turn == .required then none
      else if turn == .repeated && token == .mark .semicolon then some reader
      else finishVerbs token below reader
  | .object _ _ :: _ | .item _ :: _ => beginTerm true token reader
  | .afterObject subject predicate :: below =>
    match token with
    | .mark .comma => some (reader.expecting (.object subject predicate :: below))
    | .mark .semicolon => some (reader.expecting (.verb subject .repeated :: below))
    | token => finishVerbs token below reader
  | .bracketed :: below =>
    let (node, reader) := reader.freshNode
    (reader.expecting below).place .required node
  | .closing _ :: _ => none
  | .listed :: below => (reader.expecting below).place .required (.iri (rdf "nil"))
  | .afterItem cell :: below =>
    let reader := reader.emit cell (rdf "rest") (.iri (rdf "nil"))
    some (reader.expecting below)
  | .suffix value :: below =>
    match token with
    | .tag text =>
      let tag := String.ofList (text.toList.map Char.toLower)
      if LanguageTag.isWellFormed tag then
        (reader.expecting below).place .required (.literal value (rdf "langString") (some tag))
      else none
    | _ => some (reader.expecting (.datatype value :: below))
  | .datatype value :: below =>
    (reader.iri? token).bind fun datatype =>
      (reader.expecting below).place .required (.literal value datatype none)
  | .prefixLabel dotted :: _ =>
    match token with
    | .name label "" => some (reader.expecting [.prefixIri label dotted])
    | _ => none
  | .prefixIri label dotted :: _ =>
    match token with
    | .iri text =>
      (Iri.resolve? reader.base text).map fun iri =>
        { reader with prefixes := (label, iri) :: reader.prefixes, stack := afterDirective dotted }
    | _ => none
  | .baseIri dotted :: _ =>
    match token with
    | .iri text =>
      (Iri.resolve? reader.base text).map fun iri =>
        { reader with base := some iri, stack := afterDirective dotted }
    | _ => none
  | .directiveDot :: _ => if token == .mark .dot then some (reader.expecting []) else none

/-- The statements that one token completes come from the inside out. -/
def collect (reader : Reader) : Reader :=
  { reader with statements := reader.emitted.reverse ++ reader.statements, emitted := [] }

/-- Read one more token, or nothing if it may not stand there. -/
def read (reader : Reader) (token : Token) : Option Reader := do
  let reader ← settleLiteral token reader
  let reader ← settleOpening token reader
  let reader ← advance token reader
  some reader.collect

end Reader

/-- The statements of a document; nothing if it breaks a rule or is cut off. -/
def statements? (text : String) : Option (List Statement) := do
  let tokens ← tokens text
  let reader ← tokens.foldlM Reader.read {}
  if reader.stack.isEmpty then some reader.statements.reverse else none

end TermBind.Turtle

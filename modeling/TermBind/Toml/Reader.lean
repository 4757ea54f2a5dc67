import TermBind.Data.Record
import TermBind.Toml.Scalar
import TermBind.Toml.Table

/-! Reading TOML documents. -/
namespace TermBind.Toml

open Data

abbrev Reader := StateT (List Char) Option

variable {α : Type}

private def ahead : Reader (Option Char) := return (← get).head?

private def mark (c : Char) : Reader Unit := do
  match ← get with
  | next :: rest => if next = c then set rest else failure
  | [] => failure

private def optionalMark (c : Char) : Reader Bool := do
  let found := (← ahead) == some c
  if found then mark c
  return found

private def skipBlanks : Reader Unit := modify (·.dropWhile isBlank)

private def string : Reader String := StateT.mk string?

private def skipComment : Reader Unit := do
  if (← ahead) == some '#' then modify (·.tail.dropWhile isPlain)

/-- The end of a line or of the text. -/
private def lineEnd : Reader Unit := do
  let text ← get
  match afterBreak? text with
  | some rest => set rest
  | none => if !text.isEmpty then failure

/-- Blanks, comments and line breaks. -/
private def skipLines' (fuel : Nat) : Reader Unit := do
  match fuel with
  | 0 => failure
  | fuel + 1 =>
    skipBlanks
    let text ← get
    if text.head? == some '#' then
      skipComment
      match afterBreak? (← get) with
      | some rest =>
        set rest
        skipLines' fuel
      | none => failure
    else
      match afterBreak? text with
      | some rest =>
        set rest
        skipLines' fuel
      | none => return

private def isBare (c : Char) : Bool := c.isAlphanum || c == '_' || c == '-'

private def simpleKey : Reader String := do
  match ← get with
  | '"' :: rest => do
    let (key, rest) ← basicString? rest
    set rest
    return key
  | '\'' :: rest => do
    let (key, rest) ← literalString? rest
    set rest
    return key
  | text =>
    let (key, rest) := text.span isBare
    if key.isEmpty then failure
    set rest
    return String.ofList key

/-- Keys and brackets may go less deep than this. -/
private def depthLimit : Nat := 80

/-- A key with its path, the names of which are separated by dots. -/
private def dottedKey (depth : Nat) : Reader (List String × String) := do
  match depth with
  | 0 => failure
  | depth + 1 =>
    skipBlanks
    let name ← simpleKey
    skipBlanks
    if ← optionalMark '.' then
      let (path, key) ← dottedKey depth
      return (name :: path, key)
    else return ([], name)

private def key : Reader (List String × String) := dottedKey (depthLimit - 1)

private def word (text : String) : Reader Unit := do
  let rest ← get
  if text.toList.isPrefixOf rest then set (rest.drop text.length) else failure

private def items (reader : Reader Value) (fuel : Nat) : Reader (List Value) := do
  match fuel with
  | 0 => failure
  | fuel + 1 =>
    skipLines' ((← get).length + 1)
    if ← optionalMark ']' then return []
    let value ← reader
    skipLines' ((← get).length + 1)
    if ← optionalMark ',' then return value :: (← items reader fuel)
    mark ']'
    return [value]

private def pair (reader : Reader Value) : Reader Pair := do
  let (path, key) ← key
  mark '='
  skipBlanks
  return { path, key, value := ← reader }

private def pairs (reader : Reader Value) (fuel : Nat) : Reader (List Pair) := do
  match fuel with
  | 0 => failure
  | fuel + 1 =>
    let first ← pair reader
    skipBlanks
    if ← optionalMark ',' then return first :: (← pairs reader fuel)
    mark '\x7d'
    return [first]

private def inlineTable (reader : Reader Value) : Reader Value := do
  mark '\x7b'
  skipBlanks
  if ← optionalMark '\x7d' then return .record []
  let entries ← putAll (← pairs reader ((← get).length + 1)) []
  return (Entry.table .header entries).toValue

private def number : Reader Value := do
  set (← afterNumber? (← get))
  return .other

/-- A value inside which brackets may go to a depth. -/
private def valueWithin (depth : Nat) : Reader Value := do
  match ← ahead, depth with
  | some '"', _ => return .text (← string)
  | some '\'', _ => return .text (← string)
  | some '[', depth + 1 =>
    mark '['
    return .list (← items (valueWithin depth) ((← get).length + 1))
  | some '\x7b', depth + 1 => inlineTable (valueWithin depth)
  | some 't', _ =>
    word "true"
    return .other
  | some 'f', _ =>
    word "false"
    return .other
  | _, _ => number

private def value : Reader Value := valueWithin (depthLimit - 1)

private inductive Line where
  | blank
  | header (header : Header)
  | pair (pair : Pair)

private def header : Reader Header := do
  mark '['
  if ← optionalMark '[' then
    let (path, key) ← key
    mark ']'
    mark ']'
    return .row path key
  else
    let (path, key) ← key
    mark ']'
    return .table path key

private def line : Reader Line := do
  skipBlanks
  let content ← match ← ahead with
    | none => pure .blank
    | some '#' => pure .blank
    | some '\n' => pure .blank
    | some '\r' => pure .blank
    | some '[' => pure (.header (← header))
    | some _ => pure (.pair (← pair value))
  skipBlanks
  skipComment
  lineEnd
  return content

private def linesWithin (fuel : Nat) : Reader (List Line) := do
  match fuel with
  | 0 => failure
  | fuel + 1 =>
    if (← get).isEmpty then return []
    let first ← line
    return first :: (← linesWithin fuel)

/-- The pairs before the first header, and each header with the pairs under it. -/
private def sections : List Line → List Pair × List (Header × List Pair)
  | [] => ([], [])
  | .blank :: rest => sections rest
  | .pair pair :: rest =>
    let (first, others) := sections rest
    (pair :: first, others)
  | .header header :: rest =>
    let (first, others) := sections rest
    ([], (header, first) :: others)

private def withoutMark : List Char → List Char
  | '\ufeff' :: rest => rest
  | text => text

/-- The value of a document, which is a record. -/
def read? (text : String) : Option Value := do
  let text := withoutMark text.toList
  let (lines, _) ← (linesWithin (text.length + 1)).run text
  let (first, others) := sections lines
  let root ← putAll first []
  let entries ← others.foldlM (fun entries entry => openSection entry.2 entry.1 entries) root
  return (Entry.table .header entries).toValue

/-- A list for a record may be longer than the record; an empty table or list stands for nothing. -/
def dialect : Dialect where
  allowsExtra := true
  isNothing
    | .record [] => true
    | .list [] => true
    | _ => false

end TermBind.Toml

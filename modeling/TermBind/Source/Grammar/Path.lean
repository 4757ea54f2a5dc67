import TermBind.Source.Grammar.Rules

/-! Paths with their generic arguments, and attributes. -/
namespace TermBind.Source.Grammar

/-- The segments of a path without arguments, and whether it begins with a double colon. -/
structure PlainPath where
  segments : List String
  isAbsolute : Bool
  isSpelled : IsSpelled segments
deriving Repr

/-- Words that may stand in a path although they are keywords. -/
def pathWords : List String := ["super", "self", "Self", "crate"]

def atPathSegment (trees : List Tree) : Bool := atName trees || atAnyOf pathWords trees

/-- The name that an identifier denotes: the mark of a raw one is left out. -/
def unmarked (text : String) : String :=
  match text.toList with
  | 'r' :: '#' :: rest => String.ofList rest
  | _ => text

theorem isPlain_unmarked (word : Word) : IsPlain (unmarked word.text).toList := by
  have markless : isIdentifierRest '#' = false := by decide +kernel
  unfold unmarked
  rcases word.isWord with plain | ⟨rest, marked, plain⟩
  · split
    · rename_i rest marked
      rw [marked] at plain
      simpa [markless] using plain.2 '#' (List.mem_cons_self ..)
    · exact plain
  · rw [marked]
    simpa using plain

def PlainPath.ofWords (isAbsolute : Bool) (first : Word) (others : List Word) : PlainPath where
  segments := (first :: others).map fun word => unmarked word.text
  isAbsolute
  isSpelled := ⟨by simp, by simp [isPlain_unmarked]⟩

def plainPath : Reader PlainPath := do
  let isAbsolute ← optionalMark "::"
  if !(← peek atPathSegment) then fail
  let first ← anyWord
  let others ← collect do
    if ← peek (atMark "::") then
      mark "::"
      if ← peek atPathSegment then return some (← anyWord) else fail
    else return none
  return .ofWords isAbsolute first others

def argumentOf (read : Shape × List Tree) : Argument :=
  match read.1 with
  | .literal (.string value) => .literal value
  | .literal (.character value) => .literal (String.singleton value)
  | .literal (.integer digits _) => .literal digits
  | .literal (.float digits) => .literal digits
  | _ => .expression (displayTrees read.2)

private def loneLiteral? (trees : List Tree) : Bool :=
  atLiteral trees &&
    match trees with
    | .punct .. :: _ :: rest => rest.isEmpty
    | _ :: rest => rest.isEmpty
    | [] => false

private def attributeValue (rules : Rules) : Reader Argument := do
  mark "="
  let trees ← ahead
  if loneLiteral? trees then
    let (value, trees) ← tracing literal
    return argumentOf (.literal value, trees)
  else if atMark "#" trees && atGroup .bracket (beyond trees) then fail
  else return argumentOf (← tracing (rules.expression true))

private def groupTrees : List Tree → List Tree
  | .group _ trees _ _ :: _ => trees
  | _ => []

private def unsafePath : PlainPath where
  segments := ["unsafe"]
  isAbsolute := false
  isSpelled := ⟨by simp, by decide +kernel⟩

private def attributeBody (rules : Rules) : Reader Attribute := do
  let path ← if ← peek (atWord "unsafe") then
      word "unsafe"
      pure unsafePath
    else plainPath
  let held ← do
    let trees ← ahead
    match trees with
    | .group .. :: _ =>
      discard anyGroup
      pure (Held.list (groupTrees trees))
    | _ =>
      if atMark "=" trees && !atMark "==" trees && !atMark "=>" trees then
        pure (Held.value (← attributeValue rules))
      else pure Held.nothing
  return { path := path.segments, isAbsolute := path.isAbsolute, held, isSpelled := path.isSpelled }

def outerAttributes (rules : Rules) : Reader (List Attribute) :=
  collect do
    if ← peek (atMark "#") then
      mark "#"
      return some (← inside .bracket (attributeBody rules))
    else return none

def innerAttributes (rules : Rules) : Reader (List Attribute) :=
  collect do
    let trees ← ahead
    if atMark "#" trees && atMark "!" (beyond trees) then
      mark "#"
      mark "!"
      return some (← inside .bracket (attributeBody rules))
    else return none

def skipAttributes (rules : Rules) : Reader Unit := discard (outerAttributes rules)

/-- Statements in braces. -/
def block (rules : Rules) : Reader Unit := inside .brace rules.statements

/-- Statements in braces, after attributes of the block itself. -/
def attributedBlock (rules : Rules) : Reader (List Attribute) :=
  inside .brace do
    let attributes ← innerAttributes rules
    rules.statements
    return attributes

def constArgument (rules : Rules) : Reader Unit := do
  if ← peek atLiteral then discard literal
  else if ← peek atName then discard name
  else if ← peek (atGroup .brace) then discard (attributedBlock rules)
  else fail

private def argumentBounds (rules : Rules) : Reader Unit :=
  repeatWhile do
    if ← peek fun trees => atMark "," trees || atMark ">" trees then return false
    discard (rules.bound false true)
    if ← peek fun trees => atMark "," trees || atMark ">" trees then return false
    mark "+"
    return true

private def genericArgument (rules : Rules) : Reader Unit := do
  let trees ← ahead
  if atLifetime trees && !atMark "+" (beyond trees) then lifetime
  else if atLiteral trees || atGroup .brace trees then constArgument rules
  else
    let shape ← rules.type true
    if shape = .path true then
      if ← optionalMark "=" then
        if ← peek fun trees => atLiteral trees || atGroup .brace trees then constArgument rules
        else rules.anyType
      else if ← optionalMark ":" then argumentBounds rules

def genericArguments (rules : Rules) : Reader Unit := do
  mark "<"
  repeatWhile do
    if ← peek (atMark ">") then return false
    genericArgument rules
    if ← peek (atMark ">") then return false
    mark ","
    return true
  mark ">"

/-- How a segment ends: with nothing, or with arguments in angles or in parentheses. -/
inductive SegmentEnd where
  | bare
  | angles (isEmpty : Bool)
  | parens
deriving DecidableEq, Repr

structure PathShape where
  isQualified : Bool
  isAbsolute : Bool
  ends : List SegmentEnd
deriving Repr

namespace PathShape

/-- Whether no segment has arguments. -/
def isBare (shape : PathShape) : Bool := shape.ends.all (· == .bare)

/-- Whether the last segment has no arguments yet. -/
def endsOpen (shape : PathShape) : Bool :=
  shape.ends.getLast?.any fun last => last == .bare || last == .angles true

/-- Whether a path is one name, with arguments in angles at most. -/
def isPlain (shape : PathShape) : Bool :=
  !shape.isQualified && !shape.isAbsolute && shape.ends.length == 1 && !shape.ends.contains .parens

/-- The path after its last segment took arguments in parentheses and more segments followed. -/
def withParens (shape : PathShape) (further : List SegmentEnd) : PathShape :=
  { shape with ends := shape.ends.dropLast ++ [.parens] ++ further }

end PathShape

private def segmentArguments (rules : Rules) : Reader SegmentEnd := do
  discard (optionalMark "::")
  let isEmpty ← peek fun trees => atMark ">" (beyond trees)
  genericArguments rules
  return .angles isEmpty

private def segment (rules : Rules) (inExpression : Bool) : Reader SegmentEnd := do
  if ← peek (atAnyOf ["super", "self", "crate", "try"]) then
    discard anyWord
    return .bare
  if ← peek (atWord "Self") then discard anyWord else discard name
  let trees ← ahead
  if (!inExpression && atMark "<" trees && !atMark "<=" trees) ||
      (atMark "::" trees && atMark "<" (beyond2 trees)) then
    segmentArguments rules
  else return .bare

def furtherSegments (rules : Rules) (inExpression : Bool) : Reader (List SegmentEnd) :=
  collect do
    let trees ← ahead
    if atMark "::" trees && !atGroup .paren (beyond2 trees) then
      mark "::"
      return some (← segment rules inExpression)
    else return none

def path (rules : Rules) (inExpression : Bool) : Reader PathShape := do
  let isAbsolute ← optionalMark "::"
  let first ← segment rules inExpression
  let others ← furtherSegments rules inExpression
  return { isQualified := false, isAbsolute, ends := first :: others }

/-- A path that may begin with a type in angles. -/
def qualifiedPath (rules : Rules) (inExpression : Bool) : Reader PathShape := do
  if ← peek (atMark "<") then
    mark "<"
    rules.anyType
    if ← optionalWord "as" then discard (path rules false)
    mark ">"
    mark "::"
    let first ← segment rules inExpression
    let others ← collect do
      if ← peek (atMark "::") then
        mark "::"
        return some (← segment rules inExpression)
      else return none
    return { isQualified := true, isAbsolute := false, ends := first :: others }
  else path rules inExpression

end TermBind.Source.Grammar

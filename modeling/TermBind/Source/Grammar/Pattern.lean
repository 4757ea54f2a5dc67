import TermBind.Source.Grammar.Path

/-! Patterns. -/
namespace TermBind.Source.Grammar

variable (rules : Rules)

private def atBar (trees : List Tree) : Bool :=
  atMark "|" trees && !atMark "||" trees && !atMark "|=" trees

/-- A pattern or alternatives of it. -/
def alternatives : Reader PatternShape := do
  let leading ← optionalMark "|"
  let shape ← rules.pattern
  let several ← peek atBar
  repeatWhile do
    if ← peek atBar then
      mark "|"
      discard rules.pattern
      return true
    else return false
  return if leading || several then .other else shape

/-- The dots of a range; says whether the end must be given. -/
private def dots (allowThree : Bool) : Reader Bool := do
  let trees ← ahead
  if atMark "..=" trees then
    mark "..="
    return true
  else if atMark "..." trees then
    if allowThree then
      mark "..."
      return true
    else fail
  else
    mark ".."
    return false

private def atRangeEnd (trees : List Tree) : Bool :=
  trees.isEmpty || atMark "|" trees || atMark "=" trees ||
    (atMark ":" trees && !atMark "::" trees) || atMark "," trees || atMark ";" trees ||
    atWord "if" trees

/-- One end of a range, if it is given. -/
private def rangeBound : Reader Bool := do
  let trees ← ahead
  if atRangeEnd trees then return false
  if atLiteral trees then
    discard literal
    return true
  else if atPathSegment trees || atMark "::" trees || atMark "<" trees then
    discard (qualifiedPath rules true)
    return true
  else if atWord "const" trees then
    word "const"
    discard (attributedBlock rules)
    return true
  else fail

private def rangeFrom : Reader PatternShape := do
  let start ← place
  let isClosed ← dots true
  let hasEnd ← rangeBound rules
  if isClosed && !hasEnd then fail
  return if hasEnd then .other else .openRange start

private def rangeWithoutStart : Reader PatternShape := do
  let start ← place
  let isClosed ← dots false
  let hasEnd ← rangeBound rules
  if hasEnd then return .openRange start
  else if isClosed then fail
  else return .remainder

private def literalOrRange : Reader PatternShape := do
  if !(← rangeBound rules) then fail
  if ← peek (atMark "..") then rangeFrom rules else return .other

private def fieldPattern : Reader Unit := do
  let isBoxed ← optionalWord "box"
  let isRef ← optionalWord "ref"
  let isMut ← optionalWord "mut"
  if isBoxed || isRef || isMut then discard name
  else
    let isNamed ← member
    if !isNamed || (← peek (atMark ":")) then
      mark ":"
      discard (alternatives rules)

private def fieldPatterns : Reader Unit :=
  repeatWhile do
    if ← isDone then return false
    skipAttributes rules
    if ← peek (atMark "..") then
      mark ".."
      return false
    fieldPattern rules
    if ← isDone then return false
    mark ","
    return true

private def pathPattern : Reader PatternShape := do
  let shape ← qualifiedPath rules true
  let trees ← ahead
  if !shape.isQualified && atMark "!" trees && !atMark "!=" trees && shape.isBare then
    mark "!"
    discard anyGroup
    return .other
  else if atGroup .brace trees then
    inside .brace (fieldPatterns rules)
    return .other
  else if atGroup .paren trees then
    inside .paren (separated (discard (alternatives rules)))
    return .other
  else if atMark ".." trees then rangeFrom rules
  else return .other

private def namePattern : Reader PatternShape := do
  discard (optionalWord "ref")
  discard (optionalWord "mut")
  if ← peek (atWord "self") then discard anyWord else discard name
  if ← optionalMark "@" then discard rules.pattern
  return .other

/-- Entries of a slice; a range without both ends stands there only in parentheses. -/
private def sliceEntry : Reader Unit := do
  match ← alternatives rules with
  | .openRange place => throw place
  | _ => return

private def atPathPattern (trees : List Tree) : Bool :=
  let next := beyond trees
  (atName trees &&
      (atMark "::" next || atMark "!" next || atGroup .brace next || atGroup .paren next ||
        atMark ".." next)) ||
    (atWord "self" trees && atMark "::" next) || atMark "::" trees || atMark "<" trees ||
    atAnyOf ["Self", "super", "crate"] trees

def patternRule : Reader PatternShape := do
  let trees ← ahead
  if atPathPattern trees then pathPattern rules
  else if atWord "_" trees then
    discard anyWord
    return .other
  else if atWord "box" trees then
    word "box"
    discard rules.pattern
    return .other
  else if atMark "-" trees || atLiteral trees || atWord "const" trees then literalOrRange rules
  else if atAnyOf ["ref", "mut", "self"] trees || atName trees then namePattern rules
  else if atMark "&" trees then
    mark "&"
    discard (optionalWord "mut")
    discard rules.pattern
    return .other
  else if atGroup .paren trees then
    inside .paren (separated (discard (alternatives rules)))
    return .other
  else if atGroup .bracket trees then
    inside .bracket (separated (sliceEntry rules))
    return .other
  else if atMark ".." trees && !atMark "..." trees then rangeWithoutStart rules
  else fail

end TermBind.Source.Grammar

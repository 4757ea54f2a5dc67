import TermBind.Source.Grammar.Path

/-! Types, bounds, generic parameters and their conditions. -/
namespace TermBind.Source.Grammar

variable (rules : Rules)

def boundsUntil (stop : List Tree → Bool) : Reader Unit :=
  repeatWhile do
    if ← peek stop then return false
    discard (rules.bound false true)
    if ← peek stop then return false
    mark "+"
    return true

private def lifetimeParameter : Reader Unit := do
  lifetime
  if ← optionalMark ":" then
    repeatWhile do
      if ← peek fun trees => atMark "," trees || atMark ">" trees then return false
      lifetime
      if ← peek (atMark "+") then
        mark "+"
        return true
      else return false

private def typeParameter : Reader Unit := do
  discard name
  if ← optionalMark ":" then
    boundsUntil rules fun trees => atMark "," trees || atMark ">" trees || atMark "=" trees
  if ← optionalMark "=" then rules.anyType

private def constParameter : Reader Unit := do
  word "const"
  discard name
  mark ":"
  rules.anyType
  if ← optionalMark "=" then constArgument rules

private def parameter (allowBlank : Bool) : Reader Unit := do
  skipAttributes rules
  let trees ← ahead
  if atLifetime trees then lifetimeParameter
  else if atName trees then typeParameter rules
  else if atWord "const" trees then constParameter rules
  else if allowBlank && atWord "_" trees then discard anyWord
  else fail

private def parameters (allowBlank : Bool) : Reader Unit := do
  mark "<"
  repeatWhile do
    if ← peek (atMark ">") then return false
    parameter rules allowBlank
    if ← peek (atMark ">") then return false
    mark ","
    return true
  mark ">"

/-- Generic parameters, if there are any; says whether there are. -/
def generics : Reader Bool := optional (atMark "<") (parameters rules true)

/-- Lifetimes bound by `for`. -/
def binder : Reader Bool :=
  optional (atWord "for") do
    word "for"
    parameters rules false

private def atConditionEnd (trees : List Tree) : Bool :=
  trees.isEmpty || atGroup .brace trees || atMark "," trees || atMark ";" trees ||
    (atMark ":" trees && !atMark "::" trees) || atMark "=" trees

private def sumUntilEnd (entry : Reader Unit) : Reader Unit :=
  repeatWhile do
    if ← peek atConditionEnd then return false
    entry
    if ← peek (atMark "+") then
      mark "+"
      return true
    else return false

private def condition : Reader Unit := do
  let trees ← ahead
  if atLifetime trees && atMark ":" (beyond trees) then
    lifetime
    mark ":"
    sumUntilEnd lifetime
  else
    discard (binder rules)
    rules.anyType
    mark ":"
    sumUntilEnd (discard (rules.bound false true))

/-- Conditions on parameters, if there are any; says whether there are. -/
def conditions : Reader Bool :=
  optional (atWord "where") do
    word "where"
    repeatWhile do
      if ← peek atConditionEnd then return false
      condition rules
      if ← peek (atMark ",") then
        mark ","
        return true
      else return false

/-- Whether angles after a keyword begin parameters rather than a qualified path. -/
def parametersFollow (trees : List Tree) : Bool :=
  let second := beyond trees
  let third := beyond2 trees
  atMark "<" trees &&
    (atMark ">" second || atMark "#" second ||
      ((atLifetime second || atName second) &&
        (atMark ">" third || atMark "," third || (atMark ":" third && !atMark "::" third) ||
          atMark "=" third)) ||
      atWord "const" second)

def returnType (allowSum : Bool) : Reader (Option TypeShape) := do
  if ← optionalMark "->" then return some (← rules.type allowSum) else return none

/-- Whether the types in parentheses return nothing or a type in parentheses. -/
private def parenthesizedArguments : Reader Bool := do
  if ← peek (atMark "::") then dropMark "::"
  inside .paren (separated rules.anyType)
  return (← returnType rules false).all (· == .paren)

private def atParenthesized (trees : List Tree) : Bool :=
  atGroup .paren trees || (atMark "::" trees && atGroup .paren (beyond2 trees))

/-- A path in a type, where parentheses may hold the arguments of its last segment. -/
private def typePathFrom (fuel : Nat) (shape : PathShape) : Reader PathShape := do
  match fuel with
  | 0 => fail
  | fuel + 1 =>
    if shape.endsOpen && (← peek atParenthesized) then
      let goesOn ← parenthesizedArguments rules
      let further ← if goesOn then furtherSegments rules false else pure []
      typePathFrom fuel (shape.withParens further)
    else return shape

def typePath : Reader PathShape := do
  let shape ← qualifiedPath rules false
  typePathFrom rules ((← ahead).length + 1) shape

/-- A linkage name. -/
def linkage : Reader Bool :=
  optional (atWord "extern") do
    word "extern"
    discard (optional atString (discard takeTree))

private def variadicType : Reader Unit := do
  if ← peek fun trees => atName trees || atWord "_" trees then
    discard anyWord
    mark ":"
  mark "..."
  discard (optionalMark ",")

private def functionTypeEntry (isFirst : Bool) : Reader Unit := do
  skipAttributes rules
  let trees ← ahead
  let namedBy := fun (trees : List Tree) =>
    (atName trees || atWord "_" trees || (isFirst && atWord "self" trees)) &&
      atMark ":" (beyond trees) && !atMark "::" (beyond trees)
  let mutableSelf := isFirst && atWord "mut" trees && atWord "self" (beyond trees)
  if mutableSelf then
    word "mut"
    if namedBy (← ahead) then
      discard anyWord
      mark ":"
      rules.anyType
    else word "self"
  else
    if namedBy trees then
      discard anyWord
      mark ":"
      if isFirst && !atWord "self" trees && atWord "mut" (← ahead) && atWord "self" (beyond (← ahead))
      then
        word "mut"
        word "self"
      else rules.anyType
    else rules.anyType

private def atVariadic (trees : List Tree) : Bool :=
  atMark "..." trees ||
    ((atName trees || atWord "_" trees) && atMark ":" (beyond trees) && atMark "..." (beyond2 trees))

private def functionTypeEntries (fuel : Nat) (isFirst : Bool) : Reader Unit := do
  match fuel with
  | 0 => fail
  | fuel + 1 =>
    if ← isDone then return
    skipAttributes rules
    if ← peek atVariadic then variadicType
    else
      functionTypeEntry rules isFirst
      if ← isDone then return
      mark ","
      functionTypeEntries fuel false

private def functionType : Reader Unit := do
  discard (binder rules)
  discard (optionalWord "unsafe")
  discard linkage
  word "fn"
  inside .paren do functionTypeEntries rules ((← ahead).length + 1) true
  discard (returnType rules false)

private def capture : Reader Unit := do
  word "use"
  mark "<"
  repeatWhile do
    let trees ← ahead
    if atMark ">" trees then return false
    if atLifetime trees then lifetime
    else if atName trees || atWord "Self" trees then discard anyWord
    else fail
    if ← peek (atMark ">") then return false
    mark ","
    return true
  mark ">"

private def constMark (allowConst : Bool) : Reader Unit := do
  let trees ← ahead
  if atGroup .bracket trees then
    let start ← place
    inside .bracket (word "const")
    if !allowConst then throw start
  else if atWord "const" trees then
    let start ← place
    word "const"
    if !allowConst then throw start
  else if atMark "~" trees && atWord "const" (beyond trees) then
    let start ← place
    mark "~"
    word "const"
    if !allowConst then throw start

private def traitBound (allowConst : Bool) : Reader Unit := do
  let bound ← binder rules
  constMark allowConst
  let start ← place
  let isRelaxed ← optionalMark "?"
  let boundLater ← if !bound && isRelaxed then binder rules else pure false
  let shape ← path rules false
  if shape.endsOpen && (← peek atParenthesized) then discard (parenthesizedArguments rules)
  if isRelaxed && (bound || boundLater) then throw start

def boundRule (allowCapture allowConst : Bool) : Reader BoundShape := do
  let trees ← ahead
  if atLifetime trees then
    lifetime
    return .lifetime
  else if atWord "use" trees then
    let start ← place
    capture
    if !allowCapture then throw start
    return .capture
  else if atGroup .paren trees then
    inside .paren (traitBound rules allowConst)
    return .trait
  else
    traitBound rules allowConst
    return .trait

/-- The bounds of a sum, and whether a plus sign came last. -/
private structure BoundsRead where
  bounds : List BoundShape
  isTrailing : Bool

private def BoundsRead.shape (read : BoundsRead) : TypeShape :=
  .bounds (read.bounds.length == 1 && !read.isTrailing)

private def atBound (allowConst : Bool) (trees : List Tree) : Bool :=
  atAnyWord trees || atMark "::" trees || atMark "?" trees || atLifetime trees ||
    atGroup .paren trees || (allowConst && (atGroup .bracket trees || atWord "const" trees))

/-- A sum goes on after a plus sign while a bound follows. -/
private def furtherBoundsFrom (fuel : Nat) (allowSum allowCapture allowConst : Bool)
    (read : List BoundShape) : Reader BoundsRead := do
  match fuel with
  | 0 => fail
  | fuel + 1 =>
    if !allowSum || !(← peek (atMark "+")) then return ⟨read.reverse, false⟩
    mark "+"
    if !(← peek (atBound allowConst)) then return ⟨read.reverse, true⟩
    let shape ← rules.bound allowCapture allowConst
    furtherBoundsFrom fuel allowSum allowCapture allowConst (shape :: read)

private def furtherBounds (allowSum allowCapture allowConst : Bool) (first : BoundShape) :
    Reader BoundsRead := do
  furtherBoundsFrom rules ((← ahead).length + 1) allowSum allowCapture allowConst [first]

/-- Bounds of which one must be a trait, or the fault is reported at the place given. -/
private def bounds (start : Position) (allowSum allowCapture allowConst : Bool) :
    Reader TypeShape := do
  let first ← rules.bound allowCapture allowConst
  let read ← furtherBounds rules allowSum allowCapture allowConst first
  if !read.bounds.contains .trait then throw start
  return read.shape

/-- Bounds after the first one, each behind a plus sign. -/
private def boundsAfter : Reader TypeShape := do
  let isSingle ← peek fun trees => !atMark "+" trees
  repeatWhile do
    if ← optionalMark "+" then
      discard (rules.bound false false)
      return true
    else return false
  return .bounds isSingle

private inductive ParenRead where
  | tuple
  | relaxed
  | one (shape : TypeShape)

private def parenContent : Reader ParenRead := do
  let trees ← ahead
  if trees.isEmpty then return .tuple
  else if atLifetime trees then
    discard (bounds rules (← place) true false false)
    return .one .other
  else if atMark "?" trees then
    traitBound rules false
    return .relaxed
  else
    let shape ← rules.type true
    if ← peek (atMark ",") then
      mark ","
      separated rules.anyType
      return .tuple
    else return .one shape

private def parenType (allowSum : Bool) : Reader TypeShape := do
  match ← inside .paren (parenContent rules) with
  | .tuple => return .other
  | .relaxed => boundsAfter rules
  | .one shape =>
    let mayGoOn := match shape with
      | .path _ => true
      | .bounds isSingle => isSingle
      | _ => false
    if allowSum && mayGoOn && (← peek (atMark "+")) then boundsAfter rules else return .paren

private def namedType (allowSum hasBinder : Bool) : Reader TypeShape := do
  let shape ← typePath rules
  if shape.isQualified then return .other
  let trees ← ahead
  if atMark "!" trees && !atMark "!=" trees && shape.isBare then
    mark "!"
    discard anyGroup
    return .other
  else if hasBinder || (allowSum && atMark "+" trees) then
    return (← furtherBounds rules allowSum false false .trait).shape
  else return .path shape.isPlain

private def pointer : Reader TypeShape := do
  mark "*"
  if ← peek (atWord "const") then word "const"
  else if ← peek (atWord "mut") then word "mut"
  else fail
  discard rules.typeWithoutSum
  return .other

private def reference : Reader TypeShape := do
  mark "&"
  discard optionalLifetime
  discard (optionalWord "mut")
  discard rules.typeWithoutSum
  return .other

private def sequence : Reader TypeShape := do
  inside .bracket do
    rules.anyType
    if ← optionalMark ";" then rules.anyExpression
  return .other

private def atFunctionType (trees : List Tree) : Bool := atAnyOf ["fn", "unsafe", "extern"] trees

private def atNamedType (trees : List Tree) : Bool :=
  atPathSegment trees || atMark "::" trees || atMark "<" trees

def typeRule (allowSum : Bool) : Reader TypeShape := do
  let hasBinder ← binder rules
  let trees ← ahead
  if hasBinder && !(atPathSegment trees || atFunctionType trees) then fail
  if atGroup .paren trees then parenType rules allowSum
  else if atFunctionType trees then
    functionType rules
    return .other
  else if atNamedType trees then namedType rules allowSum hasBinder
  else if atWord "dyn" trees then
    let start ← place
    word "dyn"
    discard (optionalMark "*")
    discard (bounds rules start allowSum false false)
    return .other
  else if atGroup .bracket trees then sequence rules
  else if atMark "*" trees then pointer rules
  else if atMark "&" trees then reference rules
  else if atMark "!" trees && !atMark "=" trees then
    mark "!"
    return .other
  else if atWord "impl" trees then
    let start ← place
    word "impl"
    discard (bounds rules start allowSum true true)
    return .other
  else if atWord "_" trees then
    discard anyWord
    return .other
  else if atLifetime trees then bounds rules (← place) true false false
  else fail

end TermBind.Source.Grammar

import TermBind.Source.Grammar.Pattern
import TermBind.Source.Grammar.Type

/-! Expressions and statements. -/
namespace TermBind.Source.Grammar

variable (rules : Rules)

def binaryOperators : List (String × Precedence) :=
  [("+=", .assign), ("-=", .assign), ("*=", .assign), ("/=", .assign), ("%=", .assign),
    ("^=", .assign), ("&=", .assign), ("|=", .assign), ("<<=", .assign), (">>=", .assign),
    ("&&", .and), ("||", .or), ("<<", .shift), (">>", .shift), ("==", .compare), ("<=", .compare),
    ("!=", .compare), (">=", .compare), ("+", .sum), ("-", .sum), ("*", .product), ("/", .product),
    ("%", .product), ("^", .bitXor), ("&", .bitAnd), ("|", .bitOr), ("<", .compare),
    (">", .compare)]

private def operatorAhead? (trees : List Tree) : Option (String × Precedence) :=
  match trees with
  | .punct .. :: _ => binaryOperators.find? fun entry => atMark entry.1 trees
  | _ => none

private def precedenceAhead (trees : List Tree) : Precedence :=
  match operatorAhead? trees with
  | some (_, precedence) => precedence
  | none =>
    if atMark "=" trees && !atMark "=>" trees then .assign
    else if atMark ".." trees then .range
    else if atWord "as" trees then .cast
    else .lowest

private def operandFrom (fuel : Nat) (allowStruct : Bool) (precedence : Precedence) (shape : Shape) :
    Reader Shape := do
  match fuel with
  | 0 => fail
  | fuel + 1 =>
    let next := precedenceAhead (← ahead)
    if precedence.rank < next.rank || (next == precedence && precedence == .assign) then
      let before := (← ahead).length
      let shape ← rules.operators allowStruct next shape
      if (← ahead).length == before then return shape
      else operandFrom fuel allowStruct precedence shape
    else return shape

/-- An operand with the operators that bind it more tightly than the one before it. -/
private def rightOperand (allowStruct : Bool) (precedence : Precedence) : Reader Shape := do
  let shape ← rules.operand allowStruct
  operandFrom rules ((← ahead).length + 1) allowStruct precedence shape

private def atOpenEnd (allowStruct : Bool) (trees : List Tree) : Bool :=
  trees.isEmpty || (atMark "." trees && !atMark ".." trees) || (!allowStruct && atGroup .brace trees) ||
    atWord "as" trees ||
    [",", ";", "?", "=>", "=", "+", "/", "%", "^", ">", "<=", "!=", "-=", "*=", "&=", "|=", "<<="].any
      fun text => atMark text trees

/-- The dots of a range and its end, which may be left out after two dots. -/
private def rangeRest (allowStruct : Bool) : Reader Unit := do
  let trees ← ahead
  if atMark "..=" trees then
    mark "..="
    discard (rightOperand rules allowStruct .range)
  else if atMark "..." trees then fail
  else
    mark ".."
    if !(← peek (atOpenEnd allowStruct)) then discard (rightOperand rules allowStruct .range)

private def atAfterCast (trees : List Tree) : Bool :=
  (atMark "." trees && !atMark ".." trees) || atMark "?" trees || atGroup .bracket trees ||
    atGroup .paren trees

private def operatorsFrom (fuel : Nat) (allowStruct : Bool) (base : Precedence) (shape : Shape) :
    Reader Shape := do
  match fuel with
  | 0 => fail
  | fuel + 1 =>
    let trees ← ahead
    if shape == .range then return shape
    match operatorAhead? trees with
    | some (text, precedence) =>
      if precedence.rank < base.rank then return shape
      if precedence == .compare && shape == .comparison then fail
      mark text
      discard (rightOperand rules allowStruct precedence)
      operatorsFrom fuel allowStruct base (if precedence == .compare then .comparison else .other)
    | none =>
      if base.rank ≤ Precedence.assign.rank && atMark "=" trees && !atMark "=>" trees then
        mark "="
        discard (rightOperand rules allowStruct .assign)
        operatorsFrom fuel allowStruct base .other
      else if base.rank ≤ Precedence.range.rank && atMark ".." trees then
        rangeRest rules allowStruct
        operatorsFrom fuel allowStruct base .range
      else if base.rank ≤ Precedence.cast.rank && atWord "as" trees then
        word "as"
        discard rules.typeWithoutSum
        if ← peek atAfterCast then fail
        operatorsFrom fuel allowStruct base .other
      else return shape

def operatorsRule (allowStruct : Bool) (base : Precedence) (shape : Shape) : Reader Shape := do
  operatorsFrom rules ((← ahead).length + 1) allowStruct base shape

def expressionRule (allowStruct : Bool) : Reader Shape := do
  let shape ← rules.operand allowStruct
  rules.operators allowStruct .lowest shape

private def argumentList : Reader Unit := inside .paren (separated rules.anyExpression)

private def fieldAccess : Reader Unit := do
  mark "."
  let goesOn ← if ← peek atFloat then indices else pure true
  if goesOn then
    if ← peek (atWord "await") then word "await"
    else
      let isNamed ← member
      let hasArguments ← if isNamed then
          optional (atMark "::") do
            mark "::"
            genericArguments rules
        else pure false
      if hasArguments then argumentList rules
      else if isNamed && (← peek (atGroup .paren)) then argumentList rules

/-- What may follow a finished expression; each step makes it a new one. -/
private def trailersFrom (fuel : Nat) (shape : Shape) : Reader Shape := do
  match fuel with
  | 0 => fail
  | fuel + 1 =>
    let trees ← ahead
    if atGroup .paren trees then
      argumentList rules
      trailersFrom fuel .other
    else if atMark "." trees && !atMark ".." trees && shape != .range then
      fieldAccess rules
      trailersFrom fuel .other
    else if atGroup .bracket trees then
      inside .bracket rules.anyExpression
      trailersFrom fuel .other
    else if atMark "?" trees && shape != .range then
      mark "?"
      trailersFrom fuel .other
    else return shape

private def trailers (shape : Shape) : Reader Shape := do
  trailersFrom rules ((← ahead).length + 1) shape

private def test : Reader Unit := discard (rules.expression false)

private def ifExpression : Reader Shape := do
  repeatWhile do
    word "if"
    test rules
    block rules
    if ← optionalWord "else" then
      let trees ← ahead
      if atWord "if" trees then return true
      if atGroup .brace trees then
        block rules
        return false
      else fail
    else return false
  return .block

private def whileExpression : Reader Shape := do
  word "while"
  test rules
  discard (attributedBlock rules)
  return .block

private def forExpression : Reader Shape := do
  word "for"
  discard (alternatives rules)
  word "in"
  test rules
  discard (attributedBlock rules)
  return .block

private def wordAndBlock (text : String) : Reader Shape := do
  word text
  discard (attributedBlock rules)
  return .block

private def labelled : Reader Shape := do
  lifetime
  mark ":"
  let trees ← ahead
  if atWord "while" trees then whileExpression rules
  else if atWord "for" trees then forExpression rules
  else if atWord "loop" trees then wordAndBlock rules "loop"
  else if atGroup .brace trees then
    discard (attributedBlock rules)
    return .block
  else fail

private def fieldValues : Reader Unit :=
  repeatWhile do
    if ← isDone then return false
    if ← peek (atMark "..") then
      mark ".."
      if !(← isDone) then rules.anyExpression
      return false
    skipAttributes rules
    let isNamed ← member
    if !isNamed || (← peek (atMark ":")) then
      mark ":"
      rules.anyExpression
    if ← isDone then return false
    mark ","
    return true

private def pathExpression (allowStruct : Bool) : Reader Shape := do
  let shape ← qualifiedPath rules true
  let trees ← ahead
  if !shape.isQualified && atMark "!" trees && !atMark "!=" trees && shape.isBare then
    mark "!"
    return .invocation (← anyGroup)
  else if allowStruct && atGroup .brace trees then
    inside .brace (fieldValues rules)
    return .other
  else return .other

private def arrayContent : Reader Unit := do
  if ← isDone then return
  rules.anyExpression
  let trees ← ahead
  if trees.isEmpty then return
  if atMark "," trees then
    mark ","
    separated rules.anyExpression
  else if atMark ";" trees then
    mark ";"
    rules.anyExpression
  else fail

private def closureParameter : Reader Unit := do
  skipAttributes rules
  discard rules.pattern
  if ← optionalMark ":" then rules.anyType

private def closure (allowStruct : Bool) : Reader Shape := do
  discard (binder rules)
  discard (optionalWord "const")
  discard (optionalWord "static")
  discard (optionalWord "async")
  discard (optionalWord "move")
  mark "|"
  repeatWhile do
    if ← peek (atMark "|") then return false
    closureParameter rules
    if ← peek (atMark "|") then return false
    mark ","
    return true
  mark "|"
  if ← optionalMark "->" then
    rules.anyType
    block rules
  else discard (rules.expression allowStruct)
  return .other

private def atExpression (trees : List Tree) : Bool :=
  (atAnyWord trees && !atWord "as" trees) || atGroup .paren trees || atGroup .bracket trees ||
    atGroup .brace trees || atLiteral trees || (atMark "!" trees && !atMark "!=" trees) ||
    (atMark "-" trees && !atMark "-=" trees && !atMark "->" trees) ||
    (atMark "*" trees && !atMark "*=" trees) || (atMark "|" trees && !atMark "|=" trees) ||
    (atMark "&" trees && !atMark "&=" trees) || atMark ".." trees ||
    (atMark "<" trees && !atMark "<=" trees && !atMark "<<=" trees) || atMark "::" trees ||
    atLifetime trees || atMark "#" trees

private def breakExpression (allowStruct : Bool) : Reader Shape := do
  word "break"
  let trees ← ahead
  if atLifetime trees && atMark ":" (beyond trees) then
    let start ← place
    rules.anyExpression
    throw start
  discard optionalLifetime
  if ← peek fun trees => atExpression trees && (allowStruct || !atGroup .brace trees) then
    rules.anyExpression
  return .other

private def wordAndValue (text : String) : Reader Shape := do
  word text
  if ← peek atExpression then rules.anyExpression
  return .other

private def letExpression (allowStruct : Bool) : Reader Shape := do
  word "let"
  discard (alternatives rules)
  mark "="
  let shape ← rules.operand allowStruct
  discard (rules.operators allowStruct .compare shape)
  return .other

private def arm : Reader Unit := do
  skipAttributes rules
  discard (alternatives rules)
  if ← optionalWord "if" then rules.anyExpression
  mark "=>"
  let shape ← rules.body
  if shape != .block && !(← isDone) then mark "," else discard (optionalMark ",")

private def matchExpression : Reader Shape := do
  word "match"
  test rules
  inside .brace do
    discard (innerAttributes rules)
    repeatWhile do
      if ← isDone then return false
      arm rules
      return true
  return .block

private def tryBlock : Reader Shape := do
  word "try"
  block rules
  return .block

private def plainBlock : Reader Shape := do
  discard (attributedBlock rules)
  return .block

/-- The rule for an expression that ends in a block and is finished there. -/
private def finishedRule? (trees : List Tree) : Option (Reader Shape) :=
  if atWord "if" trees then some (ifExpression rules)
  else if atWord "while" trees then some (whileExpression rules)
  else if atWord "for" trees && !parametersFollow (beyond trees) then some (forExpression rules)
  else if atWord "loop" trees then some (wordAndBlock rules "loop")
  else if atWord "match" trees then some (matchExpression rules)
  else if atWord "try" trees && atGroup .brace (beyond trees) then some (tryBlock rules)
  else if atWord "unsafe" trees then some (wordAndBlock rules "unsafe")
  else if atWord "const" trees && atGroup .brace (beyond trees) then
    some (wordAndBlock rules "const")
  else if atGroup .brace trees then some (plainBlock rules)
  else if atLifetime trees then some (labelled rules)
  else none

/-- An expression as a statement or the body of an arm: one that ends in a block goes on only as a
call of a method or a question. -/
def bodyRule : Reader Shape := do
  skipAttributes rules
  match finishedRule? rules (← ahead) with
  | some reader =>
    let shape ← reader
    let trees ← ahead
    if (atMark "." trees && !atMark ".." trees) || atMark "?" trees then
      let shape ← trailers rules shape
      rules.operators true .lowest shape
    else return shape
  | none =>
    let shape ← rules.operand true
    rules.operators true .lowest shape

private def atAsyncBlock (trees : List Tree) : Bool :=
  atWord "async" trees &&
    (atGroup .brace (beyond trees) ||
      (atWord "move" (beyond trees) && atGroup .brace (beyond2 trees)))

private def asyncBlock : Reader Shape := do
  word "async"
  discard (optionalWord "move")
  block rules
  return .other

private def atClosure (trees : List Tree) : Bool :=
  let next := beyond trees
  atMark "|" trees || atWord "move" trees || (atWord "for" trees && parametersFollow next) ||
    (atWord "const" trees && !atGroup .brace next) || atWord "static" trees ||
    (atWord "async" trees && (atMark "|" next || atWord "move" next))

private def builtin : Reader Shape := do
  word "builtin"
  mark "#"
  discard name
  if ← peek (atGroup .paren) then discard anyGroup else fail
  return .other

private def atPathExpression (trees : List Tree) : Bool :=
  atPathSegment trees || atMark "::" trees || atMark "<" trees ||
    (atWord "try" trees && (atMark "!" (beyond trees) || atMark "::" (beyond trees)))

private def continueExpression : Reader Shape := do
  word "continue"
  discard optionalLifetime
  return .other

private def range (allowStruct : Bool) : Reader Shape := do
  rangeRest rules allowStruct
  return .range

private def atom (allowStruct : Bool) : Reader Shape := do
  let trees ← ahead
  if atLiteral trees then return .literal (← literal)
  else if atAsyncBlock trees then asyncBlock rules
  else if atWord "try" trees && atGroup .brace (beyond trees) then tryBlock rules
  else if atClosure trees then closure rules allowStruct
  else if atWord "builtin" trees && atMark "#" (beyond trees) then builtin
  else if atPathExpression trees then pathExpression rules allowStruct
  else if atGroup .paren trees then
    inside .paren (separated rules.anyExpression)
    return .other
  else if atWord "break" trees then breakExpression rules allowStruct
  else if atWord "continue" trees then continueExpression
  else if atWord "return" trees then wordAndValue rules "return"
  else if atWord "become" trees then
    word "become"
    rules.anyExpression
    return .other
  else if atGroup .bracket trees then
    inside .bracket (arrayContent rules)
    return .other
  else if atWord "let" trees then letExpression rules allowStruct
  else if atWord "yield" trees then wordAndValue rules "yield"
  else if atMark ".." trees then range rules allowStruct
  else if atWord "_" trees then
    discard anyWord
    return .other
  else
    match finishedRule? rules trees with
    | some reader => reader
    | none => fail

/-- An operand: signs and references before an atom, and calls and fields after it. Attributes may
not stand before a range without a start. -/
def operandRule (allowStruct : Bool) : Reader Shape := do
  let attributes ← outerAttributes rules
  let trees ← ahead
  if atMark "&" trees then
    mark "&"
    let trees ← ahead
    let isRaw := atWord "raw" trees && atAnyOf ["mut", "const"] (beyond trees)
    if isRaw then word "raw"
    if !(← optionalWord "mut") && isRaw then word "const"
    discard (rules.operand allowStruct)
    return .other
  else if atMark "*" trees || atMark "!" trees || atMark "-" trees then
    mark (if atMark "*" trees then "*" else if atMark "!" trees then "!" else "-")
    discard (rules.operand allowStruct)
    return .other
  else
    let start ← place
    let shape ← trailers rules (← atom rules allowStruct)
    if shape == .range && !attributes.isEmpty then throw start
    return shape

private def localDeclaration : Reader Unit := do
  word "let"
  discard rules.pattern
  if ← optionalMark ":" then rules.anyType
  if ← optionalMark "=" then
    rules.anyExpression
    let endsInBrace := (← get).taken.head?.any Tree.isBraceGroup
    if !endsInBrace && (← peek (atWord "else")) then
      word "else"
      block rules
  mark ";"

private def atFunctionWord (trees : List Tree) : Bool := atAnyOf ["unsafe", "extern", "fn"] trees

private def atItem (trees : List Tree) : Bool :=
  let next := beyond trees
  let third := beyond2 trees
  atAnyOf ["pub", "extern", "use", "fn", "mod", "type", "struct", "enum", "trait", "impl", "macro"]
      trees ||
    (atWord "crate" trees && !atMark "::" next) ||
    (atWord "static" trees && (atWord "mut" next || atName next)) ||
    (atWord "const" trees &&
      !(atGroup .brace next || atWord "static" next ||
        (atWord "async" next && !atFunctionWord third) || atWord "move" next || atMark "|" next)) ||
    (atWord "unsafe" trees && !atGroup .brace next) ||
    (atWord "async" trees && atFunctionWord next) ||
    (atWord "union" trees && atName next) ||
    (atWord "auto" trees && atWord "trait" next) ||
    (atWord "default" trees && atAnyOf ["unsafe", "impl"] next)

/-- Which kind of macro call a statement begins with, if any. -/
private inductive MacroAhead where
  | none
  | item
  | statement

private def macroAhead : Reader MacroAhead := do
  match ← attempt plainPath with
  | none => return .none
  | some (_, after) =>
    let trees := after.rest
    if !atMark "!" trees then return .none
    let next := beyond trees
    let third := beyond2 trees
    if atName next || atWord "try" next then return .item
    else if atGroup .brace next && !((atMark "." third && !atMark ".." third) || atMark "?" third) then
      return .statement
    else return .none

/-- One statement; says whether it must be followed by a semicolon if anything follows. -/
private def statement : Reader Bool := do
  let before ← get
  skipAttributes rules
  let trees ← ahead
  match ← macroAhead with
  | .statement =>
    discard plainPath
    mark "!"
    discard anyGroup
    discard (optionalMark ";")
    return false
  | found =>
    let isMacroItem := match found with
      | .item => true
      | _ => false
    if atWord "let" trees then
      localDeclaration rules
      return false
    else if atItem trees || isMacroItem then
      set before
      discard rules.item
      return false
    else
      let shape ← rules.body
      if ← optionalMark ";" then return false
      match shape with
      | .block => return false
      | .invocation inBraces => return !inBraces
      | _ => return true

def statementsRule : Reader Unit :=
  repeatWhile do
    repeatWhile (optionalMark ";")
    if ← isDone then return false
    let needsSemicolon ← statement rules
    if ← isDone then return false
    if needsSemicolon then fail
    return true

end TermBind.Source.Grammar

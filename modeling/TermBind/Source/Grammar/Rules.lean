import TermBind.Source.Grammar.Basic

/-! The rules that recur inside each other. Each module of the grammar takes those that it goes back
to as an argument, so that only their depth is a matter of recursion. -/
namespace TermBind.Source.Grammar

/-- What later rules ask about a type. -/
inductive TypeShape where
  | path (isPlain : Bool)
  | paren
  | bounds (isSingle : Bool)
  | other
deriving DecidableEq, Repr

inductive PatternShape where
  | remainder
  | openRange (place : Position)
  | other
deriving DecidableEq, Repr

inductive BoundShape where
  | lifetime
  | capture
  | trait
deriving DecidableEq, Repr

/-- What later rules ask about an expression. -/
inductive Shape where
  | range
  | comparison
  | literal (value : Literal)
  | block
  | invocation (inBraces : Bool)
  | other
deriving DecidableEq, Repr

/-- How tightly an operator binds. -/
inductive Precedence where
  | lowest
  | assign
  | range
  | or
  | and
  | compare
  | bitOr
  | bitXor
  | bitAnd
  | shift
  | sum
  | product
  | cast
deriving DecidableEq, Repr

def Precedence.rank : Precedence → Nat
  | .lowest => 0
  | .assign => 1
  | .range => 2
  | .or => 3
  | .and => 4
  | .compare => 5
  | .bitOr => 6
  | .bitXor => 7
  | .bitAnd => 8
  | .shift => 9
  | .sum => 10
  | .product => 11
  | .cast => 12

/-- The recurring rules: types that may be sums of bounds, bounds that may capture or be constant,
patterns, expressions that may be structures, operands, operators after an operand, expressions that
may end a statement, the statements of a block, and items. -/
structure Rules where
  type : (allowSum : Bool) → Reader TypeShape
  bound : (allowCapture allowConst : Bool) → Reader BoundShape
  pattern : Reader PatternShape
  expression : (allowStruct : Bool) → Reader Shape
  operand : (allowStruct : Bool) → Reader Shape
  operators : (allowStruct : Bool) → Precedence → Shape → Reader Shape
  body : Reader Shape
  statements : Reader Unit
  item : Reader Item

instance : Inhabited Rules :=
  ⟨{ type := fun _ => fail, bound := fun _ _ => fail, pattern := fail, expression := fun _ => fail,
     operand := fun _ => fail, operators := fun _ _ _ => fail, body := fail, statements := fail, item := fail }⟩

namespace Rules

variable (rules : Rules)

def anyType : Reader Unit := discard (rules.type true)

def typeWithoutSum : Reader TypeShape := rules.type false

def anyExpression : Reader Unit := discard (rules.expression true)

end Rules
end TermBind.Source.Grammar

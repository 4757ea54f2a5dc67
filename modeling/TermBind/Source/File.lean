import TermBind.Source.Grammar.Item
import TermBind.Source.Lexer

/-! The arguments of attributes, and the items of a file. -/
namespace TermBind.Source

open Grammar

/-- Expressions with commas between them. -/
def argumentSequence (rules : Rules) : Reader (List Argument) :=
  collect do
    if ← isDone then return none
    let read ← tracing (rules.expression true)
    if !(← isDone) then mark ","
    return some (argumentOf read)

/-- The positional arguments of an attribute. A list that is no sequence of expressions is one
argument, shown as it was written. -/
def Held.arguments : Held → List Argument
  | .nothing => []
  | .value argument => [argument]
  | .list trees =>
    match readAll argumentSequence trees with
    | .ok arguments => arguments
    | .error _ => [.expression (displayTrees trees)]

/-- The items of a file, whose own attributes come first. -/
def fileItems (rules : Rules) : Reader (List Item) := do
  discard (innerAttributes rules)
  items rules

/-- A byte order mark at the start is no part of a file. -/
def withoutMark : List Char → List Char
  | '\ufeff' :: rest => rest
  | text => text

/-- A first line for the system's loader is no part of a file, unless it begins an attribute. -/
def withoutLoaderLine (text : List Char) : List Char :=
  match text with
  | '#' :: '!' :: rest =>
    if (Lexer.afterBlanks rest).head? == some '[' then text else text.dropWhile (· ≠ '\n')
  | text => text

/-- The items of a source text, or the place of the first fault. -/
def items (text : String) : Except Position (List Item) := do
  readAll fileItems (← trees (withoutLoaderLine (withoutMark text.toList)))

end TermBind.Source

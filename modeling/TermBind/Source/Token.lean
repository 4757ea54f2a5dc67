import TermBind.Source.Word

/-! Tokens of source files as trees of delimited groups, and the text they are shown as. -/
namespace TermBind.Source

/-- A place in a file; lines and columns count from one. -/
structure Position where
  line : Nat := 1
  column : Nat := 1
deriving DecidableEq, Repr, Inhabited

namespace Position

def after (position : Position) (c : Char) : Position :=
  if c = '\n' then ⟨position.line + 1, 1⟩ else ⟨position.line, position.column + 1⟩

def afterAll (position : Position) (text : List Char) : Position := text.foldl after position

end Position

inductive Delimiter where
  | paren
  | brace
  | bracket
deriving DecidableEq, Repr

namespace Delimiter

def ofOpening? : Char → Option Delimiter
  | '(' => some .paren
  | '{' => some .brace
  | '[' => some .bracket
  | _ => none

def ofClosing? : Char → Option Delimiter
  | ')' => some .paren
  | '}' => some .brace
  | ']' => some .bracket
  | _ => none

end Delimiter

/-- A punctuation character is joint when another one follows it at once. -/
inductive Tree where
  | word (word : Word) (place : Position)
  | literal (text : String) (place : Position)
  | punct (c : Char) (joint : Bool) (place : Position)
  | group (delimiter : Delimiter) (trees : List Tree) (opening closing : Position)
deriving Repr

instance : Inhabited Tree := ⟨.literal "" {}⟩

namespace Tree

/-- Where a token begins. -/
def start : Tree → Position
  | .word _ place => place
  | .literal _ place => place
  | .punct _ _ place => place
  | .group _ _ opening _ => opening

def isJoint : Tree → Bool
  | .punct _ joint _ => joint
  | _ => false

def isBraceGroup : Tree → Bool
  | .group .brace _ _ _ => true
  | _ => false

/-- The number of tokens, those inside groups included. -/
def size : Tree → Nat
  | .group _ trees _ _ => 1 + sizeAll trees
  | _ => 1
where
  sizeAll : List Tree → Nat
    | [] => 0
    | tree :: rest => tree.size + sizeAll rest

/-- Tokens stand a blank apart, except after a joint character; braces keep a blank inside. -/
def display : Tree → String
  | .word spelled _ => spelled.text
  | .literal text _ => text
  | .punct c _ _ => String.singleton c
  | .group .paren trees _ _ => "(" ++ displayAll trees ++ ")"
  | .group .bracket trees _ _ => "[" ++ displayAll trees ++ "]"
  | .group .brace trees _ _ =>
    if trees.isEmpty then "\x7b \x7d" else "\x7b " ++ displayAll trees ++ " \x7d"
where
  displayAll : List Tree → String
    | [] => ""
    | [tree] => tree.display
    | tree :: next :: rest =>
      tree.display ++ (if tree.isJoint then "" else " ") ++ displayAll (next :: rest)

end Tree

/-- The text of a sequence of tokens. -/
def displayTrees (trees : List Tree) : String := Tree.display.displayAll trees

end TermBind.Source

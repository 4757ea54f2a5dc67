import TermBind.Text.Unicode.Case
import TermBind.Text.Unicode.Letter

/-! Constant names: the words of a term's local name in upper case, joined by underscores. -/
namespace TermBind.Constant

/-- The case that the letters of a word have had so far. -/
inductive Mode where
  | start
  | lower
  | upper
deriving DecidableEq, Repr

def Mode.after (mode : Mode) (c : Char) : Mode :=
  if Unicode.isLowercase c then .lower else if Unicode.isUppercase c then .upper else mode

/-- Cut before an upper-case letter that follows lower case, and before the last upper-case
letter of a run that goes on in lower case. The first argument is the word begun. -/
def splitCase (word : List Char) (mode : Mode) : List Char → List (List Char)
  | [] => []
  | [c] => [word ++ [c]]
  | c :: next :: rest =>
    if mode.after c = .lower ∧ Unicode.isUppercase next then
      (word ++ [c]) :: splitCase [] .start (next :: rest)
    else if mode = .upper ∧ Unicode.isUppercase c ∧ Unicode.isLowercase next then
      word :: splitCase [c] .start (next :: rest)
    else splitCase (word ++ [c]) (mode.after c) (next :: rest)

/-- The words of the runs of letters and digits. -/
def words (name : List Char) : List (List Char) :=
  (name.splitOnP fun c => !Unicode.isAlphanumeric c).flatMap (splitCase [] .start)

def shout (name : List Char) : List Char :=
  List.intercalate ['_'] ((words name).map fun word => word.flatMap Unicode.upperCase)

/-- The constant for a local name; none when no letter or digit can begin it. -/
def ofLocal? (name : String) : Option String :=
  match shout name.toList with
  | [] => none
  | c :: rest =>
    if c.isDigit then some (String.ofList ('_' :: c :: rest))
    else if Unicode.isAlphabetic c || c = '_' then some (String.ofList (c :: rest))
    else none

end TermBind.Constant

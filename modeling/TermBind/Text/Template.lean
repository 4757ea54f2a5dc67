/-! Message templates: text with numbered slots, filled in a single pass. -/
namespace TermBind.Template

inductive Piece where
  | char (c : Char)
  | slot (index : Nat)
deriving DecidableEq, Repr

/-- A decimal numeral of at most 64 bits; one leading plus sign is allowed. -/
def numeral? (text : List Char) : Option Nat :=
  let digits := if text.head? = some '+' then text.tail else text
  if digits.isEmpty || !digits.all Char.isDigit then none
  else
    let value := digits.foldl (fun total digit => total * 10 + (digit.toNat - 48)) 0
    if value < Nat.pow 2 64 then some value else none

/-- The slot that the text after an opening brace begins with, and what follows it. -/
def slot? (count : Nat) (text : List Char) : Option (Nat × List Char) :=
  match text.dropWhile (· ≠ '}') with
  | [] => none
  | _ :: after =>
    match numeral? (text.takeWhile (· ≠ '}')) with
    | some index => if index < count then some (index, after) else none
    | none => none

theorem slot?_length {count : Nat} {text after : List Char} {index : Nat}
    (found : slot? count text = some (index, after)) : after.length < text.length := by
  unfold slot? at found
  split at found
  · simp at found
  · rename_i c rest dropped
    have shorter : (text.dropWhile (· ≠ '}')).length ≤ text.length :=
      (List.dropWhile_suffix _).length_le
    rw [dropped, List.length_cons] at shorter
    split at found
    · split at found
      · simp only [Option.some.injEq, Prod.mk.injEq] at found
        rw [← found.2]
        omega
      · simp at found
    · simp at found

/-- How a template splits when it is given a number of arguments. -/
def pieces (count : Nat) : List Char → List Piece
  | [] => []
  | c :: rest =>
    if c = '{' then
      match _found : slot? count rest with
      | some (index, after) => .slot index :: pieces count after
      | none => .char c :: pieces count rest
    else .char c :: pieces count rest
termination_by text => text.length
decreasing_by
  all_goals simp_wf
  · have := slot?_length _found
    omega

def Piece.fill (arguments : List String) : Piece → String
  | .char c => String.singleton c
  | .slot index => arguments.getD index ""

/-- Arguments are inserted verbatim and never looked into. -/
def render (template : String) (arguments : List String) : String :=
  String.join ((pieces arguments.length template.toList).map (Piece.fill arguments))

end TermBind.Template

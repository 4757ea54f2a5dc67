/-! Values of the text formats that records are exchanged in. -/
namespace TermBind.Data

/-- A value as a format gives it. No field of a record holds `other`, whatever it was written as. -/
inductive Value where
  | null
  | natural (value : Nat)
  | text (value : String)
  | list (items : List Value)
  | record (entries : List (String × Value))
  | other
deriving Repr, Inhabited

namespace Value

def ofOption {α : Type} (write : α → Value) : Option α → Value
  | some value => write value
  | none => .null

def ofTexts (texts : List String) : Value := .list (texts.map .text)

end Value

/-- What formats differ in when records are read from their values. -/
structure Dialect where
  /-- Whether a list that stands for a record may go on after the last field. -/
  allowsExtra : Bool
  /-- What may accompany the name of an alternative that holds nothing. -/
  isNothing : Value → Bool

end TermBind.Data

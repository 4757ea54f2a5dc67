import TermBind.Data.Record
import TermBind.Json.Token

/-! Reading JSON texts: a machine over tokens with the open brackets on a stack. -/
namespace TermBind.Json

open Data

/-- An open bracket around a value that is still to come, with what was read before it, the latest
first. -/
inductive Frame where
  | list (read : List Value)
  | record (read : List (String × Value)) (key : String)
deriving Repr

/-- What may come next, inside which brackets. -/
inductive State where
  | awaiting (frames : List Frame)
  | firstItem (frames : List Frame)
  | afterItem (read : List Value) (frames : List Frame)
  | firstKey (frames : List Frame)
  | nextKey (read : List (String × Value)) (frames : List Frame)
  | afterKey (read : List (String × Value)) (key : String) (frames : List Frame)
  | afterEntry (read : List (String × Value)) (frames : List Frame)
  | done (value : Value)
deriving Repr

namespace State

/-- A value is finished inside the brackets. -/
def deliver (value : Value) : List Frame → State
  | [] => .done value
  | .list read :: frames => .afterItem (value :: read) frames
  | .record read key :: frames => .afterEntry ((key, value) :: read) frames

def beginValue (frames : List Frame) : Token → Option State
  | .scalar value => some (deliver value frames)
  | .beginList => some (.firstItem frames)
  | .beginRecord => some (.firstKey frames)
  | _ => none

def step : State → Token → Option State
  | .awaiting frames, token => beginValue frames token
  | .firstItem frames, .endList => some (deliver (.list []) frames)
  | .firstItem frames, token => beginValue (.list [] :: frames) token
  | .afterItem read frames, .comma => some (.awaiting (.list read :: frames))
  | .afterItem read frames, .endList => some (deliver (.list read.reverse) frames)
  | .firstKey frames, .endRecord => some (deliver (.record []) frames)
  | .firstKey frames, .scalar (.text key) => some (.afterKey [] key frames)
  | .nextKey read frames, .scalar (.text key) => some (.afterKey read key frames)
  | .afterKey read key frames, .colon => some (.awaiting (.record read key :: frames))
  | .afterEntry read frames, .comma => some (.nextKey read frames)
  | .afterEntry read frames, .endRecord => some (deliver (.record read.reverse) frames)
  | _, _ => none

def result? : State → Option Value
  | .done value => some value
  | _ => none

end State

/-- The value of a text. -/
def read? (text : String) : Option Value := do
  (← (← tokens? text.toList).foldlM State.step (.awaiting [])).result?

/-- A list for a record has as many items as the record has fields, and null stands for nothing. -/
def dialect : Dialect where
  allowsExtra := false
  isNothing
    | .null => true
    | _ => false

end TermBind.Json

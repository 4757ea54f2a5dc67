import TermBind.Data.Value

/-! Reading the fields of records. A record is given by entries under the names of its fields or by a
list in their order. -/
namespace TermBind.Data

/-- How a field was given: by a value, not at all among entries, or not at all in a list. -/
inductive Slot where
  | given (value : Value)
  | omitted
  | beyond
deriving Repr

namespace Slot

variable {α : Type}

def required (read : Value → Option α) : Slot → Option α
  | .given value => read value
  | _ => none

/-- A field that may be null; entries may leave it out, a list may not. -/
def optional (read : Value → Option α) : Slot → Option (Option α)
  | .given .null => some none
  | .given value => (read value).map some
  | .omitted => some none
  | .beyond => none

def orElse (fallback : α) (read : Value → Option α) : Slot → Option α
  | .given value => read value
  | _ => some fallback

end Slot

/-- A field that is given twice fails. -/
def slot? (entries : List (String × Value)) (name : String) : Option Slot :=
  match entries.filter fun entry => entry.1 == name with
  | [] => some .omitted
  | [entry] => some (.given entry.2)
  | _ => none

def slotsInOrder : List String → List Value → List Slot
  | [], _ => []
  | _ :: names, value :: values => .given value :: slotsInOrder names values
  | _ :: names, [] => .beyond :: slotsInOrder names []

/-- The fields of a record in the order of the names; entries under other names do not count. -/
def slots? (dialect : Dialect) (names : List String) : Value → Option (List Slot)
  | .record entries => names.mapM (slot? entries)
  | .list values =>
    if !dialect.allowsExtra && names.length < values.length then none
    else some (slotsInOrder names values)
  | _ => none

def text? : Value → Option String
  | .text value => some value
  | _ => none

/-- A natural number below a bound. -/
def natural? (bound : Nat) : Value → Option Nat
  | .natural value => if value < bound then some value else none
  | _ => none

/-- Counts, and places in texts, fit into 64 bits. -/
def count? : Value → Option Nat := natural? (Nat.pow 2 64)

def list? {α : Type} (read : Value → Option α) : Value → Option (List α)
  | .list items => items.mapM read
  | _ => none

def entries? {α : Type} (read : Value → Option α) : Value → Option (List (String × α))
  | .record entries => entries.mapM fun entry => (read entry.2).map fun value => (entry.1, value)
  | _ => none

/-- The name of an alternative: alone, or as the only entry of a record. -/
def name? (dialect : Dialect) : Value → Option String
  | .text name => some name
  | .record [(name, value)] => if dialect.isNothing value then some name else none
  | _ => none

end TermBind.Data

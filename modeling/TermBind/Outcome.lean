import TermBind.Diagnostic.Basic

/-! The result of a step that can fail: a value, or diagnostics of which there is at least one. -/
namespace TermBind

structure Diagnostics where
  first : Diagnostic
  others : List Diagnostic := []
deriving DecidableEq, Repr, Inhabited

namespace Diagnostics

def toList (diagnostics : Diagnostics) : List Diagnostic := diagnostics.first :: diagnostics.others

def ofList? : List Diagnostic → Option Diagnostics
  | [] => none
  | first :: others => some { first, others }

def push (diagnostics : Diagnostics) (diagnostic : Diagnostic) : Diagnostics :=
  { diagnostics with others := diagnostics.others ++ [diagnostic] }

def map (f : Diagnostic → Diagnostic) (diagnostics : Diagnostics) : Diagnostics :=
  { first := f diagnostics.first, others := diagnostics.others.map f }

def count (diagnostics : Diagnostics) : Nat := diagnostics.toList.length

@[simp] theorem toList_push (diagnostics : Diagnostics) (diagnostic : Diagnostic) :
    (diagnostics.push diagnostic).toList = diagnostics.toList ++ [diagnostic] := rfl

@[simp] theorem toList_map (f : Diagnostic → Diagnostic) (diagnostics : Diagnostics) :
    (diagnostics.map f).toList = diagnostics.toList.map f := rfl

theorem toList_of_ofList? {found : List Diagnostic} {diagnostics : Diagnostics}
    (same : ofList? found = some diagnostics) : diagnostics.toList = found := by
  cases found with
  | nil => cases same
  | cons first others =>
    cases same
    rfl

end Diagnostics

inductive Outcome (α : Type u) where
  | ok (value : α)
  | failed (diagnostics : Diagnostics)
deriving DecidableEq, Repr, Inhabited

/-- What asking a failed outcome for its value reports. -/
structure InvalidState where
  count : Nat
  first : Diagnostic
deriving DecidableEq, Repr

namespace InvalidState

def message (state : InvalidState) : String :=
  s!"outcome has no value: failed with {state.count} diagnostic(s), first: {state.first.display}"

end InvalidState

namespace Outcome

variable {α : Type u} {β : Type v}

def fail (diagnostic : Diagnostic) : Outcome α := .failed { first := diagnostic }

def ofExcept : Except Diagnostic α → Outcome α
  | .ok value => .ok value
  | .error diagnostic => fail diagnostic

def value? : Outcome α → Option α
  | .ok value => some value
  | .failed _ => none

def diagnostics : Outcome α → List Diagnostic
  | .ok _ => []
  | .failed diagnostics => diagnostics.toList

def map (f : α → β) : Outcome α → Outcome β
  | .ok value => .ok (f value)
  | .failed diagnostics => .failed diagnostics

def andThen (outcome : Outcome α) (next : α → Outcome β) : Outcome β :=
  match outcome with
  | .ok value => next value
  | .failed diagnostics => .failed diagnostics

def mapDiagnostics (f : Diagnostic → Diagnostic) : Outcome α → Outcome α
  | .ok value => .ok value
  | .failed diagnostics => .failed (diagnostics.map f)

/-- Add a diagnostic to a failure; a success has no place for one. -/
def push (diagnostic : Diagnostic) : Outcome α → Outcome α
  | .ok value => .ok value
  | .failed diagnostics => .failed (diagnostics.push diagnostic)

def intoValue : Outcome α → Except InvalidState α
  | .ok value => .ok value
  | .failed diagnostics => .error { count := diagnostics.count, first := diagnostics.first }

def first? : Outcome α → Option Diagnostic
  | .ok _ => none
  | .failed diagnostics => some diagnostics.first

end Outcome
end TermBind

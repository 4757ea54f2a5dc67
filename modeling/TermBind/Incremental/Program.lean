/-! Computations over inputs that may ask for each other's results, and what they give when every one
is run afresh. -/
namespace TermBind.Incremental

/-- The input fields and queries of a system. A query asks only for queries of lower rank. -/
structure Signature where
  Field : Type
  Value : Field → Type
  Query : Type
  Result : Query → Type
  rank : Query → Nat

/-- What a query does: it reads fields, asks for results of queries below a bound, and is done. -/
inductive Program (S : Signature) (bound : Nat) (α : Type) : Type where
  | done (value : α)
  | read (field : S.Field) (next : S.Value field → Program S bound α)
  | ask (query : S.Query) (lower : S.rank query < bound)
      (next : S.Result query → Program S bound α)

namespace Program

variable {S : Signature} {bound : Nat} {α β : Type}

def andThen (program : Program S bound α) (next : α → Program S bound β) : Program S bound β :=
  match program with
  | .done value => next value
  | .read field rest => .read field fun value => (rest value).andThen next
  | .ask query lower rest => .ask query lower fun result => (rest result).andThen next

instance : Monad (Program S bound) where
  pure := done
  bind := andThen

/-- Run with given inputs and results. -/
def run (values : (field : S.Field) → S.Value field)
    (results : (query : S.Query) → S.rank query < bound → S.Result query) : Program S bound α → α
  | .done value => value
  | .read field next => (next (values field)).run values results
  | .ask query lower next => (next (results query lower)).run values results

theorem run_andThen (values : (field : S.Field) → S.Value field)
    (results : (query : S.Query) → S.rank query < bound → S.Result query)
    (program : Program S bound α) (next : α → Program S bound β) :
    (program.andThen next).run values results = (next (program.run values results)).run values results := by
  induction program with
  | done value => rfl
  | read field rest hypothesis => exact hypothesis _
  | ask query lower rest hypothesis => exact hypothesis _

end Program

/-- The programs of a system, and when two results of a query count as the same. -/
structure Rules (S : Signature) where
  program : (query : S.Query) → Program S (S.rank query) (S.Result query)
  same : (query : S.Query) → S.Result query → S.Result query → Bool

/-- The result of a query when nothing is remembered. -/
def Rules.evaluate {S : Signature} (rules : Rules S) (values : (field : S.Field) → S.Value field)
    (query : S.Query) : S.Result query :=
  (rules.program query).run values fun asked _ => rules.evaluate values asked
termination_by S.rank query

end TermBind.Incremental

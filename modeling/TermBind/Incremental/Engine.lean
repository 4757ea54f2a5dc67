import TermBind.Incremental.Program

/-! Running queries with a memory of earlier results. Every change of a field begins a revision. A
remembered result is used again when nothing that its query read has changed since it was last found
valid; a query that has to run again and gives the same result counts as unchanged. -/
namespace TermBind.Incremental

abbrev Revision := Nat

variable {S : Signature}

/-- What a program read. -/
inductive Dependency (S : Signature) (bound : Nat) where
  | field (field : S.Field)
  | query (query : S.Query) (lower : S.rank query < bound)

/-- A remembered result: what it was made from in the order of reading, the revision in which it was
last found valid, and the one in which it last changed. -/
structure Memo (S : Signature) (query : S.Query) where
  value : S.Result query
  dependencies : List (Dependency S (S.rank query))
  verifiedAt : Revision
  changedAt : Revision

/-- Input fields with the revisions in which they were last set, remembered results, and the queries
that were run, the latest first. -/
structure Store (S : Signature) where
  values : (field : S.Field) → S.Value field
  stamps : S.Field → Revision
  revision : Revision := 1
  memos : List ((query : S.Query) × Memo S query) := []
  executed : List S.Query := []

namespace Store

variable [DecidableEq S.Field] [DecidableEq S.Query]

def place (store : Store S) (field : S.Field) (value : S.Value field) : Store S :=
  { store with
    values := fun asked => if same : asked = field then same ▸ value else store.values asked
    stamps := fun asked => if asked = field then store.revision else store.stamps asked }

/-- Give a field its first value. -/
def create (store : Store S) (field : S.Field) (value : S.Value field) : Store S :=
  store.place field value

/-- Set a field. This begins a revision even if the value is the old one. -/
def set (store : Store S) (field : S.Field) (value : S.Value field) : Store S :=
  { store with revision := store.revision + 1 }.place field value

def find? (query : S.Query) : List ((query : S.Query) × Memo S query) → Option (Memo S query)
  | [] => none
  | entry :: rest => if same : entry.1 = query then some (same ▸ entry.2) else find? query rest

def memo? (store : Store S) (query : S.Query) : Option (Memo S query) := find? query store.memos

def remember (store : Store S) (query : S.Query) (memo : Memo S query) : Store S :=
  { store with memos := ⟨query, memo⟩ :: store.memos.filter fun entry => entry.1 ≠ query }

/-- How often queries were run since the last time this was forgotten. -/
def countExecuted (store : Store S) (test : S.Query → Bool) : Nat := store.executed.countP test

def forgetExecuted (store : Store S) : Store S := { store with executed := [] }

end Store

abbrev Engine (S : Signature) := StateM (Store S)

/-- A result and the revision in which it last changed. -/
structure Stamped (α : Type) where
  value : α
  changedAt : Revision

/-- What a program has read so far, the latest first, and the latest change among it. -/
structure Trace (S : Signature) (bound : Nat) where
  dependencies : List (Dependency S bound) := []
  changedAt : Revision := 0

def Trace.note {bound : Nat} (trace : Trace S bound) (dependency : Dependency S bound)
    (changedAt : Revision) : Trace S bound :=
  ⟨dependency :: trace.dependencies, max trace.changedAt changedAt⟩

/-- Run a program and note what it reads. -/
def Program.traced {bound : Nat} {α : Type}
    (fetch : (query : S.Query) → S.rank query < bound → Engine S (Stamped (S.Result query))) :
    Program S bound α → Trace S bound → Engine S (α × Trace S bound)
  | .done value, trace => return (value, trace)
  | .read field next, trace => do
    let store ← get
    (next (store.values field)).traced fetch (trace.note (.field field) (store.stamps field))
  | .ask query lower next, trace => do
    let result ← fetch query lower
    (next result.value).traced fetch (trace.note (.query query lower) result.changedAt)

/-- Whether nothing has changed since a revision, in the order of reading; the first change ends the
search. -/
def unchangedSince {bound : Nat}
    (fetch : (query : S.Query) → S.rank query < bound → Engine S (Stamped (S.Result query)))
    (revision : Revision) : List (Dependency S bound) → Engine S Bool
  | [] => return true
  | .field field :: rest => do
    if revision < (← get).stamps field then return false
    unchangedSince fetch revision rest
  | .query query lower :: rest => do
    let result ← fetch query lower
    if revision < result.changedAt then return false
    unchangedSince fetch revision rest

namespace Rules

variable (rules : Rules S) [DecidableEq S.Field] [DecidableEq S.Query]

/-- A result that is the same as the old one last changed when the old one did. -/
def changeOf (query : S.Query) (old : Option (Memo S query)) (value : S.Result query)
    (changedAt : Revision) : Revision :=
  match old with
  | some memo => if rules.same query memo.value value then memo.changedAt else changedAt
  | none => changedAt

/-- Run a query and remember its result. -/
def execute (query : S.Query)
    (fetch : (asked : S.Query) → S.rank asked < S.rank query → Engine S (Stamped (S.Result asked)))
    (old : Option (Memo S query)) : Engine S (Stamped (S.Result query)) := do
  modify fun store => { store with executed := query :: store.executed }
  let (value, trace) ← (rules.program query).traced fetch {}
  let changedAt := rules.changeOf query old value trace.changedAt
  modify fun store =>
    store.remember query
      { value, dependencies := trace.dependencies.reverse, verifiedAt := store.revision, changedAt }
  return ⟨value, changedAt⟩

/-- The result of a query, remembered or run. -/
def fetch (query : S.Query) : Engine S (Stamped (S.Result query)) := do
  let store ← get
  match store.memo? query with
  | none => rules.execute query (fun asked _ => fetch asked) none
  | some memo =>
    if memo.verifiedAt = store.revision then return ⟨memo.value, memo.changedAt⟩
    else if ← unchangedSince (fun asked _ => fetch asked) memo.verifiedAt memo.dependencies then
      modify fun store => store.remember query { memo with verifiedAt := store.revision }
      return ⟨memo.value, memo.changedAt⟩
    else rules.execute query (fun asked _ => fetch asked) (some memo)
termination_by S.rank query

end Rules
end TermBind.Incremental

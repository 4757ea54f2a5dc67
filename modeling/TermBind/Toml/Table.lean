import TermBind.Data.Value

/-! Tables of TOML documents as they grow by headers and keys. -/
namespace TermBind.Toml

open Data

/-- How a table came to be: by its own header, by the header of a table inside it, or by a key with
dots. -/
inductive Origin where
  | header
  | implied
  | dotted
deriving DecidableEq, Repr

inductive Entry where
  | value (value : Value)
  | table (origin : Origin) (entries : List (String × Entry))
  | rows (rows : List (List (String × Entry)))

abbrev Entries := List (String × Entry)

namespace Entries

/-- Replace the entry of a key or put a new one at the end. -/
def set (entries : Entries) (key : String) (entry : Entry) : Entries :=
  if (entries.lookup key).isSome then
    entries.map fun (name, held) => (name, if name == key then entry else held)
  else entries ++ [(key, entry)]

/-- Change the table at a path of headers; tables on the way are implied, and of rows the last one is
meant. -/
def update (change : Entries → Option Entries) : List String → Entries → Option Entries
  | [], entries => change entries
  | key :: path, entries =>
    match entries.lookup key with
    | none => do return entries.set key (.table .implied (← update change path []))
    | some (.table origin inner) => do return entries.set key (.table origin (← update change path inner))
    | some (.rows rows) => do
      let inner ← update change path (rows.getLast?.getD [])
      return entries.set key (.rows (rows.dropLast ++ [inner]))
    | some (.value _) => none

/-- Put a value under a key with dots. A table that has a header of its own cannot be reached so, and
the last table on the way must be one that such keys made. -/
def put (value : Value) (key : String) : List String → Entries → Option Entries
  | [], entries =>
    if (entries.lookup key).isSome then none else some (entries ++ [(key, .value value)])
  | step :: path, entries =>
    match entries.lookup step with
    | none => do return entries.set step (.table .dotted (← put value key path []))
    | some (.table .dotted inner) => do
      return entries.set step (.table .dotted (← put value key path inner))
    | some (.table .implied inner) =>
      if path.isEmpty then none
      else do return entries.set step (.table .implied (← put value key path inner))
    | some (.rows rows) =>
      if path.isEmpty then none
      else do
        let inner ← put value key path (rows.getLast?.getD [])
        return entries.set step (.rows (rows.dropLast ++ [inner]))
    | some _ => none

end Entries

/-- A value under a key, which is a path of names. -/
structure Pair where
  path : List String
  key : String
  value : Value

def putAll (pairs : List Pair) (entries : Entries) : Option Entries :=
  pairs.foldlM (fun entries pair => entries.put pair.value pair.key pair.path) entries

/-- What a header opens: a table, or one more row of a list of tables. -/
inductive Header where
  | table (path : List String) (key : String)
  | row (path : List String) (key : String)

/-- A table may be opened once, also when it was implied before; rows may only follow rows. -/
def openSection (pairs : List Pair) : Header → Entries → Option Entries
  | .table path key, entries =>
    entries.update (fun inner =>
      match inner.lookup key with
      | none => do return inner.set key (.table .header (← putAll pairs []))
      | some (.table .implied held) => do return inner.set key (.table .header (← putAll pairs held))
      | some _ => none) path
  | .row path key, entries =>
    entries.update (fun inner =>
      match inner.lookup key with
      | none => do return inner.set key (.rows [← putAll pairs []])
      | some (.rows rows) => do return inner.set key (.rows (rows ++ [← putAll pairs []]))
      | some _ => none) path

/-- The value of an entry. -/
def Entry.toValue : Entry → Value
  | .value held => held
  | .table _ entries => .record (ofEntries entries)
  | .rows held => .list (ofRows held)
where
  ofEntries : List (String × Entry) → List (String × Value)
    | [] => []
    | (key, entry) :: rest => (key, entry.toValue) :: ofEntries rest
  ofRows : List (List (String × Entry)) → List Value
    | [] => []
    | row :: rest => .record (ofEntries row) :: ofRows rest

end TermBind.Toml

/-! Strictly ascending lists as sets, and the grouping of keyed entries by ascending key. -/
namespace TermBind.Collection

variable {α : Type u} {κ : Type v}

/-- Put an element in its place; an element that compares equal is kept once. -/
def insertAscending [Ord α] (item : α) : List α → List α
  | [] => [item]
  | head :: rest =>
    match compare item head with
    | .lt => item :: head :: rest
    | .eq => head :: rest
    | .gt => head :: insertAscending item rest

/-- The elements of a list in ascending order, each once. -/
def ascending [Ord α] (items : List α) : List α :=
  items.foldr insertAscending []

/-- Entries gathered under their keys: keys ascend, values keep their order. -/
def groups [Ord κ] [BEq κ] (entries : List (κ × α)) : List (κ × List α) :=
  (ascending (entries.map Prod.fst)).map fun key =>
    (key, (entries.filter fun entry => entry.1 == key).map Prod.snd)

/-- The value stored last under each key, keys ascending. -/
def lastByKey [Ord κ] [BEq κ] (entries : List (κ × α)) : List (κ × α) :=
  (groups entries).filterMap fun group => group.2.getLast?.map fun value => (group.1, value)

/-- Stable ascending order by a key. -/
def sortOn [Ord κ] (key : α → κ) (items : List α) : List α :=
  items.mergeSort fun left right => (compare (key left) (key right)).isLE

@[simp] theorem ascending_nil [Ord α] : ascending ([] : List α) = [] := rfl

theorem ascending_cons [Ord α] (item : α) (items : List α) :
    ascending (item :: items) = insertAscending item (ascending items) := rfl

theorem sortOn_perm [Ord κ] (key : α → κ) (items : List α) : (sortOn key items).Perm items :=
  List.mergeSort_perm ..

end TermBind.Collection

import Mathlib.Logic.Relation
import TermBind.Source.Scope

/-! The imports of a module as one flat list. A path is resolved as this list says, so nothing depends on
how imports are put together in groups. -/
namespace TermBind.Source

open Grammar (unmarked)

/-- What one end of an import tree brings in: a path under a local name, or everything below a path. -/
inductive Leaf where
  | named (localName : String) (path : List String)
  | everything (path : List String)
deriving DecidableEq, Repr

namespace Leaf

def pathOf? (name : String) : Leaf → Option (List String)
  | .named localName path => if localName = name then some path else none
  | .everything _ => none

def glob? : Leaf → Option (List String)
  | .named .. => none
  | .everything path => some path

end Leaf

/-- How a way through an import tree ends. -/
inductive Ending where
  | name (segment : String)
  | rename (segment newName : String)
  | glob

/-- A way through an import tree: the segments on it, and its end. -/
structure Branch where
  segments : List String
  ending : Ending

namespace Branch

def below (segment : String) (branch : Branch) : Branch :=
  { branch with segments := segment :: branch.segments }

/-- The full path of a segment; `self` is the path before it. -/
def target (path : List String) (segment : String) : List String :=
  if unmarked segment = "self" then path else path ++ [unmarked segment]

/-- What a branch below a path brings in: a full path under its last segment or under a new name, unless
that is blank. Marks of raw identifiers are left out. -/
def leaf? (under : List String) (branch : Branch) : Option Leaf :=
  let path := under ++ branch.segments.map unmarked
  match branch.ending with
  | .name segment => (target path segment).getLast?.map fun last => .named last (target path segment)
  | .rename segment newName =>
    if unmarked newName = "_" then none else some (.named (unmarked newName) (target path segment))
  | .glob => some (.everything path)

end Branch

namespace UseTree

/-- The branches of a tree in source order. -/
def branches : UseTree → List Branch
  | .path segment tree => tree.branches.map (·.below segment)
  | .name segment => [⟨[], .name segment⟩]
  | .rename segment newName => [⟨[], .rename segment newName⟩]
  | .glob => [⟨[], .glob⟩]
  | .group trees => all trees
where
  all : List UseTree → List Branch
    | [] => []
    | tree :: rest => tree.branches ++ all rest

def leaves (under : List String) (tree : UseTree) : List Leaf := tree.branches.filterMap (·.leaf? under)

end UseTree

def Item.leaves : Item → List Leaf
  | .imports _ tree => tree.leaves []
  | _ => []

/-- All that the imports among items bring in, in source order. -/
def importedLeaves (items : List Item) : List Leaf := items.flatMap Item.leaves

/-- The full path of a written one: the last leaf of its first segment says what that stands for. Without
one, a single segment is below the path of the only leaf that imports everything, and any other path is
full as it is. -/
def resolved (leaves : List Leaf) : List String → List String
  | [] => []
  | first :: rest =>
    match (leaves.filterMap (·.pathOf? first)).getLast?, rest, leaves.filterMap Leaf.glob? with
    | some path, _, _ => path ++ rest
    | none, [], [path] => path ++ [first]
    | _, _, _ => first :: rest

namespace UseTree

variable (under : List String)

theorem leaves_name (segment : String) :
    leaves under (.name segment) = ((Branch.target under segment).getLast?.map fun last =>
      Leaf.named last (Branch.target under segment)).toList := by
  cases named : (Branch.target under segment).getLast? <;>
    simp [leaves, branches, Branch.leaf?, named]

theorem leaves_rename (segment newName : String) :
    leaves under (.rename segment newName) =
      if unmarked newName = "_" then []
      else [.named (unmarked newName) (Branch.target under segment)] := by
  split <;> simp [leaves, branches, Branch.leaf?, *]

theorem leaves_glob : leaves under .glob = [.everything under] := by
  simp [leaves, branches, Branch.leaf?]

theorem leaf?_below (segment : String) (branch : Branch) :
    (branch.below segment).leaf? under = branch.leaf? (under ++ [unmarked segment]) := by
  simp [Branch.leaf?, Branch.below]

theorem leaves_path (segment : String) (tree : UseTree) :
    leaves under (.path segment tree) = leaves (under ++ [unmarked segment]) tree := by
  simp only [leaves, branches, List.filterMap_map, Function.comp_def, leaf?_below]

theorem all_eq_flatMap (trees : List UseTree) : branches.all trees = trees.flatMap branches := by
  induction trees with
  | nil => rfl
  | cons tree rest ih => rw [branches.all, ih, List.flatMap_cons]

theorem leaves_group (trees : List UseTree) :
    leaves under (.group trees) = trees.flatMap (leaves under) := by
  rw [leaves, branches, all_eq_flatMap, List.filterMap_flatMap]
  rfl

end UseTree

namespace Scope

def add (scope : Scope) : Leaf → Scope
  | .named localName path => scope.bind localName path
  | .everything path => scope.addGlob path

theorem addName_eq (scope : Scope) (path : List String) (segment : String) :
    scope.addName path (unmarked segment) = (UseTree.leaves path (.name segment)).foldl add scope := by
  rw [UseTree.leaves_name, Branch.target, addName]
  by_cases self : unmarked segment = "self"
  · cases last : path.getLast? <;> simp [self, last, add]
  · simp [self, add]

theorem addRename_eq (scope : Scope) (path : List String) (segment newName : String) :
    scope.addRename path (unmarked segment) (unmarked newName) =
      (UseTree.leaves path (.rename segment newName)).foldl add scope := by
  rw [UseTree.leaves_rename, Branch.target, addRename]
  by_cases blank : unmarked newName = "_" <;> simp [blank, add]

mutual

/-- The path on the way down is that of the branches on the way up. -/
theorem addTree_eq (scope : Scope) (path : List String) (tree : UseTree) :
    scope.addTree path tree = (tree.leaves path).foldl add scope := by
  cases tree with
  | path segment tree =>
    rw [addTree, UseTree.leaves_path]
    exact addTree_eq scope _ tree
  | name segment => exact addName_eq scope path segment
  | rename segment newName => exact addRename_eq scope path segment newName
  | glob =>
    rw [addTree, UseTree.leaves_glob]
    rfl
  | group trees =>
    rw [addTree, UseTree.leaves_group]
    exact addTrees_eq scope path trees

theorem addTrees_eq (scope : Scope) (path : List String) (trees : List UseTree) :
    addTree.addTrees scope path trees = (trees.flatMap (UseTree.leaves path)).foldl add scope := by
  cases trees with
  | nil => rfl
  | cons tree rest =>
    rw [addTree.addTrees, List.flatMap_cons, List.foldl_append, addTree_eq scope path tree]
    exact addTrees_eq _ path rest

end

theorem ofItems_eq (items : List Item) : ofItems items = (importedLeaves items).foldl add {} := by
  have added : ∀ scope : Scope, items.foldl addItem scope = (importedLeaves items).foldl add scope := by
    induction items with
    | nil => exact fun _ => rfl
    | cons item rest ih =>
      intro scope
      have first : importedLeaves (item :: rest) = item.leaves ++ importedLeaves rest := rfl
      rw [List.foldl_cons, ih, first, List.foldl_append]
      cases item with
      | imports attributes tree =>
        rw [addItem, addTree_eq]
        rfl
      | _ => rfl
  exact added {}

theorem lookup_foldl (leaves : List Leaf) (scope : Scope) (name : String) :
    (leaves.foldl add scope).names.lookup name =
      (leaves.filterMap (·.pathOf? name)).getLast?.or (scope.names.lookup name) := by
  induction leaves generalizing scope with
  | nil => rfl
  | cons leaf rest ih =>
    rw [List.foldl_cons, ih]
    cases leaf with
    | named localName path =>
      by_cases same : localName = name
      · simp [add, bind, Leaf.pathOf?, same, List.getLast?_cons]
      · have other : (name == localName) = false := beq_false_of_ne (Ne.symm same)
        simp [add, bind, Leaf.pathOf?, same, List.lookup_cons, other]
    | everything path => simp [add, addGlob, Leaf.pathOf?]

theorem globs_foldl (leaves : List Leaf) (scope : Scope) :
    (leaves.foldl add scope).globs = scope.globs ++ leaves.filterMap Leaf.glob? := by
  induction leaves generalizing scope with
  | nil => simp
  | cons leaf rest ih =>
    rw [List.foldl_cons, ih]
    cases leaf <;> simp [add, bind, addGlob, Leaf.glob?, List.filterMap_cons]

theorem resolve_ofItems (items : List Item) (path : List String) :
    (ofItems items).resolve path = resolved (importedLeaves items) path := by
  cases path with
  | nil => rfl
  | cons first rest =>
    have named := lookup_foldl (importedLeaves items) {} first
    have globs := globs_foldl (importedLeaves items) {}
    rw [← ofItems_eq] at named globs
    simp only [List.nil_append, List.lookup_nil, Option.or_none] at named globs
    -- The scope is put into the specification, as the two choices are made by the same cases.
    simp only [resolved, ← named, ← globs]
    rfl

end Scope

/-- A tree with a group in it, and trees that say the same without this group: one for each entry. Behind
a path `self` is this path, under its own name or a new one. -/
inductive UseTree.Splits : UseTree → List UseTree → Prop
  | group (trees : List UseTree) : Splits (.group trees) trees
  | entry (before : List UseTree) {tree : UseTree} {parts : List UseTree} (after : List UseTree)
      (split : Splits tree parts) :
      Splits (.group (before ++ tree :: after)) [.group (before ++ parts ++ after)]
  | inside (segment : String) {tree : UseTree} {parts : List UseTree} (split : Splits tree parts) :
      Splits (.path segment tree) (parts.map (.path segment))
  | self {segment : String} (other : unmarked segment ≠ "self") :
      Splits (.path segment (.name "self")) [.name segment]
  | renamedSelf {segment : String} (newName : String) (other : unmarked segment ≠ "self") :
      Splits (.path segment (.rename "self" newName)) [.rename segment newName]

/-- Items in which one import is replaced, where it stands, by imports that say the same. -/
inductive Ungroups : List Item → List Item → Prop
  | step (before : List Item) (attributes : List Attribute) {tree : UseTree} {parts : List UseTree}
      (after : List Item) (split : tree.Splits parts) :
      Ungroups (before ++ .imports attributes tree :: after)
        (before ++ parts.map (.imports attributes) ++ after)

theorem UseTree.Splits.leaves_eq {tree : UseTree} {parts : List UseTree} (split : tree.Splits parts)
    (under : List String) : parts.flatMap (UseTree.leaves under) = tree.leaves under := by
  have keyword : unmarked "self" = "self" := rfl
  induction split generalizing under with
  | group trees => rw [leaves_group]
  | entry before after split ih => simp [leaves_group, ih]
  | inside segment split ih => simp [List.flatMap_map, leaves_path, ih]
  | self other => simp [leaves_path, leaves_name, Branch.target, keyword, other]
  | renamedSelf newName other => simp [leaves_path, leaves_rename, Branch.target, keyword, other]

theorem Ungroups.leaves_eq {items others : List Item} (ungrouped : Ungroups items others) :
    importedLeaves others = importedLeaves items := by
  cases ungrouped with
  | step before attributes after split =>
    simp [importedLeaves, List.flatMap_map, Item.leaves, split.leaves_eq]

/-- A path is resolved as the flat list of imports says, and so in the same way when any groups are
replaced, where they stand and at any depth, by separate imports. -/
theorem resolve_flattened (items : List Item) :
    (∀ path, (Scope.ofItems items).resolve path = resolved (importedLeaves items) path) ∧
      ∀ others, Relation.ReflTransGen Ungroups items others →
        ∀ path, (Scope.ofItems others).resolve path = (Scope.ofItems items).resolve path := by
  refine ⟨Scope.resolve_ofItems items, fun others ungrouped path => ?_⟩
  have same : importedLeaves others = importedLeaves items := by
    induction ungrouped with
    | refl => rfl
    | tail _ last ih => rw [last.leaves_eq, ih]
  rw [Scope.resolve_ofItems, Scope.resolve_ofItems, same]

/-- A group in a group, with the path before it and a new name among its entries. -/
def groupedImports : List Item :=
  [.imports [] (.path "a" (.group [.name "self", .path "b" (.group [.rename "c" "d", .glob])]))]

def separateImports : List Item :=
  [.imports [] (.name "a"), .imports [] (.path "a" (.path "b" (.rename "c" "d"))),
    .imports [] (.path "a" (.path "b" .glob))]

theorem resolve_flattened_grouped : Relation.ReflTransGen Ungroups groupedImports separateImports ∧
    ∀ path, (Scope.ofItems separateImports).resolve path = (Scope.ofItems groupedImports).resolve path := by
  have outer := Ungroups.step [] [] [] (.inside "a" (.group [.name "self",
    .path "b" (.group [.rename "c" "d", .glob])]))
  have inner := Ungroups.step [.imports [] (.path "a" (.name "self"))] [] []
    (.inside "a" (.inside "b" (.group [.rename "c" "d", .glob])))
  have self := Ungroups.step [] [] [.imports [] (.path "a" (.path "b" (.rename "c" "d"))),
    .imports [] (.path "a" (.path "b" .glob))] (.self (by decide : unmarked "a" ≠ "self"))
  have ungrouped : Relation.ReflTransGen Ungroups groupedImports separateImports :=
    ((Relation.ReflTransGen.single outer).tail inner).tail self
  exact ⟨ungrouped, (resolve_flattened groupedImports).2 separateImports ungrouped⟩

example : (Scope.ofItems groupedImports).resolve ["d", "e"] = ["a", "b", "c", "e"] := by decide

end TermBind.Source

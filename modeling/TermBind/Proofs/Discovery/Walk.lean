import TermBind.Discovery
import TermBind.Proofs.File.Location

/-! What a walk through a tree finds: the files below its root, but for those on the other side of the
path to skip. -/
namespace TermBind.Discovery

open File

/-- The files below a path with their contents, except what is below the path to skip. -/
def walked (skip path : Path) : Tree → List (Path × ByteArray)
  | .file content => if path.same skip then [] else [(path, content)]
  | .directory entries => if path.same skip then [] else walkedAll skip path entries
where
  walkedAll (skip path : Path) : List (String × Tree) → List (Path × ByteArray)
    | [] => []
    | (name, entry) :: rest => walked skip (path.join ⟨name⟩) entry ++ walkedAll skip path rest

mutual

theorem walk_listing (skip path : Path) (tree : Tree) :
    walk skip path tree.listing = (walked skip path tree).map Prod.fst := by
  cases tree with
  | file content =>
    rw [Tree.listing, walk, walked]
    split <;> rfl
  | directory entries =>
    rw [Tree.listing, walk, walked]
    split
    · rfl
    · exact walkAll_listings skip path entries

theorem walkAll_listings (skip path : Path) (entries : List (String × Tree)) :
    walk.walkAll skip path (Tree.listing.listings entries) =
      (walked.walkedAll skip path entries).map Prod.fst := by
  cases entries with
  | nil => rfl
  | cons entry rest =>
    rw [Tree.listing.listings, walk.walkAll, walked.walkedAll, List.map_append,
      walk_listing skip (path.join ⟨entry.1⟩) entry.2, walkAll_listings skip path rest]

end

/-- No step from a path along names is at the path to skip. -/
def Passes (skip path : Path) (names : List String) : Prop :=
  ∀ upper, upper <+: names → (path.below upper).same skip = false

theorem passes_nil {skip path : Path} : Passes skip path [] ↔ path.same skip = false := by
  simp [Passes, Path.below]

theorem passes_cons {skip path : Path} {name : String} {rest : List String} :
    Passes skip path (name :: rest) ↔
      path.same skip = false ∧ Passes skip (path.join ⟨name⟩) rest := by
  constructor
  · intro passes
    exact ⟨passes [] List.nil_prefix, fun upper begins =>
      passes (name :: upper) (List.cons_prefix_cons.mpr ⟨rfl, begins⟩)⟩
  · rintro ⟨own, passes⟩ upper begins
    cases upper with
    | nil => exact own
    | cons first upper =>
      obtain ⟨rfl, begins'⟩ := List.cons_prefix_cons.mp begins
      exact passes upper begins'

theorem mem_walkedAll_iff {skip path : Path} {entries : List (String × Tree)}
    {found : Path × ByteArray} : found ∈ walked.walkedAll skip path entries ↔
      ∃ entry ∈ entries, found ∈ walked skip (path.join ⟨entry.1⟩) entry.2 := by
  induction entries with
  | nil => simp [walked.walkedAll]
  | cons entry rest ih => simp [walked.walkedAll, ih]

/-- A walk finds the files that it can go to. -/
theorem mem_walked_iff {skip path : Path} {tree : Tree} (formed : tree.WellFormed) {found : Path}
    {content : ByteArray} : (found, content) ∈ walked skip path tree ↔
      ∃ names, found = path.below names ∧ tree.at? names = some (.file content) ∧
        Passes skip path names := by
  induction formed generalizing path with
  | file own =>
    rw [walked]
    constructor
    · intro member
      split at member
      · cases member
      · rename_i outside
        cases List.mem_singleton.mp member
        exact ⟨[], rfl, rfl, passes_nil.mpr (by simpa using outside)⟩
    · rintro ⟨names, rfl, here, passes⟩
      cases names with
      | nil =>
        cases here
        simp [passes_nil.mp passes, Path.below]
      | cons name rest => cases here
  | directory entries ascending named inner ih =>
    rw [walked]
    constructor
    · intro member
      split at member
      · cases member
      · rename_i outside
        obtain ⟨⟨name, entry⟩, known, member⟩ := mem_walkedAll_iff.mp member
        obtain ⟨names, rfl, here, passes⟩ := (ih _ known).mp member
        refine ⟨name :: names, rfl, ?_, passes_cons.mpr ⟨by simpa using outside, passes⟩⟩
        rw [Tree.at?_cons, Tree.entries, Tree.lookup_eq_of_mem ascending known]
        exact here
    · rintro ⟨names, rfl, here, passes⟩
      cases names with
      | nil => cases here
      | cons name rest =>
        obtain ⟨outside, passes⟩ := passes_cons.mp passes
        obtain ⟨entry, known, here⟩ := Option.bind_eq_some_iff.mp here
        obtain ⟨before, later, spelled, _⟩ := List.lookup_eq_some_iff.mp known
        have member : (name, entry) ∈ entries := by
          rw [show entries = before ++ (name, entry) :: later from spelled]
          simp
        rw [outside]
        exact mem_walkedAll_iff.mpr ⟨_, member, (ih _ member).mpr ⟨rest, rfl, here, passes⟩⟩

end TermBind.Discovery

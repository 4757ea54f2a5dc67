import Mathlib.Data.List.Infix
import TermBind.File.Disk
import TermBind.Proofs.Path.Components

/-! Trees of files: what is at a place after something was put at another one. -/
namespace TermBind.File

open Std

/-- A name that an entry of a directory has: none that a path could not spell. -/
structure IsEntryName (name : String) : Prop extends Path.IsName name where
  nulFree : '\x00' ∉ name.toList
  usable : Disk.isUsable name = true

instance (name : String) : Decidable (IsEntryName name) :=
  decidable_of_iff (Path.IsName name ∧ '\x00' ∉ name.toList ∧ Disk.isUsable name = true)
    ⟨fun named => ⟨named.1, named.2.1, named.2.2⟩,
      fun named => ⟨named.toIsName, named.nulFree, named.usable⟩⟩

namespace Tree

/-- Entries have names and ascend by them. -/
inductive WellFormed : Tree → Prop where
  | file (content : ByteArray) : WellFormed (.file content)
  | directory (entries : List (String × Tree))
      (ascending : entries.Pairwise fun left right => compare left.1 right.1 = .lt)
      (named : ∀ entry ∈ entries, IsEntryName entry.1)
      (inner : ∀ entry ∈ entries, WellFormed entry.2) : WellFormed (.directory entries)

/-- Being well-formed, as it can be computed. -/
def isWellFormed : Tree → Bool
  | .file _ => true
  | .directory entries =>
    decide ((entries.map Prod.fst).Pairwise fun left right => compare left right = .lt) &&
      entriesWellFormed entries
where
  entriesWellFormed : List (String × Tree) → Bool
    | [] => true
    | (name, entry) :: rest =>
      decide (IsEntryName name) && entry.isWellFormed && entriesWellFormed rest

mutual

theorem wellFormed_of_isWellFormed {tree : Tree} (formed : tree.isWellFormed = true) :
    tree.WellFormed := by
  cases tree with
  | file content => exact .file content
  | directory entries =>
    rw [isWellFormed, Bool.and_eq_true, decide_eq_true_eq, List.pairwise_map] at formed
    have inner := wellFormed_of_entriesWellFormed formed.2
    exact .directory entries formed.1 (fun entry member => (inner entry member).1)
      fun entry member => (inner entry member).2

theorem wellFormed_of_entriesWellFormed {entries : List (String × Tree)}
    (formed : isWellFormed.entriesWellFormed entries = true) :
    ∀ entry ∈ entries, IsEntryName entry.1 ∧ entry.2.WellFormed := by
  cases entries with
  | nil => simp
  | cons first rest =>
    obtain ⟨name, tree⟩ := first
    rw [isWellFormed.entriesWellFormed, Bool.and_eq_true, Bool.and_eq_true,
      decide_eq_true_eq] at formed
    have later := wellFormed_of_entriesWellFormed formed.2
    intro entry member
    rcases List.mem_cons.mp member with rfl | member
    · exact ⟨formed.1.1, wellFormed_of_isWellFormed formed.1.2⟩
    · exact later entry member

end

/-- There is a directory at a place. -/
def HasDirectory (tree : Tree) (place : Place) : Prop :=
  ∃ entries, tree.at? place = some (.directory entries)

@[simp] theorem at?_nil (tree : Tree) : tree.at? [] = some tree := rfl

@[simp] theorem at?_cons (tree : Tree) (name : String) (rest : Place) :
    tree.at? (name :: rest) = (tree.entries.lookup name).bind (·.at? rest) := rfl

theorem at?_append (tree : Tree) (place rest : Place) :
    tree.at? (place ++ rest) = (tree.at? place).bind (·.at? rest) := by
  induction place generalizing tree with
  | nil => rfl
  | cons name place ih =>
    cases found : tree.entries.lookup name with
    | none => simp [found]
    | some entry => simp [found, ih]

theorem hasDirectory_of_at?_append {tree below : Tree} {place : Place} {name : String} {rest : Place}
    (found : tree.at? (place ++ name :: rest) = some below) : tree.HasDirectory place := by
  rw [at?_append] at found
  cases here : tree.at? place with
  | none => simp [here] at found
  | some node =>
    cases node with
    | file content => simp [here, entries] at found
    | directory entries => exact ⟨entries, here⟩

section Entries

variable {name : String} {tree : Tree} {entries : List (String × Tree)}

theorem lookup_insertEntry_self (name : String) (tree : Tree) (entries : List (String × Tree)) :
    (insertEntry name tree entries).lookup name = some tree := by
  induction entries with
  | nil => simp [insertEntry]
  | cons entry rest ih =>
    unfold insertEntry
    split
    · simp
    · simp
    · rename_i later
      have other : (name == entry.1) = false := by
        rw [beq_eq_false_iff_ne]
        rintro rfl
        simp at later
      rw [List.lookup_cons, other]
      exact ih

theorem lookup_insertEntry_of_ne {other : String} (different : other ≠ name) (tree : Tree)
    (entries : List (String × Tree)) :
    (insertEntry name tree entries).lookup other = entries.lookup other := by
  have unlike : (other == name) = false := by simpa using different
  induction entries with
  | nil => rw [insertEntry, List.lookup_cons, unlike]
  | cons entry rest ih =>
    unfold insertEntry
    split
    · rw [List.lookup_cons, unlike]
    · rename_i level
      have same : name = entry.1 := LawfulEqOrd.eq_of_compare level
      rw [List.lookup_cons, List.lookup_cons, ← same, unlike]
    · rw [List.lookup_cons, List.lookup_cons, ih]

theorem mem_insertEntry {entry : String × Tree} (member : entry ∈ insertEntry name tree entries) :
    entry = (name, tree) ∨ entry ∈ entries := by
  induction entries with
  | nil => simpa [insertEntry] using member
  | cons first rest ih =>
    unfold insertEntry at member
    split at member
    · simpa using member
    · rcases List.mem_cons.mp member with own | later
      · exact Or.inl own
      · exact Or.inr (List.mem_cons_of_mem _ later)
    · rcases List.mem_cons.mp member with own | later
      · exact Or.inr (own ▸ List.mem_cons_self ..)
      · exact (ih later).imp_right (List.mem_cons_of_mem _)

theorem pairwise_insertEntry
    (ascending : entries.Pairwise fun left right => compare left.1 right.1 = .lt) :
    (insertEntry name tree entries).Pairwise fun left right => compare left.1 right.1 = .lt := by
  induction entries with
  | nil => simp [insertEntry]
  | cons first rest ih =>
    obtain ⟨least, ascending'⟩ := List.pairwise_cons.mp ascending
    unfold insertEntry
    split
    · rename_i before
      refine List.pairwise_cons.mpr ⟨fun entry member => ?_, ascending⟩
      rcases List.mem_cons.mp member with rfl | later
      · exact before
      · exact TransCmp.lt_trans before (least entry later)
    · rename_i level
      have same : name = first.1 := LawfulEqOrd.eq_of_compare level
      exact List.pairwise_cons.mpr ⟨fun entry member => same ▸ least entry member, ascending'⟩
    · rename_i after
      refine List.pairwise_cons.mpr ⟨fun entry member => ?_, ih ascending'⟩
      rcases mem_insertEntry member with rfl | later
      · exact OrientedCmp.lt_of_gt after
      · exact least entry later

theorem lookup_eq_of_mem
    (ascending : entries.Pairwise fun left right => compare left.1 right.1 = .lt)
    (member : (name, tree) ∈ entries) : entries.lookup name = some tree := by
  induction entries with
  | nil => cases member
  | cons first rest ih =>
    obtain ⟨least, ascending'⟩ := List.pairwise_cons.mp ascending
    rcases List.mem_cons.mp member with rfl | later
    · simp
    · have other : (name == first.1) = false := by
        rw [beq_eq_false_iff_ne]
        rintro rfl
        simpa using least _ later
      rw [List.lookup_cons, other]
      exact ih ascending' later

end Entries

section Put

variable {tree content after : Tree} {place : Place}

theorem exists_of_put?_cons {name : String} {rest : Place}
    (put : tree.put? content (name :: rest) = some after) :
    ∃ entries, tree = .directory entries ∧ ∃ entry, after = .directory (insertEntry name entry entries) ∧
      ((∃ old, entries.lookup name = some old ∧ old.put? content rest = some entry) ∨
        entries.lookup name = none ∧ rest = [] ∧ entry = content) := by
  cases tree with
  | file old => cases put
  | directory entries =>
    refine ⟨entries, rfl, ?_⟩
    unfold put? at put
    dsimp only at put
    split at put
    · rename_i old known
      obtain ⟨entry, inner, same⟩ := Option.bind_eq_some_iff.mp put
      exact ⟨entry, (Option.some.inj same).symm, Or.inl ⟨old, known, inner⟩⟩
    · rename_i unknown
      cases put
      exact ⟨content, rfl, Or.inr ⟨unknown, rfl, rfl⟩⟩
    · cases put

/-- Below the place is what was put there. -/
theorem at?_put?_below (put : tree.put? content place = some after) (rest : Place) :
    after.at? (place ++ rest) = content.at? rest := by
  induction place generalizing tree after with
  | nil =>
    cases put
    rfl
  | cons name place ih =>
    obtain ⟨entries, rfl, entry, rfl, ⟨old, _, inner⟩ | ⟨_, rfl, rfl⟩⟩ := exists_of_put?_cons put
    · simpa [Tree.entries, lookup_insertEntry_self] using ih inner
    · simp [Tree.entries, lookup_insertEntry_self]

/-- Nothing changes at a place that is neither above nor below. -/
theorem at?_put?_beside (put : tree.put? content place = some after) {other : Place}
    (notBelow : ¬ place <+: other) (notAbove : ¬ other <+: place) :
    after.at? other = tree.at? other := by
  induction place generalizing tree after other with
  | nil => exact absurd (List.nil_prefix) notBelow
  | cons name place ih =>
    obtain ⟨entries, rfl, entry, rfl, step⟩ := exists_of_put?_cons put
    cases other with
    | nil => exact absurd (List.nil_prefix) notAbove
    | cons first rest =>
      by_cases same : first = name
      · subst same
        rw [List.cons_prefix_cons] at notBelow notAbove
        rcases step with ⟨old, known, inner⟩ | ⟨_, rfl, _⟩
        · simpa [Tree.entries, lookup_insertEntry_self, known] using
            ih inner (fun below => notBelow ⟨rfl, below⟩) fun above => notAbove ⟨rfl, above⟩
        · exact absurd ⟨rfl, List.nil_prefix⟩ notBelow
      · simp [Tree.entries, lookup_insertEntry_of_ne same]

/-- Something is put below an upper place where it is put in what is there. -/
theorem at?_put?_above (put : tree.put? content place = some after) {above : Place} {name : String}
    {rest : Place} (split : place = above ++ name :: rest) :
    ∃ node node', tree.at? above = some node ∧ node.put? content (name :: rest) = some node' ∧
      after.at? above = some node' := by
  induction above generalizing tree after place with
  | nil => exact ⟨tree, after, rfl, by rwa [← show place = name :: rest from split], rfl⟩
  | cons first above ih =>
    subst split
    obtain ⟨entries, rfl, entry, rfl, ⟨old, known, inner⟩ | ⟨_, none, _⟩⟩ := exists_of_put?_cons put
    · obtain ⟨node, node', found, made, found'⟩ := ih inner rfl
      exact ⟨node, node', by simpa [Tree.entries, known] using found, made,
        by simpa [Tree.entries, lookup_insertEntry_self] using found'⟩
    · simp at none

theorem hasDirectory_of_put? {above : Place} {name : String} {rest : Place}
    (put : tree.put? content (above ++ name :: rest) = some after) :
    tree.HasDirectory above ∧ after.HasDirectory above := by
  obtain ⟨node, node', found, made, found'⟩ := at?_put?_above put rfl
  obtain ⟨entries, rfl, entry, rfl, _⟩ := exists_of_put?_cons made
  exact ⟨⟨entries, found⟩, ⟨_, found'⟩⟩

/-- Places are beside each other, or one is above the other. -/
theorem cases_place (place other : Place) :
    place <+: other ∨ (∃ name rest, place = other ++ name :: rest) ∨
      (¬ place <+: other ∧ ¬ other <+: place) := by
  by_cases below : place <+: other
  · exact Or.inl below
  · by_cases above : other <+: place
    · obtain ⟨rest, rfl⟩ := above
      cases rest with
      | nil => simp at below
      | cons name rest => exact Or.inr (Or.inl ⟨name, rest, rfl⟩)
    · exact Or.inr (Or.inr ⟨below, above⟩)

/-- A file is changed only at or below the place. -/
theorem at?_put?_file (put : tree.put? content place = some after) {other : Place}
    (notBelow : ¬ place <+: other) (found : ByteArray) :
    after.at? other = some (.file found) ↔ tree.at? other = some (.file found) := by
  rcases cases_place place other with below | ⟨name, rest, rfl⟩ | ⟨_, notAbove⟩
  · exact absurd below notBelow
  · obtain ⟨⟨entries, here⟩, ⟨entries', here'⟩⟩ := hasDirectory_of_put? put
    simp [here, here']
  · rw [at?_put?_beside put notBelow notAbove]

/-- Directories stay where something is put in a place that has none. -/
theorem HasDirectory.put? {other : Place} (found : tree.HasDirectory other)
    (put : tree.put? content place = some after) (free : ¬ tree.HasDirectory place) :
    after.HasDirectory other := by
  obtain ⟨entries, here⟩ := found
  rcases cases_place place other with ⟨rest, rfl⟩ | ⟨name, rest, rfl⟩ | ⟨notBelow, notAbove⟩
  · cases rest with
    | nil => exact absurd ⟨entries, by simpa using here⟩ free
    | cons name rest => exact absurd (hasDirectory_of_at?_append here) free
  · exact (hasDirectory_of_put? put).2
  · exact ⟨entries, by rw [at?_put?_beside put notBelow notAbove, here]⟩

theorem WellFormed.put? (formed : tree.WellFormed) (own : content.WellFormed)
    (named : ∀ name ∈ place.getLast?, IsEntryName name)
    (put : tree.put? content place = some after) : after.WellFormed := by
  induction place generalizing tree after with
  | nil =>
    cases put
    exact own
  | cons name place ih =>
    obtain ⟨entries, rfl, entry, rfl, step⟩ := exists_of_put?_cons put
    cases formed with
    | directory _ ascending names inner =>
      have entryFormed : entry.WellFormed ∧ IsEntryName name := by
        rcases step with ⟨old, known, inner'⟩ | ⟨_, rfl, rfl⟩
        · obtain ⟨before, later, spelled, _⟩ := List.lookup_eq_some_iff.mp known
          have member : (name, old) ∈ entries := by simp [spelled]
          refine ⟨ih (inner _ member) (fun last known => named last ?_) inner', names _ member⟩
          cases place with
          | nil => cases known
          | cons second rest => simpa [List.getLast?_cons_cons] using known
        · exact ⟨own, named name rfl⟩
      refine .directory _ (pairwise_insertEntry ascending) ?_ ?_
      · intro found member
        rcases mem_insertEntry member with rfl | earlier
        · exact entryFormed.2
        · exact names found earlier
      · intro found member
        rcases mem_insertEntry member with rfl | earlier
        · exact entryFormed.1
        · exact inner found earlier

end Put

theorem WellFormed.at? {tree below : Tree} {place : Place} (formed : tree.WellFormed)
    (found : tree.at? place = some below) :
    below.WellFormed ∧ ∀ name ∈ place, IsEntryName name := by
  induction place generalizing tree with
  | nil =>
    cases found
    exact ⟨formed, by simp⟩
  | cons name place ih =>
    obtain ⟨entry, known, inner⟩ := Option.bind_eq_some_iff.mp found
    cases formed with
    | file content => cases known
    | directory entries _ named formed =>
      obtain ⟨before, later, spelled, _⟩ := List.lookup_eq_some_iff.mp known
      have member : (name, entry) ∈ entries := by
        rw [show entries = before ++ (name, entry) :: later from spelled]
        simp
      obtain ⟨ending, names⟩ := ih (formed _ member) inner
      refine ⟨ending, fun other own => ?_⟩
      rcases List.mem_cons.mp own with rfl | later
      · exact named _ member
      · exact names other later

end Tree
end TermBind.File

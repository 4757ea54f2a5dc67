import TermBind.Proofs.Discovery.Files
import TermBind.Proofs.File.Writing

/-! What finding files does not see: empty directories that are made, and files that are written behind
the path to skip. -/
namespace TermBind.Discovery

open File Std

section Walk

variable {skip path : Path} {tree content after : Tree} {place : Place}

theorem walked_of_same (skipped : path.same skip = true) (tree : Tree) : walked skip path tree = [] := by
  cases tree <;> simp [walked, skipped]

theorem walked_empty (skip path : Path) : walked skip path (.directory []) = [] := by
  simp [walked, walked.walkedAll]

theorem lookup_eq_none_of_lt {name : String} {first : String × Tree} {rest : List (String × Tree)}
    (ascending : (first :: rest).Pairwise fun left right => compare left.1 right.1 = .lt)
    (less : compare name first.1 = .lt) : (first :: rest).lookup name = none := by
  rw [List.lookup_eq_none_iff]
  intro entry member
  rw [bne_iff_ne]
  rintro rfl
  rcases List.mem_cons.mp member with rfl | later
  · simp at less
  · have back := TransCmp.lt_trans less ((List.pairwise_cons.mp ascending).1 entry later)
    simp at back

/-- An entry that is put in its place changes nothing if the walk finds the same in it as before. -/
theorem walkedAll_insertEntry {name : String} {entry : Tree} {entries : List (String × Tree)}
    (ascending : entries.Pairwise fun left right => compare left.1 right.1 = .lt)
    (same : walked skip (path.join ⟨name⟩) entry =
      ((entries.lookup name).map (walked skip (path.join ⟨name⟩))).getD []) :
    walked.walkedAll skip path (Tree.insertEntry name entry entries) =
      walked.walkedAll skip path entries := by
  induction entries with
  | nil => simpa [Tree.insertEntry, walked.walkedAll] using same
  | cons first rest ih =>
    unfold Tree.insertEntry
    split
    · rename_i before
      rw [lookup_eq_none_of_lt ascending before] at same
      rw [walked.walkedAll, same]
      rfl
    · rename_i level
      obtain rfl : name = first.1 := LawfulEqOrd.eq_of_compare level
      rw [List.lookup_cons] at same
      obtain ⟨name, old⟩ := first
      simp only [beq_self_eq_true, Option.map_some, Option.getD_some] at same
      rw [walked.walkedAll, walked.walkedAll, same]
    · rename_i later
      have other : (name == first.1) = false := by
        rw [beq_eq_false_iff_ne]
        rintro rfl
        simp at later
      rw [List.lookup_cons, other] at same
      obtain ⟨own, old⟩ := first
      rw [walked.walkedAll, walked.walkedAll, ih (List.pairwise_cons.mp ascending).2 same]

/-- What is put in a tree is not found behind the path to skip, nor where nothing was if there is nothing
to find in it. -/
theorem walked_put? (formed : tree.WellFormed) (put : tree.put? content place = some after)
    (quiet : (∃ upper, upper <+: place ∧ (path.below upper).same skip = true) ∨
      (tree.at? place = none ∧ ∀ path, walked skip path content = [])) :
    walked skip path after = walked skip path tree := by
  induction place generalizing tree after path with
  | nil =>
    rcases quiet with ⟨upper, begins, skipped⟩ | ⟨free, _⟩
    · obtain rfl := List.prefix_nil.mp begins
      have own : path.same skip = true := skipped
      rw [walked_of_same own, walked_of_same own]
    · cases free
  | cons name rest ih =>
    obtain ⟨entries, rfl, entry, rfl, step⟩ := Tree.exists_of_put?_cons put
    cases formed with
    | directory _ ascending _ inner =>
      rw [walked, walked]
      cases skipped : path.same skip with
      | true => rfl
      | false =>
        refine walkedAll_insertEntry ascending ?_
        -- The path itself is not skipped, so what hides the place is further down.
        have below : ∀ upper, upper <+: name :: rest → (path.below upper).same skip = true →
            ∃ upper', upper' <+: rest ∧ ((path.join ⟨name⟩).below upper').same skip = true := by
          intro upper begins hidden
          cases upper with
          | nil => simp [Path.below, skipped] at hidden
          | cons first upper =>
            obtain ⟨rfl, begins'⟩ := List.cons_prefix_cons.mp begins
            exact ⟨upper, begins', hidden⟩
        rcases step with ⟨old, known, inner'⟩ | ⟨unknown, rfl, rfl⟩
        · rw [known]
          obtain ⟨front, back, spelled, _⟩ := List.lookup_eq_some_iff.mp known
          refine ih (inner (name, old) (by simp [spelled])) inner' ?_
          rcases quiet with ⟨upper, begins, hidden⟩ | ⟨free, nothing⟩
          · exact Or.inl (below upper begins hidden)
          · exact Or.inr ⟨by simpa [Tree.entries, known] using free, nothing⟩
        · rw [unknown]
          rcases quiet with ⟨upper, begins, hidden⟩ | ⟨_, nothing⟩
          · obtain ⟨upper', begins', hidden'⟩ := below upper begins hidden
            obtain rfl := List.prefix_nil.mp begins'
            exact walked_of_same hidden' entry
          · exact nothing _

end Walk

section Tree

variable {skip path : Path} {tree after : Tree} {place start : Place}

/-- The files below a place are the same after an empty directory is made. -/
theorem filesOf_made (formed : tree.WellFormed) (free : tree.at? place = none)
    (made : tree.put? (.directory []) place = some after) (start : Place) :
    filesOf skip path (after.at? start) = filesOf skip path (tree.at? start) := by
  rcases Tree.cases_place place start with ⟨rest, rfl⟩ | ⟨name, rest, rfl⟩ | ⟨notBelow, notAbove⟩
  · rw [Tree.at?_append_of_free free, Tree.at?_put?_below made]
    cases rest with
    | nil => exact walked_empty skip path
    | cons name rest => simp [Tree.entries, filesOf]
  · obtain ⟨node, node', here, put, here'⟩ := Tree.at?_put?_above made rfl
    obtain ⟨entries, rfl, entry, rfl, _⟩ := Tree.exists_of_put?_cons put
    rw [here, here']
    refine walked_put? (formed.at? here).1 put (Or.inr ⟨?_, walked_empty skip⟩)
    simpa [Tree.at?_append, here] using free
  · rw [Tree.at?_put?_beside made notBelow notAbove]

theorem filesOf_grown {allowed : Place → Prop} (grows : Tree.Grows allowed tree after)
    (formed : tree.WellFormed) (start : Place) :
    filesOf skip path (after.at? start) = filesOf skip path (tree.at? start) := by
  induction grows with
  | same => rfl
  | more earlier _ free _ made ih => rw [filesOf_made (earlier.wellFormed formed) free made, ih]

/-- The files below a place are the same after a file is written behind the path to skip. -/
theorem filesOf_written (formed : tree.WellFormed) {bytes : ByteArray}
    (put : tree.put? (.file bytes) place = some after) (notDirectory : ¬ tree.HasDirectory place)
    (hidden : ∀ name rest, place = start ++ name :: rest →
      ∃ upper, upper <+: name :: rest ∧ (path.below upper).same skip = true) :
    filesOf skip path (after.at? start) = filesOf skip path (tree.at? start) := by
  rcases Tree.cases_place place start with ⟨rest, rfl⟩ | ⟨name, rest, rfl⟩ | ⟨notBelow, notAbove⟩
  · cases rest with
    | nil =>
      rw [List.append_nil, Tree.at?_written put]
      rcases here : tree.at? place with _ | _ | entries
      · rfl
      · rfl
      · exact absurd ⟨entries, here⟩ notDirectory
    | cons name rest =>
      obtain ⟨before, later⟩ := Tree.at?_eq_none_below put notDirectory name rest
      rw [before, later]
  · obtain ⟨node, node', here, put', here'⟩ := Tree.at?_put?_above put rfl
    obtain ⟨entries, rfl, entry, rfl, _⟩ := Tree.exists_of_put?_cons put'
    rw [here, here']
    exact walked_put? (formed.at? here).1 put' (Or.inl (hidden name rest rfl))
  · rw [Tree.at?_put?_beside put notBelow notAbove]

end Tree

end TermBind.Discovery

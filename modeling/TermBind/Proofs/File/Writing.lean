import TermBind.Proofs.File.Making

/-! Reading and writing files: when it can be done, and what it leaves as it was. -/
namespace TermBind.File

namespace Tree

section Put

variable {tree after content : Tree} {place other : Place}

theorem put?_isSome {name : String} (found : tree.HasDirectory place) :
    (tree.put? content (place ++ [name])).isSome = true := by
  obtain ⟨entries, here⟩ := found
  induction place generalizing tree with
  | nil =>
    cases here
    cases known : entries.lookup name <;> simp [put?, known]
  | cons first rest ih =>
    obtain ⟨entry, known, inner⟩ := Option.bind_eq_some_iff.mp here
    cases tree with
    | file content => cases known
    | directory entries =>
      obtain ⟨made, put⟩ := Option.isSome_iff_exists.mp (ih inner)
      have known' : entries.lookup first = some entry := known
      unfold put?
      simp only [List.cons_append, known', put]
      rfl

variable {bytes : ByteArray} (put : tree.put? (.file bytes) place = some after)
  (notDirectory : ¬ tree.HasDirectory place)
include put

theorem at?_written : after.at? place = some (.file bytes) := by
  simpa using at?_put?_below put []

include notDirectory

theorem at?_eq_none_below (name : String) (rest : Place) :
    tree.at? (place ++ name :: rest) = none ∧ after.at? (place ++ name :: rest) = none := by
  constructor
  · rw [Option.eq_none_iff_forall_ne_some]
    exact fun below found => notDirectory (hasDirectory_of_at?_append found)
  · simp [at?_put?_below put, entries]

/-- Other files stay as they are, and none comes elsewhere. -/
theorem at?_written_file_iff (different : other ≠ place) {content : ByteArray} :
    after.at? other = some (.file content) ↔ tree.at? other = some (.file content) := by
  by_cases below : place <+: other
  · obtain ⟨rest, rfl⟩ := below
    cases rest with
    | nil => simp at different
    | cons name rest =>
      obtain ⟨before, later⟩ := at?_eq_none_below put notDirectory name rest
      rw [before, later]
  · exact at?_put?_file put below content

theorem at?_written_of_free (different : other ≠ place) (free : tree.at? other = none) :
    after.at? other = none := by
  rcases cases_place place other with ⟨rest, rfl⟩ | ⟨name, rest, rfl⟩ | ⟨notBelow, notAbove⟩
  · cases rest with
    | nil => simp at different
    | cons name rest => exact (at?_eq_none_below put notDirectory name rest).2
  · obtain ⟨entries, here⟩ := (hasDirectory_of_put? put).1
    simp [free] at here
  · rw [at?_put?_beside put notBelow notAbove, free]

theorem hasDirectory_written_iff : after.HasDirectory other ↔ tree.HasDirectory other := by
  constructor
  · rintro ⟨entries, here⟩
    rcases cases_place place other with ⟨rest, rfl⟩ | ⟨name, rest, rfl⟩ | ⟨notBelow, notAbove⟩
    · cases rest with
      | nil => simp [at?_written put] at here
      | cons name rest => simp [(at?_eq_none_below put notDirectory name rest).2] at here
    · exact (hasDirectory_of_put? put).1
    · exact ⟨entries, by rw [← at?_put?_beside put notBelow notAbove, here]⟩
  · exact fun found => found.put? put notDirectory

end Put

end Tree

namespace Disk

variable {disk after : Disk} {path : Path} {bytes content : ByteArray}

theorem read?_eq_some_iff : disk.read? path = some bytes ↔ namesDirectory path = false ∧
    ∃ place, disk.locate path = .ok place ∧ disk.tree.at? place = some (.file bytes) := by
  constructor
  · intro read
    rw [read?] at read
    obtain ⟨node, found, same⟩ := Option.bind_eq_some_iff.mp read
    cases node with
    | directory entries => cases same
    | file content =>
      cases same
      rw [node?] at found
      obtain ⟨place, located, found⟩ := Option.bind_eq_some_iff.mp found
      obtain ⟨node, here, found⟩ := Option.bind_eq_some_iff.mp found
      split at found
      · cases found
      · rename_i fits
        cases found
        exact ⟨by simpa [Tree.isDirectory] using fits, place, locate?_eq_some_iff.mp located, here⟩
  · rintro ⟨fits, place, located, here⟩
    exact read?_eq_some located here fits

theorem write?_eq_some_iff : disk.write? path bytes = some after ↔ namesDirectory path = false ∧
    ∃ place tree, disk.locate path = .ok place ∧ ¬ disk.tree.HasDirectory place ∧
      disk.tree.put? (.file bytes) place = some tree ∧ after = { disk with tree } := by
  have directory : ∀ place, (disk.tree.at? place).any Tree.isDirectory = true ↔
      disk.tree.HasDirectory place := by
    intro place
    rw [Tree.HasDirectory]
    rcases disk.tree.at? place with _ | _ | entries <;> simp [Tree.isDirectory]
  rw [write?]
  constructor
  · intro written
    obtain ⟨place, located, written⟩ := Option.bind_eq_some_iff.mp written
    split at written
    · cases written
    · rename_i fits
      obtain ⟨tree, put, same⟩ := Option.bind_eq_some_iff.mp written
      cases same
      simp only [Bool.or_eq_true, directory, not_or, Bool.not_eq_true] at fits
      exact ⟨fits.1, place, tree, locate?_eq_some_iff.mp located, fits.2, put, rfl⟩
  · rintro ⟨fits, place, tree, located, notDirectory, put, rfl⟩
    rw [locate?_eq_some_iff.mpr located]
    simp [fits, directory, notDirectory, put]

/-- A file can be written wherever a path leads to, but over a directory. -/
theorem write?_isSome {place : Place} (located : disk.locate path = .ok place)
    (fits : namesDirectory path = false) (notDirectory : ¬ disk.tree.HasDirectory place) :
    (disk.write? path bytes).isSome = true := by
  have put : (disk.tree.put? (.file bytes) place).isSome = true := by
    cases here : disk.tree.at? place with
    | none =>
      obtain ⟨above, name, rfl, _, found⟩ := exists_entry_of_free located here
      exact Tree.put?_isSome found
    | some node =>
      rcases List.eq_nil_or_concat place with rfl | ⟨above, name, rfl⟩
      · rfl
      · rw [List.concat_eq_append] at here ⊢
        exact Tree.put?_isSome (Tree.hasDirectory_of_at?_append here)
  obtain ⟨tree, put⟩ := Option.isSome_iff_exists.mp put
  rw [write?_eq_some_iff.mpr ⟨fits, place, tree, located, notDirectory, put, rfl⟩]
  rfl

/-- A write, at the place it was made at. -/
theorem exists_write (written : disk.write? path bytes = some after) :
    namesDirectory path = false ∧ ∃ place, disk.locate path = .ok place ∧
      ¬ disk.tree.HasDirectory place ∧ disk.tree.put? (.file bytes) place = some after.tree ∧
      after.current = disk.current := by
  obtain ⟨fits, place, tree, located, notDirectory, put, rfl⟩ := write?_eq_some_iff.mp written
  exact ⟨fits, place, located, notDirectory, put, rfl⟩

theorem hasDirectory_of_write (written : disk.write? path bytes = some after) {place : Place} :
    after.tree.HasDirectory place ↔ disk.tree.HasDirectory place := by
  obtain ⟨_, target, _, notDirectory, put, _⟩ := exists_write written
  exact Tree.hasDirectory_written_iff put notDirectory

theorem locate_of_write (written : disk.write? path bytes = some after) {place : Place} {other : Path} :
    after.locate other = .ok place ↔ disk.locate other = .ok place := by
  obtain ⟨_, target, _, _, _, current⟩ := exists_write written
  exact ⟨locate_mono (fun _ => (hasDirectory_of_write written).mp) current.symm,
    locate_mono (fun _ => (hasDirectory_of_write written).mpr) current⟩

/-- What was written is read. -/
theorem read?_of_write (written : disk.write? path bytes = some after) :
    after.read? path = some bytes := by
  obtain ⟨fits, place, located, _, put, _⟩ := exists_write written
  exact read?_eq_some_iff.mpr
    ⟨fits, place, (locate_of_write written).mpr located, Tree.at?_written put⟩

theorem wellFormed_written (formed : disk.tree.WellFormed)
    (written : disk.write? path bytes = some after) : after.tree.WellFormed := by
  obtain ⟨_, place, located, _, put, _⟩ := exists_write written
  refine formed.put? (.file bytes) (fun name last => ?_) put
  cases here : disk.tree.at? place with
  | none =>
    obtain ⟨above, own, rfl, named, _⟩ := exists_entry_of_free located here
    obtain rfl : own = name := by simpa using last
    exact named
  | some node => exact (formed.at? here).2 name (List.mem_of_getLast? last)

/-- Directories stay, and where there was a file there is one. -/
structure Keeps (before after : Disk) : Prop where
  current : after.current = before.current
  formed : before.tree.WellFormed → after.tree.WellFormed
  directories : ∀ place, before.tree.HasDirectory place → after.tree.HasDirectory place
  files : ∀ place content, before.tree.at? place = some (.file content) →
    ∃ content', after.tree.at? place = some (.file content')

namespace Keeps

variable {middle : Disk}

theorem refl (disk : Disk) : Keeps disk disk := ⟨rfl, id, fun _ => id, fun _ content stored => ⟨content, stored⟩⟩

theorem trans (first : Keeps disk middle) (second : Keeps middle after) : Keeps disk after where
  current := second.current.trans first.current
  formed formed := second.formed (first.formed formed)
  directories place found := second.directories place (first.directories place found)
  files place content stored := by
    obtain ⟨content', stored'⟩ := first.files place content stored
    exact second.files place content' stored'

/-- A path leads where it led. -/
theorem locate (keeps : Keeps disk after) {place : Place} (located : disk.locate path = .ok place) :
    after.locate path = .ok place :=
  locate_mono keeps.directories keeps.current located

end Keeps

theorem keeps_createDirectories {isPresent : Bool}
    (created : disk.createDirectories path = (after, isPresent)) : Keeps disk after := by
  obtain ⟨grows, current⟩ := grows_createDirectories created
  exact ⟨current, grows.wellFormed, fun _ => grows.hasDirectory,
    fun _ content stored => ⟨content, grows.file_iff.mpr stored⟩⟩

theorem keeps_write (written : disk.write? path bytes = some after) : Keeps disk after := by
  obtain ⟨_, target, _, notDirectory, put, current⟩ := exists_write written
  refine ⟨current, (wellFormed_written · written), fun _ => (hasDirectory_of_write written).mpr,
    fun place content stored => ?_⟩
  by_cases own : place = target
  · exact ⟨bytes, own ▸ Tree.at?_written put⟩
  · exact ⟨content, (Tree.at?_written_file_iff put notDirectory own).mpr stored⟩

end Disk

end TermBind.File

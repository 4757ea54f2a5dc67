import TermBind.Proofs.File.Location

/-! Making directories: what it adds to a tree, and that doing it again adds nothing. -/
namespace TermBind.File

namespace Tree

/-- A tree to which empty directories are added, one after the other, in allowed places where nothing
was before. -/
inductive Grows (allowed : Place → Prop) (tree : Tree) : Tree → Prop where
  | same : Grows allowed tree tree
  | more {middle after : Tree} {place : Place} (earlier : Grows allowed tree middle)
      (isAllowed : allowed place) (free : middle.at? place = none)
      (named : ∀ name ∈ place.getLast?, IsEntryName name)
      (made : middle.put? (.directory []) place = some after) : Grows allowed tree after

section Directory

variable {tree after : Tree} {place other : Place} (free : tree.at? place = none)
  (made : tree.put? (.directory []) place = some after)
include free

theorem at?_append_of_free (rest : Place) : tree.at? (place ++ rest) = none := by
  simp [at?_append, free]

theorem not_hasDirectory_of_free : ¬ tree.HasDirectory place := by
  rintro ⟨entries, here⟩
  simp [free] at here

include made

/-- Making a directory leaves every file as it is, and makes none. -/
theorem at?_made_file_iff {content : ByteArray} :
    after.at? other = some (.file content) ↔ tree.at? other = some (.file content) := by
  by_cases below : place <+: other
  · obtain ⟨rest, rfl⟩ := below
    rw [at?_append_of_free free, at?_put?_below made]
    cases rest <;> simp [entries]
  · exact at?_put?_file made below content

theorem at?_made_of_free (notMade : place ≠ other) (unknown : tree.at? other = none) :
    after.at? other = none := by
  rcases cases_place place other with ⟨rest, rfl⟩ | ⟨name, rest, rfl⟩ | ⟨notBelow, notAbove⟩
  · rw [at?_put?_below made]
    cases rest with
    | nil => simp at notMade
    | cons name rest => simp [entries]
  · obtain ⟨entries, here⟩ := (hasDirectory_of_put? made).1
    simp [unknown] at here
  · rw [at?_put?_beside made notBelow notAbove, unknown]

end Directory

namespace Grows

variable {allowed : Place → Prop} {tree after : Tree} (grows : Grows allowed tree after)
include grows

theorem imp {weaker : Place → Prop} (implied : ∀ place, allowed place → weaker place) :
    Grows weaker tree after := by
  induction grows with
  | same => exact .same
  | more _ isAllowed free named made ih => exact .more ih (implied _ isAllowed) free named made

theorem trans {last : Tree} (later : Grows allowed after last) : Grows allowed tree last := by
  induction later with
  | same => exact grows
  | more _ isAllowed free named made ih => exact .more ih isAllowed free named made

theorem wellFormed (formed : tree.WellFormed) : after.WellFormed := by
  induction grows with
  | same => exact formed
  | more _ _ _ named made ih =>
    have empty : (Tree.directory []).WellFormed := .directory [] .nil (by simp) (by simp)
    exact ih.put? empty named made

theorem hasDirectory {place : Place} (found : tree.HasDirectory place) : after.HasDirectory place := by
  induction grows with
  | same => exact found
  | more _ _ free _ made ih => exact ih.put? made (not_hasDirectory_of_free free)

theorem file_iff {place : Place} {content : ByteArray} :
    after.at? place = some (.file content) ↔ tree.at? place = some (.file content) := by
  induction grows with
  | same => rfl
  | more _ _ free _ made ih => rw [at?_made_file_iff free made, ih]

theorem free_of_free {place : Place} (free : after.at? place = none) : tree.at? place = none := by
  cases here : tree.at? place with
  | none => rfl
  | some node =>
    cases node with
    | file content => simp [grows.file_iff.mpr here] at free
    | directory entries =>
      obtain ⟨entries, there⟩ := grows.hasDirectory ⟨entries, here⟩
      simp [there] at free

/-- Nothing comes to a place that is not allowed. -/
theorem at?_eq_none {place : Place} (forbidden : ¬ allowed place) (free : tree.at? place = none) :
    after.at? place = none := by
  induction grows with
  | same => exact free
  | more _ isAllowed free' _ made ih =>
    refine at?_made_of_free free' made ?_ ih
    rintro rfl
    exact forbidden isAllowed

end Grows

end Tree

namespace Disk

variable {disk after : Disk} {path : Path} {depth : Nat}

theorem isDirectory_iff :
    disk.isDirectory path = true ↔ ∃ place, disk.locate path = .ok place ∧ disk.tree.HasDirectory place := by
  have known : disk.isDirectory path = true ↔ ∃ entries, disk.node? path = some (.directory entries) := by
    rw [isDirectory]
    rcases disk.node? path with _ | _ | entries <;> simp [Tree.isDirectory]
  simp only [known, node?_eq_directory_iff, Tree.HasDirectory]
  constructor
  · rintro ⟨entries, place, located, here⟩
    exact ⟨place, located, entries, here⟩
  · rintro ⟨place, located, entries, here⟩
    exact ⟨entries, place, located, here⟩

theorem locate_mono (kept : ∀ place, disk.tree.HasDirectory place → after.tree.HasDirectory place)
    (current : after.current = disk.current) {place : Place} (located : disk.locate path = .ok place) :
    after.locate path = .ok place := by
  rw [locate_eq_ok_iff] at located ⊢
  exact ⟨located.1, current ▸ follow_mono kept located.2⟩

/-- A free place that a path leads to is that of a new entry in a directory. -/
theorem exists_entry_of_free {place : Place} (located : disk.locate path = .ok place)
    (free : disk.tree.at? place = none) :
    ∃ above name, place = above ++ [name] ∧ IsEntryName name ∧ disk.tree.HasDirectory above := by
  obtain ⟨taken, led⟩ := locate_eq_ok_iff.mp located
  obtain ⟨some, nulFree⟩ := Path.isTaken_iff.mp taken
  rcases follow_ends some led with ⟨entries, found⟩ | ⟨upper, name, above, whole, _, here, usable, rfl⟩
  · simp [free] at found
  · have known : .normal name ∈ path.components := by simp [whole]
    exact ⟨above, name, rfl, ⟨Path.isName_of_mem known, nulFree name known, usable⟩, here⟩

theorem makeDirectory_eq_ok_iff : disk.makeDirectory path = .ok after ↔
    ∃ place tree, disk.locate path = .ok place ∧ disk.tree.at? place = none ∧ endsInDot path = false ∧
      disk.tree.put? (.directory []) place = some tree ∧ after = { disk with tree } := by
  rw [makeDirectory]
  cases located : disk.locate path with
  | error obstacle => simp [bind, Except.bind]
  | ok place =>
    simp only [bind, Except.bind, Except.ok.injEq, exists_and_left, exists_eq_left']
    cases here : disk.tree.at? place with
    | some node => simp
    | none =>
      cases dotted : endsInDot path with
      | true => simp
      | false =>
        cases made : disk.tree.put? (.directory []) place with
        | none => simp
        | some tree => simp [pure, Except.pure, eq_comm]

/-- Nothing can be made where there is a directory. -/
theorem makeDirectory_of_isDirectory (found : disk.isDirectory path = true) :
    disk.makeDirectory path = .error .other := by
  obtain ⟨place, located, entries, here⟩ := isDirectory_iff.mp found
  simp [makeDirectory, located, here, bind, Except.bind]

theorem isDirectory_of_makeDirectory (made : disk.makeDirectory path = .ok after) :
    after.isDirectory path = true := by
  obtain ⟨place, tree, located, free, _, put, rfl⟩ := makeDirectory_eq_ok_iff.mp made
  have kept : ∀ other, disk.tree.HasDirectory other → tree.HasDirectory other :=
    fun other found => found.put? put (Tree.not_hasDirectory_of_free free)
  have located' := @locate_mono disk { disk with tree } path kept rfl place located
  refine isDirectory_iff.mpr ⟨place, located', [], ?_⟩
  simpa using Tree.at?_put?_below put []

/-- A path that leads somewhere is in a directory. -/
theorem isDirectory_parent {place : Place} {parent : Path} (located : disk.locate path = .ok place)
    (parented : path.parent? = some parent) : parent.text = "" ∨ disk.isDirectory parent = true := by
  obtain ⟨taken, led⟩ := locate_eq_ok_iff.mp located
  obtain ⟨some, free⟩ := Path.isTaken_iff.mp taken
  obtain ⟨upper, last, whole⟩ := List.eq_nil_or_concat path.components |>.resolve_left some
  have above := Path.components_parent? parented
  rw [whole, List.concat_eq_append, List.dropLast_concat] at above
  rw [whole, List.concat_eq_append, follow_append] at led
  by_cases top : parent.components = []
  · exact Or.inl (Path.components_eq_nil_iff.mp top)
  · cases first : follow disk.tree disk.current upper with
    | error obstacle => simp [first, Except.bind] at led
    | ok here =>
      simp only [first, Except.bind] at led
      have taken' : parent.IsTaken := Path.isTaken_iff.mpr ⟨top, fun name known =>
        free name (by simp [whole, above ▸ known])⟩
      exact Or.inr (isDirectory_iff.mpr
        ⟨here, locate_eq_ok_iff.mpr ⟨taken', above ▸ first⟩, hasDirectory_of_follow_cons led⟩)

/-- What making a directory comes to: the depth bounds how far up directories are missing. -/
inductive Makes : Path → Nat → Disk → Disk → Bool → Prop where
  | exhausted (path : Path) (disk : Disk) : Makes path 0 disk disk false
  | nothing (path : Path) (depth : Nat) (disk : Disk) (empty : path.text = "") :
      Makes path (depth + 1) disk disk true
  | made {path : Path} {depth : Nat} {disk after : Disk} (filled : path.text ≠ "")
      (done : disk.makeDirectory path = .ok after) : Makes path (depth + 1) disk after true
  | above {path parent : Path} {depth : Nat} {disk after : Disk} (filled : path.text ≠ "")
      (missing : disk.makeDirectory path = .error .missing) (parented : path.parent? = some parent)
      (failed : Makes parent depth disk after false) : Makes path (depth + 1) disk after false
  | within {path parent : Path} {depth : Nat} {disk middle after : Disk} (filled : path.text ≠ "")
      (missing : disk.makeDirectory path = .error .missing) (parented : path.parent? = some parent)
      (first : Makes parent depth disk middle true) (done : middle.makeDirectory path = .ok after) :
      Makes path (depth + 1) disk after true
  | late {path parent : Path} {depth : Nat} {disk after : Disk} {obstacle : Obstacle}
      (filled : path.text ≠ "") (missing : disk.makeDirectory path = .error .missing)
      (parented : path.parent? = some parent) (first : Makes parent depth disk after true)
      (blocked : after.makeDirectory path = .error obstacle) :
      Makes path (depth + 1) disk after (after.isDirectory path)
  | blocked {path : Path} {depth : Nat} {disk : Disk} {obstacle : Obstacle} (filled : path.text ≠ "")
      (blocked : disk.makeDirectory path = .error obstacle)
      (last : obstacle = .other ∨ path.parent? = none) :
      Makes path (depth + 1) disk disk (disk.isDirectory path)

theorem makes_iff {isPresent : Bool} :
    Makes path depth disk after isPresent ↔ makeWithin path depth disk = (after, isPresent) := by
  constructor
  · intro makes
    induction makes with
    | exhausted path disk => rfl
    | nothing path depth disk empty => simp [makeWithin, empty]
    | made filled done => simp [makeWithin, filled, done]
    | above filled missing parented failed ih => simp [makeWithin, filled, missing, parented, ih]
    | within filled missing parented first done ih =>
      simp [makeWithin, filled, missing, parented, ih, done]
    | late filled missing parented first blocked ih =>
      simp [makeWithin, filled, missing, parented, ih, blocked]
    | blocked filled blocked last =>
      rcases last with rfl | top
      · simp [makeWithin, filled, blocked]
      · simp [makeWithin, filled, blocked, top]
  · intro result
    induction depth generalizing path disk after isPresent with
    | zero =>
      cases result
      exact .exhausted path disk
    | succ depth ih =>
      rw [makeWithin] at result
      split at result
      · rename_i empty
        cases result
        exact .nothing path depth disk (by simpa using empty)
      rename_i filled
      have filled : path.text ≠ "" := by simpa using filled
      split at result
      · cases result
        exact .made filled ‹_›
      · rename_i parent missing parented
        rcases within : makeWithin parent depth disk with ⟨middle, isPresent'⟩
        have first := ih within
        rw [within] at result
        cases isPresent' with
        | false =>
          cases result
          exact .above filled missing parented first
        | true =>
          simp only [Bool.not_true, Bool.false_eq_true, if_false] at result
          split at result
          · cases result
            exact .within filled missing parented first ‹_›
          · cases result
            exact .late filled missing parented first ‹_›
      · rename_i obstacle blocked last
        cases result
        refine .blocked filled blocked ?_
        cases obstacle with
        | other => exact Or.inl rfl
        | missing =>
          cases top : path.parent? with
          | none => exact Or.inr rfl
          | some parent => exact absurd rfl (last parent top)

/-- A directory that is there need not be made. -/
theorem makes_of_isDirectory (found : disk.isDirectory path = true) :
    Makes path (depth + 1) disk disk true := by
  have filled : path.text ≠ "" := by
    obtain ⟨place, located, _⟩ := isDirectory_iff.mp found
    exact (locate_eq_ok_iff.mp located).1.filled
  have blocked : Makes path (depth + 1) disk disk (disk.isDirectory path) :=
    .blocked filled (makeDirectory_of_isDirectory found) (Or.inl rfl)
  rwa [found] at blocked

theorem length_parent {parent : Path} (parented : path.parent? = some parent)
    (filled : path.text ≠ "") : parent.components.length < path.components.length := by
  have some := List.length_pos_iff.mpr (Path.components_ne_nil filled)
  rw [Path.components_parent? parented, List.length_dropLast]
  omega

/-- What making a directory has come to, it comes to again without a change. -/
theorem makes_again {isPresent : Bool} (makes : Makes path depth disk after isPresent)
    (deep : path.components.length < depth) : Makes path depth after after isPresent := by
  induction makes with
  | exhausted path disk => simp at deep
  | nothing path depth disk empty => exact .nothing path depth disk empty
  | made _ done => exact makes_of_isDirectory (isDirectory_of_makeDirectory done)
  | within _ _ _ _ done => exact makes_of_isDirectory (isDirectory_of_makeDirectory done)
  | blocked filled blocked last => exact .blocked filled blocked last
  | @above path parent depth disk after filled _ parented _ ih =>
    have shorter := length_parent parented filled
    have again := ih (by omega)
    -- The directory above is missing still, so the path leads nowhere.
    have nowhere : ∀ place, after.locate path ≠ .ok place := by
      intro place located
      obtain ⟨depth, rfl⟩ := Nat.exists_eq_succ_of_ne_zero (show depth ≠ 0 by omega)
      have present : Makes parent (depth + 1) after after true := by
        rcases isDirectory_parent located parented with empty | found
        · exact .nothing parent depth after empty
        · exact makes_of_isDirectory found
      have results := (makes_iff.mp again).symm.trans (makes_iff.mp present)
      simp at results
    cases made : after.makeDirectory path with
    | ok made' =>
      obtain ⟨place, _, located, _⟩ := makeDirectory_eq_ok_iff.mp made
      exact absurd located (nowhere place)
    | error obstacle =>
      cases obstacle with
      | missing => exact .above filled made parented again
      | other =>
        have absent : after.isDirectory path = false := by
          rw [Bool.eq_false_iff, ne_eq, isDirectory_iff]
          rintro ⟨place, located, _⟩
          exact nowhere place located
        have blocked : Makes path (depth + 1) after after (after.isDirectory path) :=
          .blocked filled made (Or.inl rfl)
        rwa [absent] at blocked
  | @late path parent depth disk after obstacle filled _ parented _ blocked ih =>
    have shorter := length_parent parented filled
    cases obstacle with
    | missing => exact .late filled blocked parented (ih (by omega)) blocked
    | other => exact .blocked filled blocked (Or.inl rfl)

theorem createDirectories_eq_iff {isPresent : Bool} :
    disk.createDirectories path = (after, isPresent) ↔
      Makes path (path.components.length + 1) disk after isPresent := makes_iff.symm

/-- Making a directory twice is making it once. -/
theorem createDirectories_again {isPresent : Bool}
    (once : disk.createDirectories path = (after, isPresent)) :
    after.createDirectories path = (after, isPresent) := by
  rw [createDirectories_eq_iff] at once ⊢
  exact makes_again once (Nat.lt_succ_self _)

theorem createDirectories_of_isDirectory (found : disk.isDirectory path = true) :
    disk.createDirectories path = (disk, true) :=
  createDirectories_eq_iff.mpr (makes_of_isDirectory found)

/-- Places at which directories on the way to a path are made: they were free, and what leads there
begins the path. -/
def IsOnWay (path : Path) (before after : Disk) (place : Place) : Prop :=
  before.tree.at? place = none ∧
    ∃ upper, upper <+: path.components ∧ follow after.tree after.current upper = .ok place

theorem grows_of_makeDirectory (made : disk.makeDirectory path = .ok after) :
    Tree.Grows (IsOnWay path disk after) disk.tree after.tree ∧ after.current = disk.current := by
  have present := isDirectory_of_makeDirectory made
  obtain ⟨place, tree, located, free, _, put, rfl⟩ := makeDirectory_eq_ok_iff.mp made
  obtain ⟨above, name, rfl, named, _⟩ := exists_entry_of_free located free
  have kept : ∀ other, disk.tree.HasDirectory other → tree.HasDirectory other :=
    fun other found => found.put? put (Tree.not_hasDirectory_of_free free)
  have led := follow_mono kept (locate_eq_ok_iff.mp located).2
  refine ⟨.more .same ⟨free, _, List.prefix_rfl, led⟩ free ?_ put, rfl⟩
  simpa using named

theorem IsOnWay.of_parent {parent : Path} (parented : path.parent? = some parent) {place : Place}
    (onWay : IsOnWay parent disk after place) : IsOnWay path disk after place := by
  obtain ⟨free, upper, begins, led⟩ := onWay
  rw [Path.components_parent? parented] at begins
  exact ⟨free, upper, begins.trans (List.dropLast_prefix _), led⟩

theorem Makes.grows {isPresent : Bool} (makes : Makes path depth disk after isPresent) :
    Tree.Grows (IsOnWay path disk after) disk.tree after.tree ∧ after.current = disk.current := by
  induction makes with
  | exhausted => exact ⟨.same, rfl⟩
  | nothing => exact ⟨.same, rfl⟩
  | made _ done => exact grows_of_makeDirectory done
  | blocked => exact ⟨.same, rfl⟩
  | above _ _ parented _ ih => exact ⟨ih.1.imp fun _ => .of_parent parented, ih.2⟩
  | late _ _ parented _ _ ih => exact ⟨ih.1.imp fun _ => .of_parent parented, ih.2⟩
  | @within path parent depth disk middle after _ _ parented _ done ih =>
    obtain ⟨earlier, current⟩ := ih
    obtain ⟨last, current'⟩ := grows_of_makeDirectory done
    refine ⟨(earlier.imp ?_).trans (last.imp ?_), current'.trans current⟩
    · intro place onWay
      obtain ⟨free, upper, begins, led⟩ := onWay.of_parent parented
      exact ⟨free, upper, begins, current' ▸ follow_mono (fun _ => last.hasDirectory) led⟩
    · rintro place ⟨free, upper, begins, led⟩
      exact ⟨earlier.free_of_free free, upper, begins, led⟩

theorem grows_createDirectories {isPresent : Bool}
    (created : disk.createDirectories path = (after, isPresent)) :
    Tree.Grows (IsOnWay path disk after) disk.tree after.tree ∧ after.current = disk.current :=
  (createDirectories_eq_iff.mp created).grows

end Disk

end TermBind.File

import TermBind.Proofs.File.Tree

/-! Where paths lead on a disk, and that they lead there still when directories are added. -/
namespace TermBind

namespace Path

/-- The path below a path that names lead to, one by one. -/
def below (path : Path) (names : List String) : Path :=
  names.foldl (fun path name => path.join ⟨name⟩) path

theorem components_below (path : Path) {names : List String} (named : ∀ name ∈ names, IsName name) :
    (path.below names).components = path.components ++ names.map .normal := by
  induction names generalizing path with
  | nil => simp [below]
  | cons name rest ih =>
    have rest' := ih (path.join ⟨name⟩) fun other member => named other (List.mem_cons_of_mem _ member)
    rw [below, List.foldl_cons, ← below, rest', components_join_name path (named name (by simp))]
    simp

theorem below_append (path : Path) (names others : List String) :
    path.below (names ++ others) = (path.below names).below others := List.foldl_append ..

/-- A path that the file system takes. -/
structure IsTaken (path : Path) : Prop where
  filled : path.text ≠ ""
  nulFree : '\x00' ∉ path.text.toList

/-- Whether a path is taken shows in its components. -/
theorem isTaken_iff {path : Path} : path.IsTaken ↔ path.components ≠ [] ∧
    ∀ name, .normal name ∈ path.components → '\x00' ∉ name.toList := by
  have nul : '\x00' ∈ path.text.toList ↔ _ := mem_text_iff (by decide) (by decide)
  constructor
  · rintro ⟨filled, free⟩
    exact ⟨components_ne_nil filled, fun name known member => free (nul.mpr ⟨name, known, member⟩)⟩
  · rintro ⟨some, free⟩
    refine ⟨fun empty => some (components_eq_nil_iff.mpr empty), fun member => ?_⟩
    obtain ⟨name, known, member⟩ := nul.mp member
    exact free name known member

theorem isTaken_join_iff {path : Path} (filled : path.text ≠ "") {name : String} (named : IsName name) :
    (path.join ⟨name⟩).IsTaken ↔ path.IsTaken ∧ '\x00' ∉ name.toList := by
  obtain ⟨before, spelled, joined⟩ := exists_joined named.isAbsolute filled
  have nul : '\x00' ∈ path.text.toList ↔ '\x00' ∈ before := by
    rcases spelled with same | slash
    · rw [same]
    · simp [slash]
  constructor
  · intro taken
    have free := taken.nulFree
    rw [joined] at free
    simp only [List.mem_append, List.mem_cons, not_or] at free
    exact ⟨⟨filled, fun member => free.1 (nul.mp member)⟩, free.2.2⟩
  · rintro ⟨taken, free⟩
    refine ⟨fun empty => ?_, ?_⟩
    · rw [empty] at joined
      simp at joined
    · rw [joined]
      simp [free, mt nul.mpr taken.nulFree]

theorem getLast?_segments_join (path : Path) {name : String} (named : IsName name) :
    (path.join ⟨name⟩).segments.getLast? = some name := by
  by_cases empty : path.text = ""
  · rw [join_empty empty, named.segments]
    rfl
  obtain ⟨before, _, joined⟩ := exists_joined named.isAbsolute empty
  have last : ∀ left : List Char,
      (((left ++ '/' :: name.toList).splitOn '/').map String.ofList).getLast? = some name := by
    intro left
    simp [List.splitOn_append_cons_self, List.splitOn_eq_singleton named.slashFree]
  rw [segments_eq, joined]
  split
  · cases before with
    | nil => simp [List.splitOn_eq_singleton named.slashFree]
    | cons c rest => exact last rest
  · exact last before

end Path

namespace File.Disk

variable {tree : Tree} {place : Place}

theorem follow_cons (tree : Tree) (place : Place) (component : Component) (rest : List Component) :
    follow tree place (component :: rest) =
      match tree.at? place with
      | none => .error .missing
      | some (.file _) => .error .other
      | some (.directory _) =>
        match component with
        | .root => follow tree [] rest
        | .current => follow tree place rest
        | .parent => follow tree place.dropLast rest
        | .normal name =>
          if isUsable name then follow tree (place ++ [name]) rest else .error .other := by
  cases component <;> rfl

theorem follow_append (tree : Tree) (place : Place) (left right : List Component) :
    follow tree place (left ++ right) = (follow tree place left).bind (follow tree · right) := by
  induction left generalizing place with
  | nil => rfl
  | cons component rest ih =>
    rw [List.cons_append, follow_cons, follow_cons]
    split
    · rfl
    · rfl
    · cases component with
      | root => exact ih []
      | current => exact ih place
      | parent => exact ih place.dropLast
      | normal name =>
        dsimp only
        split
        · exact ih (place ++ [name])
        · rfl

/-- A component leads on from a directory. -/
theorem hasDirectory_of_follow_cons {component : Component} {rest : List Component} {found : Place}
    (led : follow tree place (component :: rest) = .ok found) : tree.HasDirectory place := by
  rw [follow_cons] at led
  split at led
  · cases led
  · cases led
  · exact ⟨_, ‹_›⟩

theorem follow_normal_iff {name : String} {rest : List Component} {found : Place} :
    follow tree place (.normal name :: rest) = .ok found ↔
      tree.HasDirectory place ∧ isUsable name = true ∧
        follow tree (place ++ [name]) rest = .ok found := by
  constructor
  · intro led
    have here := hasDirectory_of_follow_cons led
    obtain ⟨entries, known⟩ := here
    rw [follow_cons, known] at led
    dsimp only at led
    split at led
    · exact ⟨⟨entries, known⟩, ‹_›, led⟩
    · cases led
  · rintro ⟨⟨entries, known⟩, usable, led⟩
    rw [follow_cons, known]
    simpa [usable] using led

theorem follow_mono {after : Tree} (kept : ∀ place, tree.HasDirectory place → after.HasDirectory place)
    {components : List Component} {found : Place} (led : follow tree place components = .ok found) :
    follow after place components = .ok found := by
  induction components generalizing place with
  | nil => exact led
  | cons component rest ih =>
    obtain ⟨entries, here⟩ := hasDirectory_of_follow_cons led
    obtain ⟨entries', here'⟩ := kept place ⟨entries, here⟩
    rw [follow_cons, here] at led
    rw [follow_cons, here']
    cases component with
    | root => exact ih led
    | current => exact ih led
    | parent => exact ih led
    | normal name =>
      dsimp only at led ⊢
      split
      · exact ih (by simpa [*] using led)
      · simp [*] at led

theorem follow_names {names : List String} {below : Tree} (found : tree.at? (place ++ names) = some below)
    (named : ∀ name ∈ names, IsEntryName name) :
    follow tree place (names.map .normal) = .ok (place ++ names) := by
  induction names generalizing place with
  | nil => simp [follow]
  | cons name rest ih =>
    have here := Tree.hasDirectory_of_at?_append found
    rw [List.map_cons, follow_normal_iff]
    refine ⟨here, (named name (by simp)).usable, ?_⟩
    have found' : tree.at? (place ++ [name] ++ rest) = some below := by simpa using found
    simpa using ih found' fun other member => named other (List.mem_cons_of_mem _ member)

/-- A directory is where a path leads to, but that its last name may be that of anything. -/
theorem follow_ends {components : List Component} {found : Place} (some : components ≠ [])
    (led : follow tree place components = .ok found) :
    tree.HasDirectory found ∨ ∃ upper name above, components = upper ++ [.normal name] ∧
      follow tree place upper = .ok above ∧ tree.HasDirectory above ∧ isUsable name = true ∧
      found = above ++ [name] := by
  obtain ⟨upper, last, rfl⟩ := List.eq_nil_or_concat components |>.resolve_left some
  rw [List.concat_eq_append, follow_append] at led
  cases first : follow tree place upper with
  | error obstacle => simp [first, Except.bind] at led
  | ok above =>
    simp only [first, Except.bind] at led
    obtain ⟨entries, here⟩ := hasDirectory_of_follow_cons led
    -- Everything above a directory is one.
    have upwards : ∀ front rest, above = front ++ rest → tree.HasDirectory front := by
      rintro front rest rfl
      cases rest with
      | nil => exact ⟨entries, by simpa using here⟩
      | cons name rest => exact Tree.hasDirectory_of_at?_append here
    rw [follow_cons, here] at led
    cases last with
    | root =>
      cases led
      exact Or.inl (upwards [] above rfl)
    | current =>
      cases led
      exact Or.inl ⟨entries, here⟩
    | parent =>
      cases led
      obtain ⟨rest, whole⟩ := List.dropLast_prefix above
      exact Or.inl (upwards _ rest whole.symm)
    | normal name =>
      dsimp only at led
      split at led
      · cases led
        exact Or.inr ⟨upper, name, above, by simp, first, ⟨entries, here⟩, ‹_›, rfl⟩
      · cases led

/-- Names lead to the place below that they spell. -/
theorem eq_of_follow_names {names : List String} {found : Place}
    (led : follow tree place (names.map .normal) = .ok found) : found = place ++ names := by
  induction names generalizing place with
  | nil => simpa [follow] using led.symm
  | cons name rest ih =>
    rw [List.map_cons, follow_normal_iff] at led
    simpa using ih led.2.2

variable {disk : Disk} {path : Path}

theorem locate_eq_ok_iff : disk.locate path = .ok place ↔
    path.IsTaken ∧ follow disk.tree disk.current path.components = .ok place := by
  rw [locate]
  constructor
  · intro found
    split at found
    · cases found
    split at found
    · cases found
    · rename_i filled free
      exact ⟨⟨by simpa using filled, by simpa using free⟩, found⟩
  · rintro ⟨⟨filled, free⟩, led⟩
    simpa [filled, free] using led

theorem locate?_eq_some_iff : disk.locate? path = some place ↔ disk.locate path = .ok place := by
  rw [locate?]
  cases disk.locate path <;> simp [Except.toOption]

/-- Paths with the same components lead to the same place. -/
theorem locate_congr {other : Path} (same : path.components = other.components) :
    disk.locate path = .ok place ↔ disk.locate other = .ok place := by
  rw [locate_eq_ok_iff, locate_eq_ok_iff, Path.isTaken_iff, Path.isTaken_iff, same]

theorem locate_join_iff (filled : path.text ≠ "") {name : String} (named : Path.IsName name)
    {found : Place} : disk.locate (path.join ⟨name⟩) = .ok found ↔
      ∃ place, disk.locate path = .ok place ∧ disk.tree.HasDirectory place ∧
        '\x00' ∉ name.toList ∧ isUsable name = true ∧ found = place ++ [name] := by
  rw [locate_eq_ok_iff, Path.isTaken_join_iff filled named, Path.components_join_name path named,
    follow_append]
  constructor
  · rintro ⟨⟨taken, free⟩, led⟩
    cases first : follow disk.tree disk.current path.components with
    | error obstacle => simp [first, Except.bind] at led
    | ok place =>
      simp only [first, Except.bind] at led
      obtain ⟨here, usable, led⟩ := follow_normal_iff.mp led
      refine ⟨place, locate_eq_ok_iff.mpr ⟨taken, first⟩, here, free, usable, ?_⟩
      simpa [follow] using led.symm
  · rintro ⟨place, located, here, free, usable, rfl⟩
    obtain ⟨taken, led⟩ := locate_eq_ok_iff.mp located
    refine ⟨⟨taken, free⟩, ?_⟩
    rw [led]
    exact follow_normal_iff.mpr ⟨here, usable, rfl⟩

/-- A path that ends in a name leads to an entry of the place that the rest leads to. -/
theorem exists_above {name : String} (named : Path.IsName name)
    (located : disk.locate (path.join ⟨name⟩) = .ok place) :
    ∃ above, follow disk.tree disk.current path.components = .ok above ∧ place = above ++ [name] := by
  obtain ⟨_, led⟩ := locate_eq_ok_iff.mp located
  rw [Path.components_join_name path named, follow_append] at led
  cases first : follow disk.tree disk.current path.components with
  | error obstacle => simp [first, Except.bind] at led
  | ok above =>
    simp only [first, Except.bind] at led
    obtain ⟨_, _, led⟩ := follow_normal_iff.mp led
    exact ⟨above, rfl, by simpa [follow] using led.symm⟩

theorem locate_below {names : List String} {below : Tree} (located : disk.locate path = .ok place)
    (found : disk.tree.at? (place ++ names) = some below) (named : ∀ name ∈ names, IsEntryName name) :
    disk.locate (path.below names) = .ok (place ++ names) := by
  induction names generalizing path place with
  | nil => simpa [Path.below] using located
  | cons name rest ih =>
    have own := named name (by simp)
    have filled := (locate_eq_ok_iff.mp located).1.filled
    have next : disk.locate (path.join ⟨name⟩) = .ok (place ++ [name]) :=
      (locate_join_iff filled own.toIsName).mpr
        ⟨place, located, Tree.hasDirectory_of_at?_append found, own.nulFree, own.usable, rfl⟩
    have found' : disk.tree.at? (place ++ [name] ++ rest) = some below := by simpa using found
    simpa [Path.below] using
      ih next found' fun other member => named other (List.mem_cons_of_mem _ member)

theorem namesDirectory_join {name : String} (named : Path.IsName name) :
    namesDirectory (path.join ⟨name⟩) = false := by
  rw [namesDirectory, Path.getLast?_segments_join path named]
  simp [named.filled, named.notDot]

theorem node?_eq_some {node : Tree} (located : disk.locate path = .ok place)
    (found : disk.tree.at? place = some node) (fits : namesDirectory path = false) :
    disk.node? path = some node := by
  simp [node?, locate?, located, Except.toOption, found, fits]

theorem node?_eq_directory_iff {entries : List (String × Tree)} :
    disk.node? path = some (.directory entries) ↔
      ∃ place, disk.locate path = .ok place ∧ disk.tree.at? place = some (.directory entries) := by
  rw [node?]
  cases found : disk.locate? path with
  | none =>
    refine iff_of_false (by simp) ?_
    rintro ⟨place, located, _⟩
    simp [locate?_eq_some_iff.mpr located] at found
  | some place =>
    have located := locate?_eq_some_iff.mp found
    simp only [Option.bind_eq_bind, Option.bind_some, located, Except.ok.injEq, exists_eq_left']
    rcases disk.tree.at? place with _ | content | entries
    · simp
    · simp [Tree.isDirectory]
    · simp [Tree.isDirectory]

/-- A file is read at the place that a path leads to. -/
theorem read?_eq_some {content : ByteArray} (located : disk.locate path = .ok place)
    (found : disk.tree.at? place = some (.file content)) (fits : namesDirectory path = false) :
    disk.read? path = some content := by
  simp [read?, node?_eq_some located found fits]

end File.Disk
end TermBind

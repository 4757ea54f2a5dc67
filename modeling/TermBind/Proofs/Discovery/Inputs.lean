import TermBind.Proofs.Discovery.Files

/-! The inputs of a project: the files that are found by searching its directories, and the paths by which
they are handed on. -/
namespace TermBind.Discovery

open File TermBind.Path

section Relative

variable {config : Config} {found : Path}

theorem components_relative (inside : config.projectRoot.components <+: found.components) :
    found.components = config.projectRoot.components ++ (relative config found).components := by
  obtain ⟨rest, stripped⟩ := Option.isSome_iff_exists.mp (stripPrefix?_isSome.mpr inside)
  rw [relative, stripped]
  exact components_stripPrefix? stripped

theorem relative_eq_self (outside : ¬ config.projectRoot.components <+: found.components) :
    relative config found = found := by
  rw [relative, Option.not_isSome_iff_eq_none.mp (mt stripPrefix?_isSome.mp outside)]
  rfl

theorem components_resolve_join {path : Path} (unrooted : path.isAbsolute = false)
    (filled : config.projectRoot.text ≠ "") :
    (config.resolve path).components = config.projectRoot.components ++ path.steps := by
  rw [Config.resolve, unrooted]
  exact components_join unrooted filled

/-- The path by which a file is handed on leads to the file, from the root of the project. -/
theorem components_resolve_relative {directory : Path} {names : List String}
    (below : found.components = (config.resolve directory).components ++ names.map .normal) :
    (config.resolve (relative config found)).components = found.components := by
  by_cases inside : config.projectRoot.components <+: found.components
  · have handed := components_relative inside
    by_cases empty : config.projectRoot.text = ""
    · rw [components_eq_nil_iff.mpr empty, List.nil_append] at handed
      rw [Config.resolve, join_empty empty, ite_self, handed]
    · -- What follows the root of the project starts nowhere of its own.
      have unstarted : (relative config found).start = [] := by
        obtain ⟨first, rest, spelled⟩ := List.exists_cons_of_ne_nil (components_ne_nil empty)
        rw [List.eq_nil_iff_forall_not_mem]
        intro component member
        have later : component ∈ found.components.tail := by
          rw [handed, spelled, components_eq (relative config found)]
          simp [member]
        exact (eq_of_mem_start member).elim (ne_of_mem_tail later).1 (ne_of_mem_tail later).2
      have unrooted := isAbsolute_of_start unstarted
      rw [components_resolve_join unrooted empty, handed, components_eq (relative config found),
        unstarted, List.nil_append]
  · have absolute : found.isAbsolute = true := by
      have rooted : directory.isAbsolute = true := by
        by_contra unrooted
        rw [Bool.not_eq_true] at unrooted
        refine inside ?_
        by_cases empty : config.projectRoot.text = ""
        · simp [components_eq_nil_iff.mpr empty]
        · rw [below, components_resolve_join unrooted empty, List.append_assoc]
          exact List.prefix_append _ _
      rw [Config.resolve, if_pos rooted] at below
      rw [isAbsolute_iff, below, List.head?_append, isAbsolute_iff.mp rooted]
      rfl
    rw [relative_eq_self inside, Config.resolve, absolute]
    rfl

end Relative

section Search

variable {disk : Disk} {config : Config} {files : ProjectFiles}

/-- A directory to look in, and the files wanted from it. -/
structure Search where
  wanted : Path → Bool
  directory : Path

/-- What is looked for in a project. -/
def searches (config : Config) : List Search :=
  ⟨isSource, config.binding.sourceRoot⟩ :: config.schema.directories.map (⟨isSchema config, ·⟩)

theorem collected_of_discovered (found : discovered disk config = .ok files) :
    collected disk config isSource config.binding.sourceRoot = .ok files.sources ∧
      collectedAll disk config (isSchema config) config.schema.directories = .ok files.schemas := by
  rw [discovered] at found
  cases own : collected disk config isSource config.binding.sourceRoot with
  | error problem =>
    rw [own] at found
    cases found
  | ok sources =>
    rw [own] at found
    cases others : collectedAll disk config (isSchema config) config.schema.directories with
    | error problem =>
      rw [others] at found
      cases found
    | ok schemas =>
      rw [others] at found
      cases found
      exact ⟨rfl, rfl⟩

/-- What is collected is the wanted files, each with its text. -/
theorem mem_collected_iff {wanted : Path → Bool} {directory : Path} {found : List (Path × String)}
    (known : collected disk config wanted directory = .ok found) {path : Path} {text : String} :
    (path, text) ∈ found ↔ ∃ file ∈ filesAt disk config directory, wanted file.1 = true ∧
      path = relative config file.1 ∧ String.fromUTF8? file.2 = some text := by
  rw [mem_texts_iff known]
  simp [List.mem_filter, and_assoc]

/-- What is collected from directories was collected from each of them. -/
theorem mem_collectedAll_iff {wanted : Path → Bool} {directories : List Path}
    {found : List (Path × String)} (known : collectedAll disk config wanted directories = .ok found) :
    (∀ directory ∈ directories, ∃ own, collected disk config wanted directory = .ok own) ∧
      ∀ entry, entry ∈ found ↔ ∃ directory ∈ directories, ∃ own,
        collected disk config wanted directory = .ok own ∧ entry ∈ own := by
  induction directories generalizing found with
  | nil =>
    cases known
    simp
  | cons directory rest ih =>
    rw [collectedAll] at known
    cases first : collected disk config wanted directory with
    | error problem =>
      rw [first] at known
      cases known
    | ok own =>
      rw [first] at known
      cases others : collectedAll disk config wanted rest with
      | error problem =>
        rw [others] at known
        cases known
      | ok later =>
        rw [others] at known
        cases known
        obtain ⟨each, members⟩ := ih others
        simp only [List.mem_cons, forall_eq_or_imp, exists_eq_or_imp, List.mem_append, members, first,
          Except.ok.injEq, exists_eq_left']
        exact ⟨⟨⟨own, rfl⟩, each⟩, fun _ => trivial⟩

theorem mem_discovered_iff (found : discovered disk config = .ok files) :
    (∀ search ∈ searches config, ∃ own,
        collected disk config search.wanted search.directory = .ok own) ∧
      ∀ entry, entry ∈ files.sources ++ files.schemas ↔ ∃ search ∈ searches config, ∃ own,
        collected disk config search.wanted search.directory = .ok own ∧ entry ∈ own := by
  obtain ⟨sources, schemas⟩ := collected_of_discovered found
  obtain ⟨each, members⟩ := mem_collectedAll_iff schemas
  simp only [searches, List.mem_cons, forall_eq_or_imp, exists_eq_or_imp, List.mem_append, members,
    sources, Except.ok.injEq, exists_eq_left', List.mem_map, forall_exists_index, and_imp,
    forall_apply_eq_imp_iff₂, exists_exists_and_eq_and]
  exact ⟨⟨⟨_, rfl⟩, each⟩, fun _ => trivial⟩

end Search

section Input

variable {disk : Disk} {config : Config} {files : ProjectFiles} {place : Place}

/-- A file is handed on as an input, by a path to its place. -/
def IsInput (disk : Disk) (config : Config) (files : ProjectFiles) (place : Place) : Prop :=
  ∃ entry ∈ files.sources ++ files.schemas, disk.locate (config.resolve entry.1) = .ok place

/-- A search comes to a place from its directory if the file there is wanted and no directory on the way
is spelled as the output directory is. -/
def Search.ComesTo (search : Search) (disk : Disk) (config : Config) (place : Place) : Prop :=
  ∃ root names, disk.locate (config.resolve search.directory) = .ok root ∧
    disk.tree.HasDirectory root ∧ place = root ++ names ∧
    search.wanted ((config.resolve search.directory).below names) = true ∧
    ∀ upper, upper <+: names → (config.resolve search.directory).components ++ upper.map .normal ≠
      (config.resolve config.output.directory).components

theorem passes_iff {skip path : Path} {names : List String} (named : ∀ name ∈ names, IsName name) :
    Passes skip path names ↔
      ∀ upper, upper <+: names → path.components ++ upper.map .normal ≠ skip.components := by
  refine forall_congr' fun upper => imp_congr_right fun begins => ?_
  rw [same, beq_eq_false_iff_ne,
    components_below path fun name member => named name (begins.subset member)]

/-- What is collected from a directory are the files that its search comes to. -/
theorem Search.comesTo_iff {search : Search} (formed : disk.tree.WellFormed)
    {found : List (Path × String)}
    (known : collected disk config search.wanted search.directory = .ok found) {content : ByteArray}
    (stored : disk.tree.at? place = some (.file content)) :
    (∃ entry ∈ found, disk.locate (config.resolve entry.1) = .ok place) ↔
      search.ComesTo disk config place := by
  constructor
  · rintro ⟨⟨path, text⟩, member, located⟩
    obtain ⟨⟨below, bytes⟩, here, wanted, rfl, _⟩ := (mem_collected_iff known).mp member
    obtain ⟨root, names, located', isDirectory, rfl, stored', passes⟩ :=
      (mem_filesAt_iff config formed).mp here
    have named : ∀ name ∈ names, IsEntryName name := fun name member =>
      (formed.at? stored').2 name (List.mem_append_right _ member)
    have spelled := components_below (config.resolve search.directory) fun name member =>
      (named name member).toIsName
    rw [Disk.locate_congr (components_resolve_relative spelled),
      Disk.locate_below located' stored' named, Except.ok.injEq] at located
    exact ⟨root, names, located', isDirectory, located.symm, wanted,
      (passes_iff fun name member => (named name member).toIsName).mp passes⟩
  · rintro ⟨root, names, located, isDirectory, rfl, wanted, apart⟩
    have named : ∀ name ∈ names, IsEntryName name := fun name member =>
      (formed.at? stored).2 name (List.mem_append_right _ member)
    have names' : ∀ name ∈ names, IsName name := fun name member => (named name member).toIsName
    have here := (mem_filesAt_iff config formed).mpr
      ⟨root, names, located, isDirectory, rfl, stored, (passes_iff names').mpr apart⟩
    obtain ⟨text, decoded⟩ := Option.isSome_iff_exists.mp
      (isSome_of_texts known _ (List.mem_filter.mpr ⟨here, wanted⟩))
    refine ⟨_, (mem_collected_iff known).mpr ⟨_, here, wanted, rfl, decoded⟩, ?_⟩
    rw [Disk.locate_congr (components_resolve_relative (components_below _ names'))]
    exact Disk.locate_below located stored named

/-- The files that are inputs are those that a search comes to. -/
theorem isInput_iff (formed : disk.tree.WellFormed) (found : discovered disk config = .ok files)
    {content : ByteArray} (stored : disk.tree.at? place = some (.file content)) :
    IsInput disk config files place ↔ ∃ search ∈ searches config, search.ComesTo disk config place := by
  obtain ⟨each, members⟩ := mem_discovered_iff found
  constructor
  · rintro ⟨entry, member, located⟩
    obtain ⟨search, listed, own, known, member⟩ := (members _).mp member
    exact ⟨search, listed, (search.comesTo_iff formed known stored).mp ⟨entry, member, located⟩⟩
  · rintro ⟨search, listed, comes⟩
    obtain ⟨own, known⟩ := each search listed
    obtain ⟨entry, member, located⟩ := (search.comesTo_iff formed known stored).mpr comes
    exact ⟨entry, (members _).mpr ⟨search, listed, own, known, member⟩, located⟩

end Input

end TermBind.Discovery

import TermBind.Proofs.Discovery.Frame
import TermBind.Proofs.Storage

/-! Projects whose directories are spelled by ordinary names. Their places are below that of the project,
and storing artifacts in the output directory is not seen when files are found. -/
namespace TermBind

namespace Path

/-- A relative path of ordinary names, of which there is at least one. -/
structure IsOrdinary (path : Path) : Prop where
  filled : path.text ≠ ""
  ordinary : ∀ component ∈ path.components, component.name?.isSome

instance (path : Path) : Decidable path.IsOrdinary :=
  decidable_of_iff (path.text ≠ "" ∧ ∀ component ∈ path.components, component.name?.isSome)
    ⟨fun known => ⟨known.1, known.2⟩, fun known => ⟨known.filled, known.ordinary⟩⟩

variable {path : Path} (ordinary : path.IsOrdinary)
include ordinary

theorem IsOrdinary.exists_names : ∃ names, names ≠ [] ∧ path.components = names.map .normal ∧
    ∀ name ∈ names, IsName name := by
  have spelled : path.components = (path.components.filterMap Component.name?).map .normal := by
    have all := ordinary.ordinary
    generalize path.components = components at all
    induction components with
    | nil => rfl
    | cons component rest ih =>
      obtain ⟨name, known⟩ := Option.isSome_iff_exists.mp (all component (by simp))
      have rest' := ih fun other member => all other (List.mem_cons_of_mem _ member)
      cases component <;> cases known
      simpa [Component.name?] using rest'
  refine ⟨_, fun none => ?_, spelled, fun name member => ?_⟩
  · rw [none] at spelled
    exact components_ne_nil ordinary.filled spelled
  · exact @isName_of_mem path name (spelled ▸ List.mem_map_of_mem member)

theorem IsOrdinary.start_eq : path.start = [] := start_eq_nil ordinary.ordinary

theorem IsOrdinary.isAbsolute : path.isAbsolute = false := isAbsolute_of_start ordinary.start_eq

theorem IsOrdinary.components_resolve (config : Config) :
    (config.resolve path).components = config.projectRoot.components ++ path.components := by
  rw [Config.resolve, ordinary.isAbsolute]
  exact components_join_of_names ordinary.ordinary config.projectRoot

end Path

/-- Every directory of a project is spelled by ordinary names, and artifacts are stored in the output
directory itself. -/
structure Config.IsOrdinary (config : Config) : Prop where
  sourceRoot : config.binding.sourceRoot.IsOrdinary
  schemas : ∀ directory ∈ config.schema.directories, directory.IsOrdinary
  output : config.output.directory.IsOrdinary
  suffix : '/' ∉ config.output.artifactSuffix.toList

namespace Discovery

open File DirectorySink

/-- A project has its root at a place of a disk. -/
structure IsBased (config : Config) (base : Place) (disk : Disk) : Prop where
  formed : disk.tree.WellFormed
  led : Disk.follow disk.tree disk.current config.projectRoot.components = .ok base
  here : disk.tree.HasDirectory base
  nulFree : ∀ name, .normal name ∈ config.projectRoot.components → '\x00' ∉ name.toList

variable {config : Config} {base : Place} {disk after : Disk} (based : IsBased config base disk)
include based

/-- A path of names below the root of the project leads to the place that they spell. -/
theorem IsBased.eq_of_locate {path : Path} {names : List String} {place : Place}
    (spelled : path.components = config.projectRoot.components ++ names.map .normal)
    (located : disk.locate path = .ok place) : place = base ++ names := by
  have led := (Disk.locate_eq_ok_iff.mp located).2
  rw [spelled, Disk.follow_append, based.led] at led
  exact Disk.eq_of_follow_names led

theorem IsBased.locate_eq {path : Path} {names : List String} {node : Tree} (filled : names ≠ [])
    (spelled : path.components = config.projectRoot.components ++ names.map .normal)
    (found : disk.tree.at? (base ++ names) = some node) : disk.locate path = .ok (base ++ names) := by
  have named : ∀ name ∈ names, IsEntryName name := fun name member =>
    (based.formed.at? found).2 name (List.mem_append_right _ member)
  rw [Disk.locate_eq_ok_iff, Path.isTaken_iff, spelled, Disk.follow_append, based.led]
  refine ⟨⟨by simp [filled], fun name member => ?_⟩, Disk.follow_names found named⟩
  rcases List.mem_append.mp member with above | below
  · exact based.nulFree name above
  · obtain ⟨own, known, same⟩ := List.mem_map.mp below
    cases same
    exact (named _ known).nulFree

/-- What is found in a directory is what is at its place. -/
theorem IsBased.filesAt_eq {directory : Path} {names : List String} (filled : names ≠ [])
    (spelled : (config.resolve directory).components =
      config.projectRoot.components ++ names.map .normal) :
    filesAt disk config directory = filesOf (config.resolve config.output.directory)
      (config.resolve directory) (disk.tree.at? (base ++ names)) := by
  rw [filesAt]
  by_cases found : disk.tree.HasDirectory (base ++ names)
  · obtain ⟨entries, here⟩ := found
    rw [here, Disk.node?_eq_directory_iff.mpr ⟨_, based.locate_eq filled spelled here, here⟩]
  · have none : filesOf (config.resolve config.output.directory) (config.resolve directory)
        (disk.tree.at? (base ++ names)) = [] := by
      rcases here : disk.tree.at? (base ++ names) with _ | _ | entries
      · rfl
      · rfl
      · exact absurd ⟨entries, here⟩ found
    rw [none]
    rcases known : disk.node? (config.resolve directory) with _ | _ | entries
    · rfl
    · rfl
    · obtain ⟨place, located, here⟩ := Disk.node?_eq_directory_iff.mp known
      rw [based.eq_of_locate spelled located] at here
      exact absurd ⟨entries, here⟩ found

omit based

/-- What storing artifacts leaves as it was, if they are stored in a directory that names lead to from the
root of the project: files elsewhere, places that have nothing to do with the directory, and what is
found in the directories of the project. -/
structure Leaves (config : Config) (base : Place) (names : List String) (before after : Disk) :
    Prop extends before.Keeps after where
  elsewhere : ∀ place content, (∀ name, place ≠ base ++ names ++ [name]) →
    (after.tree.at? place = some (.file content) ↔ before.tree.at? place = some (.file content))
  free : ∀ place, ¬ base ++ names.take 1 <+: place → before.tree.at? place = none →
    after.tree.at? place = none
  found : ∀ directory : Path, directory.IsOrdinary →
    filesAt after config directory = filesAt before config directory

namespace Leaves

variable {names : List String} {middle : Disk}

theorem refl (disk : Disk) : Leaves config base names disk disk :=
  ⟨.refl disk, fun _ _ _ => Iff.rfl, fun _ _ => id, fun _ _ => rfl⟩

theorem trans (first : Leaves config base names disk middle)
    (second : Leaves config base names middle after) : Leaves config base names disk after where
  toKeeps := first.toKeeps.trans second.toKeeps
  elsewhere place content apart :=
    (second.elsewhere place content apart).trans (first.elsewhere place content apart)
  free place apart free := second.free place apart (first.free place apart free)
  found directory ordinary := (second.found directory ordinary).trans (first.found directory ordinary)

end Leaves

section Store

variable {names : List String} {root : Path}
  (spelled : root.components = config.projectRoot.components ++ names.map .normal)

include based in
theorem IsBased.mono (keeps : disk.Keeps after) : IsBased config base after where
  formed := keeps.formed based.formed
  led := keeps.current ▸ Disk.follow_mono keeps.directories based.led
  here := keeps.directories base based.here
  nulFree := based.nulFree

include based spelled in
/-- Directories on the way to the output directory are made below the root of the project. -/
theorem IsBased.exists_names_of_isOnWay (keeps : disk.Keeps after) {place : Place}
    (onWay : Disk.IsOnWay root disk after place) :
    ∃ upper, upper ≠ [] ∧ upper <+: names ∧ place = base ++ upper := by
  obtain ⟨free, way, begins, led⟩ := onWay
  have notDirectory := Tree.not_hasDirectory_of_free free
  rw [spelled] at begins
  rcases List.prefix_or_prefix_of_prefix begins (List.prefix_append _ _) with inside | ⟨lower, rfl⟩
  · obtain ⟨rest, whole⟩ := inside
    have base' := based.led
    rw [← whole, Disk.follow_append] at base'
    cases first : Disk.follow disk.tree disk.current way with
    | error obstacle => simp [first, Except.bind] at base'
    | ok here =>
      simp only [first, Except.bind] at base'
      have led' := Disk.follow_mono keeps.directories first
      rw [keeps.current, led'] at led
      cases led
      refine absurd ?_ notDirectory
      cases rest with
      | nil =>
        cases base'
        exact based.here
      | cons component rest => exact Disk.hasDirectory_of_follow_cons base'
  · rw [List.prefix_append_right_inj] at begins
    obtain ⟨upper, begins', rfl⟩ := List.prefix_map_iff.mp begins
    rw [Disk.follow_append, keeps.current, Disk.follow_mono keeps.directories based.led] at led
    have same := Disk.eq_of_follow_names led
    refine ⟨upper, ?_, begins', same⟩
    rintro rfl
    rw [same, List.append_nil] at notDirectory
    exact notDirectory based.here

/-- The files in an ordinary directory are those below its place. -/
theorem IsBased.filesAt_congr (based : IsBased config base disk) (based' : IsBased config base after)
    {directory : Path} (ordinary : directory.IsOrdinary)
    (same : ∀ own : List String,
      (config.resolve directory).components = config.projectRoot.components ++ own.map .normal →
      filesOf (config.resolve config.output.directory) (config.resolve directory)
          (after.tree.at? (base ++ own)) =
        filesOf (config.resolve config.output.directory) (config.resolve directory)
          (disk.tree.at? (base ++ own))) :
    filesAt after config directory = filesAt disk config directory := by
  obtain ⟨own, filled, components, _⟩ := ordinary.exists_names
  have resolved := ordinary.components_resolve config
  rw [components] at resolved
  rw [based.filesAt_eq filled resolved, based'.filesAt_eq filled resolved, same own resolved]

include based spelled in
theorem IsBased.of_createDirectories {isPresent : Bool}
    (created : disk.createDirectories root = (after, isPresent)) :
    IsBased config base after ∧ Leaves config base names disk after := by
  obtain ⟨grows, _⟩ := Disk.grows_createDirectories created
  have keeps := Disk.keeps_createDirectories created
  have based' := based.mono keeps
  refine ⟨based', keeps, fun _ _ _ => grows.file_iff, fun place apart free => ?_,
    fun directory ordinary => ?_⟩
  · refine grows.at?_eq_none (fun onWay => apart ?_) free
    obtain ⟨upper, filled, begins, rfl⟩ := based.exists_names_of_isOnWay spelled keeps onWay
    rw [List.prefix_append_right_inj]
    obtain ⟨name, rest, rfl⟩ := List.exists_cons_of_ne_nil filled
    obtain ⟨later, rfl⟩ := begins
    simp
  · exact based.filesAt_congr based' ordinary fun own _ => filesOf_grown grows based.formed _

include based spelled in
theorem IsBased.of_write (output : root = config.resolve config.output.directory)
    {name : String} (named : Path.IsName name) {bytes : ByteArray}
    (written : disk.write? (root.join ⟨name⟩) bytes = some after) :
    IsBased config base after ∧ Leaves config base names disk after := by
  obtain ⟨_, place, located, notDirectory, put, _⟩ := Disk.exists_write written
  have joined : (root.join ⟨name⟩).components =
      config.projectRoot.components ++ (names ++ [name]).map .normal := by
    rw [Path.components_join_name root named, spelled]
    simp
  obtain rfl : place = base ++ names ++ [name] := by
    rw [based.eq_of_locate joined located, List.append_assoc]
  have keeps := Disk.keeps_write written
  have based' := based.mono keeps
  refine ⟨based', keeps, fun place content elsewhere => ?_, fun place apart free => ?_,
    fun directory ordinary => ?_⟩
  · exact Tree.at?_written_file_iff put notDirectory (elsewhere name)
  · refine Tree.at?_written_of_free put notDirectory ?_ free
    rintro rfl
    apply apart
    rw [List.append_assoc, List.prefix_append_right_inj]
    exact (List.take_prefix 1 names).trans (List.prefix_append _ _)
  · refine based.filesAt_congr based' ordinary fun own resolved => ?_
    refine filesOf_written based.formed put notDirectory fun first rest whole => ?_
    -- What lies between the directory and the file leads through the output directory.
    obtain ⟨between, last, split⟩ := (List.eq_nil_or_concat (first :: rest)).resolve_left (by simp)
    rw [split, List.concat_eq_append] at whole ⊢
    have whole' : names ++ [name] = own ++ between ++ [last] := by
      simpa [List.append_assoc] using whole
    obtain ⟨parted, _⟩ := List.append_inj' whole' rfl
    have between' : ∀ other ∈ between, Path.IsName other := fun other member =>
      @Path.isName_of_mem root other (by simp [spelled, parted, member])
    refine ⟨between, List.prefix_append _ _, ?_⟩
    rw [Path.same, beq_iff_eq, Path.components_below _ between', resolved, ← output, spelled, parted]
    simp

include based spelled in
theorem IsBased.of_stores (output : root = config.resolve config.output.directory)
    {source : String × String} (named : Path.IsName source.1) {storage : Storage}
    (stores : Stores root source disk storage after) :
    IsBased config base after ∧ Leaves config base names disk after := by
  cases stores with
  | held => exact ⟨based, .refl disk⟩
  | unmade _ failed => exact based.of_createDirectories spelled failed
  | refused _ created _ => exact based.of_createDirectories spelled created
  | written _ created done =>
    obtain ⟨based', made⟩ := based.of_createDirectories spelled created
    obtain ⟨based'', written⟩ := based'.of_write spelled output named done
    exact ⟨based'', made.trans written⟩

include spelled in
/-- Storing sources in the output directory is not seen when files are found. -/
theorem IsBased.of_storedAll (based : IsBased config base disk)
    (output : root = config.resolve config.output.directory) {sources : List (String × String)}
    (named : ∀ source ∈ sources, Path.IsName source.1) :
    IsBased config base (storedAll root sources disk).2 ∧
      Leaves config base names disk (storedAll root sources disk).2 := by
  induction sources generalizing disk with
  | nil => exact ⟨based, .refl disk⟩
  | cons source rest ih =>
    obtain ⟨based', first⟩ := based.of_stores spelled output (named source (by simp))
      (stores_stored root source disk)
    obtain ⟨based'', others⟩ := ih based' fun other member => named other (List.mem_cons_of_mem _ member)
    exact ⟨based'', first.trans others⟩

end Store

/-- What is found in a project shows only what is found in its directories. -/
theorem discovered_congr (ordinary : config.IsOrdinary)
    (found : ∀ directory : Path, directory.IsOrdinary →
      filesAt after config directory = filesAt disk config directory) :
    discovered after config = discovered disk config := by
  have each : ∀ wanted (directory : Path), directory.IsOrdinary →
      collected after config wanted directory = collected disk config wanted directory := by
    intro wanted directory known
    rw [collected, collected, found directory known]
  have all : ∀ wanted (directories : List Path), (∀ directory ∈ directories, directory.IsOrdinary) →
      collectedAll after config wanted directories = collectedAll disk config wanted directories := by
    intro wanted directories known
    induction directories with
    | nil => rfl
    | cons directory rest ih =>
      rw [collectedAll, collectedAll, each wanted directory (known directory (by simp)),
        ih fun other member => known other (List.mem_cons_of_mem _ member)]
  rw [discovered, discovered, each isSource _ ordinary.sourceRoot, all _ _ ordinary.schemas]

end Discovery

end TermBind

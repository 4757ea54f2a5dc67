import TermBind.Proofs.Discovery.Walk
import TermBind.Proofs.File.Run

/-! What is found on a disk. Finding files reads the disk and leaves it as it is. -/
namespace TermBind

namespace Discovery

open File

/-- Files with their texts; the first one that holds no text is a problem. -/
def texts (config : Config) : List (Path × ByteArray) → Except DiscoveryProblem (List (Path × String))
  | [] => .ok []
  | (path, content) :: rest =>
    match String.fromUTF8? content with
    | some text => (texts config rest).map ((relative config path, text) :: ·)
    | none => .error ⟨path⟩

/-- The files below a path at which there is a directory. -/
def filesOf (skip path : Path) : Option Tree → List (Path × ByteArray)
  | some (.directory entries) => walked skip path (.directory entries)
  | _ => []

/-- The files below a directory of a project, outside the output directory. -/
def filesAt (disk : Disk) (config : Config) (directory : Path) : List (Path × ByteArray) :=
  filesOf (config.resolve config.output.directory) (config.resolve directory)
    (disk.node? (config.resolve directory))

def collected (disk : Disk) (config : Config) (wanted : Path → Bool) (directory : Path) :
    Except DiscoveryProblem (List (Path × String)) :=
  texts config ((filesAt disk config directory).filter fun file => wanted file.1)

def collectedAll (disk : Disk) (config : Config) (wanted : Path → Bool) :
    List Path → Except DiscoveryProblem (List (Path × String))
  | [] => .ok []
  | directory :: rest => do
    return (← collected disk config wanted directory) ++ (← collectedAll disk config wanted rest)

/-- Whether a file has the extension of schema documents. -/
def isSchema (config : Config) (path : Path) : Bool := Schema.isSchemaFile path config.schema.extension

/-- The files of a project on a disk. -/
def discovered (disk : Disk) (config : Config) : Except DiscoveryProblem ProjectFiles := do
  let sources ← collected disk config isSource config.binding.sourceRoot
  let schemas ← collectedAll disk config (isSchema config) config.schema.directories
  return { sources, schemas }

/-- Every file is there with its text. -/
theorem mem_texts_iff {config : Config} {files : List (Path × ByteArray)}
    {found : List (Path × String)} (read : texts config files = .ok found) {path : Path}
    {text : String} : (path, text) ∈ found ↔
      ∃ file ∈ files, path = relative config file.1 ∧ String.fromUTF8? file.2 = some text := by
  induction files generalizing found with
  | nil =>
    cases read
    simp
  | cons file rest ih =>
    rw [texts] at read
    split at read
    · rename_i own decoded
      cases others : texts config rest with
      | error problem =>
        rw [others] at read
        cases read
      | ok later =>
        rw [others] at read
        cases read
        simp [ih others, decoded, eq_comm]
    · cases read

theorem isSome_of_texts {config : Config} {files : List (Path × ByteArray)}
    {found : List (Path × String)} (read : texts config files = .ok found) :
    ∀ file ∈ files, (String.fromUTF8? file.2).isSome := by
  induction files generalizing found with
  | nil => simp
  | cons file rest ih =>
    rw [texts] at read
    split at read
    · rename_i own decoded
      cases others : texts config rest with
      | error problem =>
        rw [others] at read
        cases read
      | ok later => simpa [decoded] using ih others
    · cases read

section Run

variable {disk : Disk} (config : Config)

/-- Files are read as they stand on the disk. -/
theorem run_readAll {files : List (Path × ByteArray)}
    (stored : ∀ file ∈ files, disk.read? file.1 = some file.2) :
    (readAll Disk.host config (files.map Prod.fst)).run.run disk = (texts config files, disk) := by
  induction files with
  | nil => rfl
  | cons file rest ih =>
    obtain ⟨path, content⟩ := file
    have later := ih fun other member => stored other (List.mem_cons_of_mem _ member)
    have read : (Disk.host.readText path).run disk = (String.fromUTF8? content, disk) := by
      rw [Disk.run_readText, stored (path, content) (by simp)]
      rfl
    rw [List.map_cons, readAll, texts, run_bind_of_ok (run_lift read)]
    cases String.fromUTF8? content with
    | none => rfl
    | some text =>
      dsimp only
      cases others : texts config rest with
      | error problem =>
        rw [others] at later
        rw [run_bind_of_error later]
        rfl
      | ok found =>
        rw [others] at later
        rw [run_bind_of_ok later]
        rfl

/-- A directory holds the files that a walk from it can go to. -/
theorem mem_filesAt_iff (formed : disk.tree.WellFormed) {directory found : Path}
    {content : ByteArray} : (found, content) ∈ filesAt disk config directory ↔
      ∃ place names, disk.locate (config.resolve directory) = .ok place ∧
        disk.tree.HasDirectory place ∧ found = (config.resolve directory).below names ∧
        disk.tree.at? (place ++ names) = some (.file content) ∧
        Passes (config.resolve config.output.directory) (config.resolve directory) names := by
  rw [filesAt]
  constructor
  · intro member
    rcases known : disk.node? (config.resolve directory) with _ | _ | entries
    all_goals rw [known] at member
    · cases member
    · cases member
    · obtain ⟨place, located, here⟩ := Disk.node?_eq_directory_iff.mp known
      obtain ⟨names, rfl, stored, passes⟩ := (mem_walked_iff (formed.at? here).1).mp member
      exact ⟨place, names, located, ⟨entries, here⟩, rfl, by simp [Tree.at?_append, here, stored],
        passes⟩
  · rintro ⟨place, names, located, ⟨entries, here⟩, rfl, stored, passes⟩
    rw [Disk.node?_eq_directory_iff.mpr ⟨place, located, here⟩]
    rw [Tree.at?_append, here] at stored
    exact (mem_walked_iff (formed.at? here).1).mpr ⟨names, rfl, stored, passes⟩

/-- What a walk finds is stored where it was found. -/
theorem read?_of_mem_filesAt (formed : disk.tree.WellFormed) {directory : Path}
    {file : Path × ByteArray} (member : file ∈ filesAt disk config directory) :
    disk.read? file.1 = some file.2 := by
  obtain ⟨found, content⟩ := file
  obtain ⟨place, names, located, ⟨entries, here⟩, rfl, stored, _⟩ :=
    (mem_filesAt_iff config formed).mp member
  have named : ∀ name ∈ names, IsEntryName name := fun name known =>
    (formed.at? stored).2 name (List.mem_append_right _ known)
  have reached := Disk.locate_below located stored named
  refine Disk.read?_eq_some reached stored ?_
  rcases List.eq_nil_or_concat names with rfl | ⟨upper, name, rfl⟩
  · simp [here] at stored
  · rw [List.concat_eq_append, Path.below_append]
    exact Disk.namesDirectory_join (named name (by simp)).toIsName

theorem run_collect (formed : disk.tree.WellFormed) (wanted : Path → Bool) (directory : Path) :
    (collect Disk.host config wanted directory).run.run disk =
      (collected disk config wanted directory, disk) := by
  have stored : ∀ file ∈ (filesAt disk config directory).filter fun file => wanted file.1,
      disk.read? file.1 = some file.2 :=
    fun file member => read?_of_mem_filesAt config formed (List.mem_filter.mp member).1
  have read := run_readAll config stored
  rw [collect, run_bind_of_ok (run_lift (Disk.run_list disk _)), collected, ← read, filesAt]
  rcases disk.node? (config.resolve directory) with _ | _ | entries
  · rfl
  · rfl
  · have walk := walk_listing (config.resolve config.output.directory) (config.resolve directory)
      (.directory entries)
    rw [Tree.listing] at walk
    dsimp only
    rw [walk, List.filter_map]
    rfl

theorem run_collectAll (formed : disk.tree.WellFormed) (wanted : Path → Bool)
    (directories : List Path) :
    (collectAll Disk.host config wanted directories).run.run disk =
      (collectedAll disk config wanted directories, disk) := by
  induction directories with
  | nil => rfl
  | cons directory rest ih =>
    have first := run_collect config formed wanted directory
    rw [collectAll, collectedAll]
    cases own : collected disk config wanted directory with
    | error problem =>
      rw [own] at first
      exact run_bind_of_error first _
    | ok found =>
      rw [own] at first
      rw [run_bind_of_ok first]
      cases others : collectedAll disk config wanted rest with
      | error problem =>
        rw [others] at ih
        exact run_bind_of_error ih _
      | ok later =>
        rw [others] at ih
        exact run_bind_of_ok ih _

/-- Finding the files of a project reads the disk and leaves it as it is. -/
theorem run_discover (formed : disk.tree.WellFormed) :
    (discover Disk.host config).run.run disk = (discovered disk config, disk) := by
  have sources := run_collect config formed isSource config.binding.sourceRoot
  have schemas := run_collectAll config formed (isSchema config) config.schema.directories
  rw [discover, discovered]
  cases own : collected disk config isSource config.binding.sourceRoot with
  | error problem =>
    rw [own] at sources
    exact run_bind_of_error sources _
  | ok found =>
    rw [own] at sources
    rw [run_bind_of_ok sources]
    cases others : collectedAll disk config (isSchema config) config.schema.directories with
    | error problem =>
      rw [others] at schemas
      exact run_bind_of_error schemas _
    | ok later =>
      rw [others] at schemas
      exact run_bind_of_ok schemas _

end Run

end Discovery
end TermBind

import TermBind.Proofs.Command.Generation
import TermBind.Proofs.Discovery.Ordinary
import TermBind.Proofs.Source.Module
import TermBind.Proofs.Workspace.ArtifactNames

/-! Generating twice. In a project of ordinary directories the second run finds what the first one found,
and stores what is stored already. -/
namespace TermBind

open File Discovery DirectorySink

namespace File

namespace Disk

variable {disk : Disk}

theorem workingDirectory_components (named : ∀ name ∈ disk.current, Path.IsName name) :
    disk.workingDirectory.components = .root :: disk.current.map .normal := by
  have free : Path.SlashFree disk.current := fun name member => (named name member).slashFree
  have rebuilt := @Path.components_rebuild ⟨"/"⟩ disk.current free fun relative => absurd relative (by decide)
  rw [show (Path.mk "/").rebuild disk.current = disk.workingDirectory from rfl] at rebuilt
  rw [rebuilt, if_pos (by decide), List.singleton_append]
  congr 1
  rw [← List.filterMap_eq_map, List.filterMap_congr]
  exact fun name member => (named name member).component?

/-- A file that is read is an entry of the directory that its parent leads to. -/
theorem exists_parent_of_read {path : Path} {bytes : ByteArray} (read : disk.read? path = some bytes) :
    ∃ parent base name, path.parent? = some parent ∧
      follow disk.tree disk.current parent.components = .ok base ∧ disk.tree.HasDirectory base ∧
      (∀ own, .normal own ∈ parent.components → '\x00' ∉ own.toList) ∧
      disk.locate path = .ok (base ++ [name]) ∧
      disk.tree.at? (base ++ [name]) = some (.file bytes) := by
  obtain ⟨_, place, located, stored⟩ := read?_eq_some_iff.mp read
  obtain ⟨taken, led⟩ := locate_eq_ok_iff.mp located
  obtain ⟨some, nulFree⟩ := Path.isTaken_iff.mp taken
  rcases follow_ends some led with ⟨entries, here⟩ | ⟨upper, name, base, whole, led', here, _, rfl⟩
  · simp [stored] at here
  · obtain ⟨parent, parented, rfl⟩ := Path.exists_parent whole
    exact ⟨parent, base, name, parented, led', here, fun own member => nulFree own (by simp [whole, member]),
      located, stored⟩

end Disk

end File

namespace Command

variable {disk after : Disk} {config : Config} {path : Path}

/-- The root of a project is the directory that its file of settings is in. -/
theorem exists_base_of_settingsIn (formed : disk.tree.WellFormed)
    (settled : settingsIn disk path = .ok config) : ∃ base, IsBased config base disk ∧
      ∃ name bytes, disk.read? path = some bytes ∧ disk.locate path = .ok (base ++ [name]) := by
  rw [settingsIn] at settled
  split at settled
  · cases settled
  · rename_i text known
    obtain ⟨bytes, read, _⟩ := Option.bind_eq_some_iff.mp known
    obtain ⟨parent, base, name, parented, led, here, nulFree, located, stored⟩ :=
      Disk.exists_parent_of_read read
    rw [parented] at settled
    split at settled
    · cases settled
    · cases settled
      exact ⟨base, ⟨formed, led, here, nulFree⟩, name, bytes, read, located⟩

/-- Without a file of settings the root of the project is the working directory. -/
theorem isBased_workingDirectory (formed : disk.tree.WellFormed)
    (here : disk.tree.HasDirectory disk.current) :
    IsBased { projectRoot := disk.workingDirectory } disk.current disk := by
  obtain ⟨entries, found⟩ := here
  have named := (formed.at? found).2
  have spelled := Disk.workingDirectory_components fun name member => (named name member).toIsName
  refine ⟨formed, ?_, ⟨entries, found⟩, fun name member => ?_⟩
  · rw [spelled, Disk.follow_cons, found]
    exact Disk.follow_names (by simpa using found) named
  · rw [spelled] at member
    simp only [List.mem_cons, reduceCtorEq, List.mem_map, Component.normal.injEq, exists_eq_right,
      false_or] at member
    exact (named name member).nulFree

/-- Storing artifacts below the root of the project leaves its file of settings as it was. -/
theorem read?_of_leaves {base : Place} {names : List String} {name : String} (filled : names ≠ [])
    (leaves : Leaves config base names disk after) {bytes : ByteArray}
    (read : disk.read? path = some bytes) (located : disk.locate path = .ok (base ++ [name])) :
    after.read? path = some bytes := by
  obtain ⟨fits, place, located', stored⟩ := Disk.read?_eq_some_iff.mp read
  obtain rfl : base ++ [name] = place := Except.ok.inj (located.symm.trans located')
  refine Disk.read?_eq_some_iff.mpr
    ⟨fits, _, leaves.locate located, (leaves.elsewhere _ _ fun own same => ?_).mpr stored⟩
  have lengths := congrArg List.length same
  have some := List.length_pos_iff.mpr filled
  simp only [List.length_append, List.length_singleton] at lengths
  omega

/-- The file of settings with the usual name is an entry of the working directory. -/
theorem node?_fileName (here : disk.tree.HasDirectory disk.current) :
    disk.node? ⟨Config.fileName⟩ = disk.tree.at? (disk.current ++ [Config.fileName]) := by
  have named : IsEntryName Config.fileName := by decide
  have spelled := named.components
  have located : disk.locate ⟨Config.fileName⟩ = .ok (disk.current ++ [Config.fileName]) := by
    rw [Disk.locate_eq_ok_iff, Path.isTaken_iff, spelled]
    refine ⟨⟨by simp, fun name member => ?_⟩, Disk.follow_normal_iff.mpr ⟨here, named.usable, rfl⟩⟩
    cases List.mem_singleton.mp member
    exact named.nulFree
  have fits : Disk.namesDirectory ⟨Config.fileName⟩ = false := by decide
  simp [Disk.node?, Disk.locate?_eq_some_iff.mpr located, fits]

theorem settingsIn_of_leaves {base : Place} {names : List String} {name : String} (filled : names ≠ [])
    (leaves : Leaves config base names disk after) {bytes : ByteArray}
    (read : disk.read? path = some bytes) (located : disk.locate path = .ok (base ++ [name])) :
    settingsIn after path = settingsIn disk path := by
  rw [settingsIn, settingsIn, read, read?_of_leaves filled leaves read located]

/-- The settings of a project are for a place of the disk, and storing artifacts leaves them as they
were. -/
theorem exists_base_of_settingsOn (formed : disk.tree.WellFormed)
    (here : disk.tree.HasDirectory disk.current) {path : Option Path}
    (settled : settingsOn disk path = .ok config) : ∃ base, IsBased config base disk ∧
      ∀ names after, names ≠ [] → config.output.directory.components = names.map .normal →
        Leaves config base names disk after → settingsOn after path = .ok config := by
  cases path with
  | some path =>
    obtain ⟨base, based, name, bytes, read, located⟩ := exists_base_of_settingsIn formed settled
    exact ⟨base, based, fun names after filled _ leaves =>
      (settingsIn_of_leaves filled leaves read located).trans settled⟩
  | none =>
    rw [settingsOn] at settled
    split at settled
    · obtain ⟨base, based, name, bytes, read, located⟩ := exists_base_of_settingsIn formed settled
      refine ⟨base, based, fun names after filled _ leaves => ?_⟩
      have present : (after.node? ⟨Config.fileName⟩).isSome := by
        obtain ⟨node, found, _⟩ := Option.bind_eq_some_iff.mp
          (show after.read? _ = some bytes from read?_of_leaves filled leaves read located)
        rw [found]
        rfl
      rw [settingsOn, if_pos present, settingsIn_of_leaves filled leaves read located, settled]
    · rename_i absent
      cases settled
      refine ⟨disk.current, isBased_workingDirectory formed here, fun names after filled spelled leaves => ?_⟩
      rw [node?_fileName here, Option.not_isSome_iff_eq_none] at absent
      have first : names.take 1 = ["src"] := by
        have usual : Path.components ⟨"src/generated"⟩ = [.normal "src", .normal "generated"] := by
          decide
        have spelled' := usual.symm.trans spelled
        cases names with
        | nil => exact absurd rfl filled
        | cons name rest =>
          simp only [List.map_cons, List.cons.injEq, Component.normal.injEq] at spelled'
          simp [← spelled'.1]
      have absent' : (after.node? ⟨Config.fileName⟩).isSome = false := by
        rw [node?_fileName (leaves.current ▸ leaves.directories _ here), leaves.current,
          leaves.free _ (by rw [first]; simp [Config.fileName]) absent]
        rfl
      rw [settingsOn, absent']
      simp [Disk.workingDirectory, leaves.current]

/-- Conclusions that differ at most in the failure they tell of. -/
structure Conclusion.Alike (left right : Conclusion) : Prop where
  lines : left.lines = right.lines
  status : left.status = right.status
  disk : left.disk = right.disk

theorem disk_concluded (timestamp : String) (root : Path) (output : Output) (disk : Disk) :
    (concluded timestamp root none output disk).disk =
      (storedAll root (sourcesOf output.artifacts) disk).2 := by
  rw [concluded]
  split <;> rfl

/-- Storing what is stored already comes to the same, whatever the time. -/
theorem concluded_again (timestamp timestamp' : String) {root : Path} (filled : root.text ≠ "")
    {output : Output} (apart : AreApart (sourcesOf output.artifacts)) (disk : Disk) :
    (concluded timestamp' root none output (concluded timestamp root none output disk).disk).Alike
      (concluded timestamp root none output disk) := by
  have again := storedAll_again filled apart disk
  have fails : (problemOf root (sourcesOf output.artifacts)
      ((storedAll root (sourcesOf output.artifacts) disk).1.map Storage.again)).isSome =
        (problemOf root (sourcesOf output.artifacts)
          (storedAll root (sourcesOf output.artifacts) disk).1).isSome := by
    have second := isSome_problemOf root (sourcesOf output.artifacts)
      (storedAll root (sourcesOf output.artifacts) disk).2
    rw [again] at second
    simp [second, isSome_problemOf, Storage.isStored_again, Function.comp_def]
  rw [disk_concluded, concluded, concluded, again]
  dsimp only
  cases first : problemOf root (sourcesOf output.artifacts)
      (storedAll root (sourcesOf output.artifacts) disk).1 with
  | none =>
    rw [first, Option.isSome_none, Option.isSome_eq_false_iff, Option.isNone_iff_eq_none] at fails
    rw [fails]
    exact ⟨rfl, rfl, rfl⟩
  | some problem =>
    rw [first, Option.isSome_some, Option.isSome_iff_exists] at fails
    obtain ⟨problem', failed⟩ := fails
    rw [failed]
    exact ⟨rfl, rfl, rfl⟩

/-- The artifacts of a project can be files of one directory. -/
theorem areApart_outputOf [Wording] (slashFree : '/' ∉ config.output.artifactSuffix.toList)
    (files : ProjectFiles) : AreApart (sourcesOf (outputOf config files).artifacts) := by
  rw [outputOf, Workspace.Session.pipeline_ofFiles]
  exact Workspace.Contents.areApart_artifacts slashFree

section Again

variable (timestamp timestamp' : String) {base : Place} {names : List String}
  (ordinary : config.IsOrdinary) (based : IsBased config base disk)
  (spelled : config.output.directory.components = names.map .normal)
include ordinary based spelled

/-- Generating leaves a project as it was, but for its artifacts. -/
theorem based_generated [Wording] :
    IsBased config base (generated timestamp config none none disk).disk ∧
    Leaves config base names disk (generated timestamp config none none disk).disk := by
  cases known : discovered disk config with
  | error problem =>
    rw [generated_of_error known]
    exact ⟨based, .refl disk⟩
  | ok files =>
    rw [generated_of_ok known, disk_concluded]
    have root := ordinary.output.components_resolve config
    rw [spelled] at root
    exact based.of_storedAll root rfl (areApart_outputOf ordinary.suffix files).named

theorem generated_again [Wording] :
    (generated timestamp' config none none (generated timestamp config none none disk).disk).Alike
      (generated timestamp config none none disk) := by
  have found := discovered_congr ordinary (based_generated timestamp ordinary based spelled).2.found
  have filled : (outputRoot config none).text ≠ "" := by
    intro empty
    have nothing := Path.components_eq_nil_iff.mpr empty
    rw [show outputRoot config none = config.resolve config.output.directory from rfl,
      ordinary.output.components_resolve config] at nothing
    exact Path.components_ne_nil ordinary.output.filled (List.append_eq_nil_iff.mp nothing).2
  cases known : discovered disk config with
  | error problem =>
    rw [known, generated_of_error known] at found
    rw [generated_of_error known, generated_of_error found]
    exact ⟨rfl, rfl, rfl⟩
  | ok files =>
    rw [known] at found
    rw [generated_of_ok found, generated_of_ok known]
    exact concluded_again timestamp timestamp' filled (areApart_outputOf ordinary.suffix files) disk

end Again

/-- Generating twice comes to the same as generating once, if the settings are those of a project of
ordinary directories. -/
theorem performed_again [Wording] (timestamp timestamp' : String) (formed : disk.tree.WellFormed)
    (here : disk.tree.HasDirectory disk.current) {path : Option Path}
    (ordinary : ∀ config, settingsOn disk path = .ok config → config.IsOrdinary) :
    (performed timestamp path none none disk).disk.tree.WellFormed ∧
      (performed timestamp' path none none (performed timestamp path none none disk).disk).Alike
        (performed timestamp path none none disk) := by
  cases settled : settingsOn disk path with
  | error problem =>
    have first : performed timestamp path none none disk = ⟨.error (.settings problem), [], disk⟩ := by
      rw [performed, settled]
    rw [first, performed, settled]
    exact ⟨formed, rfl, rfl, rfl⟩
  | ok config =>
    have ordinary := ordinary config settled
    obtain ⟨names, filled, spelled, _⟩ := ordinary.output.exists_names
    obtain ⟨base, based, stays⟩ := exists_base_of_settingsOn formed here settled
    have first : performed timestamp path none none disk =
        generated timestamp config none none disk := by
      rw [performed, settled]
    obtain ⟨based', leaves⟩ := based_generated timestamp ordinary based spelled
    rw [first, performed, stays names _ filled spelled leaves]
    exact ⟨based'.formed, generated_again timestamp timestamp' ordinary based spelled⟩

/-- Generating in a project of ordinary directories, without a directory for its artifacts or a report
being asked for: a second run prints the same lines, ends with the same status and leaves the disk as the
first one did. -/
theorem run_again [Wording] (formed : disk.tree.WellFormed) (here : disk.tree.HasDirectory disk.current)
    {arguments : List String} {invocation : Invocation}
    (read : Invocation.ofArguments arguments = .ok invocation)
    (task : invocation.task = .generate none none)
    (ordinary : ∀ config, settingsOn disk invocation.config = .ok config → config.IsOrdinary)
    (timestamp timestamp' : String) :
    let first := (run Disk.host timestamp arguments).run disk
    let second := (run Disk.host timestamp' arguments).run first.2
    second.1.transcript.output = first.1.transcript.output ∧ second.1.status = first.1.status ∧
      second.2 = first.2 := by
  obtain ⟨formed', alike⟩ := performed_again timestamp timestamp' formed here ordinary
  obtain ⟨remarks, first⟩ := run_generation formed timestamp read task
  obtain ⟨remarks', second⟩ := run_generation formed' timestamp' read task
  dsimp only at first second ⊢
  rw [first]
  dsimp only
  rw [second]
  exact ⟨alike.lines, alike.status, alike.disk⟩

/-- A project with two types that ask for the same document. The file of one of them cannot be written:
there is a directory in its place. -/
def shelfDisk : Disk where
  tree := .directory [("p", .directory
    [("schemas", .directory [("a.ttl", .file "".toUTF8)]),
      ("src", .directory
        [("generated", .directory [("B.g.rs", .directory [])]),
          ("lib.rs", .file ("#[ttlgen::from_ttl(\"a.ttl\", \"a\", \"http://a/\")]\nstruct A;\n" ++
            "#[ttlgen::from_ttl(\"a.ttl\", \"a\", \"http://a/\")]\nstruct B;").toUTF8)])])]
  current := ["p"]

theorem read_generate :
    Invocation.ofArguments ["generate"] = .ok { task := .generate none none } := by rfl

section

open scoped Wording

theorem run_again_shelf :
    let first := (run Disk.host "monday" ["generate"]).run shelfDisk
    let second := (run Disk.host "tuesday" ["generate"]).run first.2
    shelfDisk.tree.WellFormed ∧ shelfDisk.tree.HasDirectory shelfDisk.current ∧
      Invocation.ofArguments ["generate"] = .ok { task := .generate none none } ∧
      (∀ config, settingsOn shelfDisk none = .ok config → config.IsOrdinary) ∧
      (first.1.status = 1 ∧ (first.2.read? ⟨"src/generated/A.g.rs"⟩).isSome) ∧
      second.1.transcript.output = first.1.transcript.output ∧ second.1.status = first.1.status ∧
      second.2 = first.2 := by
  have formed : shelfDisk.tree.WellFormed := Tree.wellFormed_of_isWellFormed (by decide +kernel)
  have here : shelfDisk.tree.HasDirectory shelfDisk.current := ⟨_, rfl⟩
  have ordinary : ∀ config, settingsOn shelfDisk none = .ok config → config.IsOrdinary := by
    rintro config ⟨⟩
    exact ⟨by decide, by decide, by decide, by decide⟩
  exact ⟨formed, here, read_generate, ordinary, by decide +kernel,
    run_again formed here read_generate rfl ordinary "monday" "tuesday"⟩

end

end Command

end TermBind

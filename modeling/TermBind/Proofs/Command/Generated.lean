import TermBind.Proofs.Command.Repetition
import TermBind.Proofs.Discovery.Inputs

/-! Whether generated files are inputs later. A file that was written is found again where a search comes
to it: only the spelling of the output directory in the settings is passed over. -/
namespace TermBind.Command

open File Discovery DirectorySink

variable {disk : Disk} {config : Config} {outDirectory reportPath : Option Path} {path : Path}

/-- The files that artifacts are written to once files were looked for. -/
def writtenFrom [Wording] (config : Config) (outDirectory : Option Path) (disk : Disk) :
    Except DiscoveryProblem ProjectFiles → List Path
  | .error _ => []
  | .ok files =>
    let sources := sourcesOf (outputOf config files).artifacts
    let root := outputRoot config outDirectory
    (notedAll { root } sources (storedAll root sources disk).1).written

/-- The files that generating writes artifacts to. -/
def written [Wording] (config : Config) (outDirectory : Option Path) (disk : Disk) : List Path :=
  writtenFrom config outDirectory disk (discovered disk config)

theorem keeps_reported (timestamp : String) (reportPath : Option Path) (output : Output) (disk : Disk) :
    disk.Keeps (reported timestamp reportPath output disk).disk := by
  cases reportPath with
  | none => exact .refl disk
  | some path =>
    rw [reported]
    split
    · exact Disk.keeps_write ‹_›
    · exact .refl disk

theorem keeps_concluded (timestamp : String) (root : Path) (reportPath : Option Path) (output : Output)
    (disk : Disk) : (storedAll root (sourcesOf output.artifacts) disk).2.Keeps
      (concluded timestamp root reportPath output disk).disk := by
  rw [concluded]
  split
  · exact .refl _
  · exact keeps_reported timestamp reportPath output _

/-- What was written is there when generating is done, in the directory for artifacts. -/
theorem exists_file_of_written [Wording] (timestamp : String) (reportPath : Option Path)
    (member : path ∈ written config outDirectory disk) :
    let after := (generated timestamp config outDirectory reportPath disk).disk
    disk.Keeps after ∧ ∃ name place content, path = (outputRoot config outDirectory).join ⟨name⟩ ∧
      ('/' ∉ config.output.artifactSuffix.toList → Path.IsName name) ∧
        after.locate path = .ok place ∧ after.tree.at? place = some (.file content) := by
  cases known : discovered disk config with
  | error problem =>
    rw [written, known] at member
    cases member
  | ok files =>
    rw [written, known] at member
    rw [generated_of_ok known]
    obtain ⟨source, stored, rfl⟩ := (mem_written_notedAll.mp member).resolve_left (by simp)
    obtain ⟨place, content, located, here⟩ := DirectorySink.exists_file_of_written stored
    have keeps := keeps_concluded timestamp (outputRoot config outDirectory) reportPath
      (outputOf config files) disk
    obtain ⟨content', here'⟩ := keeps.files place content here
    exact ⟨(keeps_storedAll _ _ _).trans keeps, source.1, place, content', rfl,
      fun slashFree => (areApart_outputOf slashFree files).named source (List.of_mem_zip stored).1,
      keeps.locate located, here'⟩

/-- In a project of ordinary directories no search comes to a file of the output directory. -/
theorem not_comesTo {base : Place} (ordinary : config.IsOrdinary) (based : IsBased config base disk)
    {name : String} (named : Path.IsName name) {place : Place} {content : ByteArray}
    (located : disk.locate ((config.resolve config.output.directory).join ⟨name⟩) = .ok place)
    (stored : disk.tree.at? place = some (.file content)) {search : Search}
    (listed : search ∈ searches config) : ¬ search.ComesTo disk config place := by
  have own : search.directory.IsOrdinary := by
    rcases List.mem_cons.mp listed with rfl | later
    · exact ordinary.sourceRoot
    · obtain ⟨directory, member, rfl⟩ := List.mem_map.mp later
      exact ordinary.schemas directory member
  obtain ⟨outward, _, output, _⟩ := ordinary.output.exists_names
  obtain ⟨inward, _, input, _⟩ := own.exists_names
  have output' := ordinary.output.components_resolve config
  have input' := own.components_resolve config
  rw [output] at output'
  rw [input] at input'
  have joined : ((config.resolve config.output.directory).join ⟨name⟩).components =
      config.projectRoot.components ++ (outward ++ [name]).map .normal := by
    rw [Path.components_join_name _ named, output']
    simp
  have place' := based.eq_of_locate joined located
  rintro ⟨root, names, located', ⟨entries, here⟩, rfl, _, apart⟩
  rw [based.eq_of_locate input' located', List.append_assoc, List.append_cancel_left_eq] at place'
  rcases List.eq_nil_or_concat names with rfl | ⟨upper, last, rfl⟩
  · simp [here] at stored
  · rw [List.concat_eq_append, ← List.append_assoc] at place'
    obtain ⟨whole, _⟩ := List.append_inj' place' rfl
    refine apart upper (by simp) ?_
    rw [input', output', ← whole]
    simp

/-- A generated file is an input of the project afterwards just if a search comes to it. None does in a
project of ordinary directories if no other directory was asked for. -/
theorem isInput_generated_iff [Wording] (formed : disk.tree.WellFormed)
    (here : disk.tree.HasDirectory disk.current) {arguments : List String} {invocation : Invocation}
    (read : Invocation.ofArguments arguments = .ok invocation)
    (task : invocation.task = .generate outDirectory reportPath)
    (settled : settingsOn disk invocation.config = .ok config)
    (member : path ∈ written config outDirectory disk) (timestamp : String) :
    let after := ((run Disk.host timestamp arguments).run disk).2
    ∃ place content, after.locate path = .ok place ∧ after.tree.at? place = some (.file content) ∧
      (∀ files last, (discover Disk.host config).run.run after = (.ok files, last) →
        (IsInput after config files place ↔
          ∃ search ∈ searches config, search.ComesTo after config place)) ∧
      (config.IsOrdinary → outDirectory = none →
        ∀ search ∈ searches config, ¬ search.ComesTo after config place) := by
  intro after
  have ended : after = (generated timestamp config outDirectory reportPath disk).disk :=
    disk_run_generation formed timestamp read task settled
  obtain ⟨keeps, name, place, content, rfl, named, located, stored⟩ :=
    exists_file_of_written timestamp reportPath member
  rw [← ended] at keeps located stored
  clear_value after
  refine ⟨place, content, located, stored, fun files last found => ?_, ?_⟩
  · have formed' := keeps.formed formed
    rw [run_discover config formed', Prod.mk.injEq] at found
    exact isInput_iff formed' found.1 stored
  · rintro ordinary rfl search listed
    obtain ⟨base, based, _⟩ := exists_base_of_settingsOn formed here settled
    exact not_comesTo ordinary (based.mono keeps) (named ordinary.suffix) located stored listed

def dottedSource : String := "#[ttlgen::from_ttl(\"a.ttl\", \"a\", \"http://a/\")]\npub struct A;"

/-- A project whose output directory is spelled with a leading dot. -/
def dottedDisk : Disk where
  tree := .directory [("p", .directory
    [("schemas", .directory [("a.ttl", .file "".toUTF8)]),
      ("src", .directory [("lib.rs", .file dottedSource.toUTF8)]),
      ("ttlgen.toml", .file "[output]\ndirectory = \"./src/generated\"\n".toUTF8)])]
  current := ["p"]

def dottedConfig : Config := { output := { directory := ⟨"./src/generated"⟩ } }

def dottedFiles : ProjectFiles where
  sources := [(⟨"src/lib.rs"⟩, dottedSource)]
  schemas := [(⟨"schemas/a.ttl"⟩, "")]

def dottedArtifact : Artifact where
  name := "A.g.rs"
  text := "// @generated by ttlgen from a.ttl. Do not edit.\n\nimpl A \x7b\n" ++
    "    /// Preferred prefix for terms of `a.ttl`\n    pub const PREFIX: &'static str = \"a\";\n\n" ++
    "    /// Namespace shared by the terms below\n" ++
    "    pub const PREFIX_URI: &'static str = \"http://a/\";\n\x7d\n"
  binding :=
    { documentKey := "a.ttl", scope := "crate", typeName := "A", prefixLabel := "a", prefixUri := "http://a/" }

/-- The project after its artifact was stored. -/
def dottedAfter : Disk :=
  (storedAll (outputRoot dottedConfig none) [(dottedArtifact.name, dottedArtifact.text)] dottedDisk).2

theorem wellFormed_dottedDisk : dottedDisk.tree.WellFormed :=
  Tree.wellFormed_of_isWellFormed (by decide +kernel)

theorem settingsOn_dottedDisk : settingsOn dottedDisk none = .ok dottedConfig := by
  have known : (settingsOn dottedDisk none).toOption = some dottedConfig := by decide +kernel
  cases settled : settingsOn dottedDisk none with
  | error problem => simp [settled, Except.toOption] at known
  | ok config => simpa [settled, Except.toOption] using known

theorem discovered_dottedDisk : discovered dottedDisk dottedConfig = .ok dottedFiles := rfl

section

open scoped Wording

theorem outputOf_dottedFiles :
    outputOf dottedConfig dottedFiles = { artifacts := [("A.g.rs", dottedArtifact)] } := by
  decide +kernel

theorem written_dottedDisk :
    written dottedConfig none dottedDisk = [⟨"./src/generated/A.g.rs"⟩] := by
  rw [written, discovered_dottedDisk, writtenFrom, outputOf_dottedFiles]
  decide +kernel

theorem generated_dottedDisk :
    (generated "monday" dottedConfig none none dottedDisk).disk = dottedAfter := by
  rw [generated_of_ok discovered_dottedDisk, disk_concluded, outputOf_dottedFiles]
  rfl

theorem isInput_generated_iff_dotted :
    let after := ((run Disk.host "monday" ["generate"]).run dottedDisk).2
    dottedDisk.tree.WellFormed ∧ dottedDisk.tree.HasDirectory dottedDisk.current ∧
      Invocation.ofArguments ["generate"] = .ok { task := .generate none none } ∧
      settingsOn dottedDisk none = .ok dottedConfig ∧
      ⟨"./src/generated/A.g.rs"⟩ ∈ written dottedConfig none dottedDisk ∧
      ∃ place, after.locate ⟨"./src/generated/A.g.rs"⟩ = .ok place ∧
        ∀ files last, (discover Disk.host dottedConfig).run.run after = (.ok files, last) →
          (IsInput after dottedConfig files place ↔
            ∃ search ∈ searches dottedConfig, search.ComesTo after dottedConfig place) := by
  have here : dottedDisk.tree.HasDirectory dottedDisk.current := ⟨_, rfl⟩
  have member : ⟨"./src/generated/A.g.rs"⟩ ∈ written dottedConfig none dottedDisk := by
    simp [written_dottedDisk]
  obtain ⟨place, _, located, _, inputs, _⟩ := isInput_generated_iff wellFormed_dottedDisk here
    read_generate rfl settingsOn_dottedDisk member "monday"
  exact ⟨wellFormed_dottedDisk, here, read_generate, settingsOn_dottedDisk, member, place, located,
    inputs⟩

/-- The search for source files comes to what was generated, by a path without the dot. -/
theorem isInput_generated_dotted :
    let after := ((run Disk.host "monday" ["generate"]).run dottedDisk).2
    settingsOn dottedDisk none = .ok dottedConfig ∧
      ⟨"./src/generated/A.g.rs"⟩ ∈ written dottedConfig none dottedDisk ∧
      after.locate ⟨"./src/generated/A.g.rs"⟩ = .ok ["p", "src", "generated", "A.g.rs"] ∧
      ∃ files, (discover Disk.host dottedConfig).run.run after = (.ok files, after) ∧
        IsInput after dottedConfig files ["p", "src", "generated", "A.g.rs"] := by
  intro after
  have ended : after = dottedAfter := by
    rw [← generated_dottedDisk]
    exact disk_run_generation wellFormed_dottedDisk "monday" read_generate rfl settingsOn_dottedDisk
  have formed : after.tree.WellFormed := by
    rw [ended]
    exact (keeps_storedAll _ _ _).formed wellFormed_dottedDisk
  clear_value after
  subst ended
  have located : dottedAfter.locate? ⟨"./src/generated/A.g.rs"⟩ = some ["p", "src", "generated", "A.g.rs"] ∧
      dottedAfter.locate? ⟨"src/generated/A.g.rs"⟩ = some ["p", "src", "generated", "A.g.rs"] := by
    decide +kernel
  have found : ((discovered dottedAfter dottedConfig).toOption.any fun files =>
      files.sources.any fun file => file.1 = ⟨"src/generated/A.g.rs"⟩) = true := by decide +kernel
  refine ⟨settingsOn_dottedDisk, by simp [written_dottedDisk],
    Disk.locate?_eq_some_iff.mp located.1, ?_⟩
  cases known : discovered dottedAfter dottedConfig with
  | error problem => simp [known, Except.toOption] at found
  | ok files =>
    simp only [known, Except.toOption, Option.any_some, List.any_eq_true, decide_eq_true_eq] at found
    obtain ⟨file, member, spelled⟩ := found
    refine ⟨files, by rw [run_discover dottedConfig formed, known],
      file, List.mem_append_left _ member, ?_⟩
    rw [spelled]
    exact Disk.locate?_eq_some_iff.mp located.2

end

end TermBind.Command

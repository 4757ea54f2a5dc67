import TermBind.Proofs.Command.Generation
import TermBind.Proofs.Workspace.Severity

/-! What the commands tell of a project. Generating and checking report the same, and listing bindings
shows a part of it. -/
namespace TermBind

theorem ReportSummary.counts_ofParts (diagnostics : List Diagnostic) (artifacts : List ArtifactRecord) :
    let summary := ofParts diagnostics artifacts
    summary.errors + summary.warnings + summary.info = summary.total := by
  change countOf .error diagnostics + countOf .warn diagnostics + countOf .info diagnostics =
    diagnostics.length
  induction diagnostics with
  | nil => rfl
  | cons head rest ih =>
    simp only [countOf, List.countP_cons, List.length_cons] at ih ⊢
    cases severity : head.severity <;> simp [← ih] <;> omega

namespace Output

/-- Artifacts are recorded under the names by which they are kept. -/
theorem names_report (overrides : SeverityOverrides) (first : List Diagnostic)
    (outcomes : List (Outcome Product)) (timestamp : String) :
    ((assemble overrides first outcomes).report timestamp).artifacts.map ArtifactRecord.name =
      (assemble overrides first outcomes).artifacts.map Prod.fst := by
  change List.map _ (List.map _ _) = _
  rw [List.map_map]
  refine List.map_congr_left fun ⟨name, artifact⟩ member => ?_
  obtain ⟨location, alone⟩ := (mem_artifacts_assemble overrides first outcomes).mp member
  exact producers_name (alone ▸ List.mem_singleton_self _)

theorem hasErrors_report_iff (output : Output) (timestamp : String) :
    (output.report timestamp).hasErrors = true ↔
      ∃ diagnostic ∈ output.diagnostics, diagnostic.severity = .error := by
  rw [Report.hasErrors, decide_eq_true_iff]
  change 0 < ReportSummary.countOf .error output.diagnostics ↔ _
  rw [ReportSummary.countOf, List.countP_pos_iff]
  simp

end Output

namespace Workspace

/-- A scan that failed is reported as it is. -/
theorem sublist_productBy (generate : Binding → Outcome Artifact) (scan : Outcome ScannedBinding) :
    scan.diagnostics.Sublist (productBy generate scan).diagnostics := by
  cases scan with
  | ok scanned => exact List.nil_sublist _
  | failed diagnostics => exact List.Sublist.refl _

/-- What is wrong with requests stands in the output as when the requests alone are looked at. -/
theorem Contents.sublist_output [Wording] (contents : Contents) :
    (Command.Inventory.ofOutcomes contents.config.severity contents.scanned).diagnostics.Sublist
      contents.output.diagnostics := by
  apply Collection.sortOn_sublist
  refine List.Sublist.map _ ?_
  have failures : (contents.scanned.flatMap Outcome.diagnostics).Sublist
      ((contents.scanned.map (productBy contents.generate)).flatMap Outcome.diagnostics) := by
    rw [List.flatMap_map]
    generalize contents.scanned = scans
    induction scans with
    | nil => exact .slnil
    | cons scan rest ih => exact (sublist_productBy contents.generate scan).append ih
  exact failures.trans ((List.sublist_append_right _ _).trans (List.sublist_append_left _ _))

end Workspace

namespace Command

open File DirectorySink

/-- What checking comes to once files were looked for. -/
def checkedFrom [Wording] (timestamp : String) (config : Config) (reportPath : Path) (disk : Disk) :
    Except DiscoveryProblem ProjectFiles → Conclusion
  | .error problem => ⟨.error (.discovery problem), [], disk⟩
  | .ok files => reported timestamp (some reportPath) (outputOf config files) disk

/-- What listing comes to once files were looked for. -/
def listedFrom [Wording] (isVerbose : Bool) (config : Config) (disk : Disk) :
    Except DiscoveryProblem ProjectFiles → Conclusion
  | .error problem => ⟨.error (.discovery problem), [], disk⟩
  | .ok files =>
    ⟨.ok (inventoryOf config files).hasErrors, (inventoryOf config files).lines isVerbose, disk⟩

section Runs

variable (timestamp : String) (isVerbose : Bool) {disk : Disk}

theorem run_check [Wording] (config : Config) (reportPath : Path) (transcript : Transcript)
    (formed : disk.tree.WellFormed) :
    ComesTo (check Disk.host timestamp isVerbose config reportPath) transcript disk
      (checkedFrom timestamp config reportPath disk (Discovery.discovered disk config)) := by
  obtain ⟨remarks, remarked⟩ := Run.run_remark isVerbose ["Checking schema bindings..."] transcript disk
  obtain ⟨remarks', evaluated⟩ := run_evaluate isVerbose config { transcript with remarks } formed
  rw [ComesTo, check, Run.bind_of_ok remarked]
  cases known : Discovery.discovered disk config with
  | error problem =>
    rw [known] at evaluated
    exact ⟨remarks', by rw [Run.bind_of_error evaluated]; simp [checkedFrom]⟩
  | ok files =>
    rw [known] at evaluated
    rw [Run.bind_of_ok evaluated]
    obtain ⟨remarks'', saved⟩ := run_save isVerbose ((outputOf config files).report timestamp)
      reportPath { transcript with remarks := remarks' } disk
    refine ⟨remarks'', ?_⟩
    dsimp only [checkedFrom, reported]
    cases written : disk.write? reportPath
        ((outputOf config files).report timestamp).toJson.toUTF8 with
    | none =>
      rw [written] at saved
      rw [Run.bind_of_error saved]
      simp
    | some after =>
      rw [written] at saved
      rw [Run.bind_of_ok saved]
      rfl

theorem run_bindings [Wording] (config : Config) (transcript : Transcript)
    (formed : disk.tree.WellFormed) :
    ComesTo (bindings Disk.host isVerbose config) transcript disk
      (listedFrom isVerbose config disk (Discovery.discovered disk config)) := by
  have found := Run.run_require .discovery (Discovery.run_discover config formed) transcript
  refine ⟨transcript.remarks, ?_⟩
  rw [bindings]
  cases known : Discovery.discovered disk config with
  | error problem =>
    rw [known] at found
    rw [Run.bind_of_error found]
    simp [listedFrom]
  | ok files =>
    rw [known] at found
    rw [Run.bind_of_ok found]
    rfl

end Runs

/-- The end of a command that is run on a disk, and the disk that it leaves. -/
def carriedOut (command : Run (StateM Disk) Bool) (disk : Disk) : Ended × Disk :=
  let left := (command.run.run {}).run disk
  (.ofResult left.1, left.2)

theorem carriedOut_of_comesTo {command : Run (StateM Disk) Bool} {disk : Disk} {conclusion : Conclusion}
    (comes : ComesTo command {} disk conclusion) :
    (carriedOut command disk).1.status = conclusion.status ∧
      (carriedOut command disk).1.transcript.output = conclusion.lines ∧
      (carriedOut command disk).2 = conclusion.disk := by
  obtain ⟨remarks, done⟩ := comes
  simp only [carriedOut, done, List.nil_append]
  cases result : conclusion.result <;> simp [Ended.ofResult, Conclusion.status, result]

/-- The status of a command that shows diagnostics. -/
def statusOf (diagnostics : List Diagnostic) : Nat :=
  if ∃ diagnostic ∈ diagnostics, diagnostic.severity = .error then 1 else 0

theorem statusOf_mono {shown diagnostics : List Diagnostic} (sub : shown.Sublist diagnostics)
    (fails : statusOf shown = 1) : statusOf diagnostics = 1 := by
  unfold statusOf at fails ⊢
  split at fails
  · rename_i erroneous
    obtain ⟨diagnostic, member, severe⟩ := erroneous
    exact if_pos ⟨diagnostic, sub.subset member, severe⟩
  · cases fails

theorem status_of_report (output : Output) (timestamp : String) {lines : List String} {disk : Disk} :
    Conclusion.status ⟨.ok (output.report timestamp).hasErrors, lines, disk⟩ =
      statusOf output.diagnostics := by
  simp only [Conclusion.status, statusOf, Output.hasErrors_report_iff]

theorem status_of_inventory (inventory : Inventory) {lines : List String} {disk : Disk} :
    Conclusion.status ⟨.ok inventory.hasErrors, lines, disk⟩ = statusOf inventory.diagnostics := by
  simp [Conclusion.status, statusOf, Inventory.hasErrors, Diagnostic.isError]

/-- A run reports on a project: it prints a report, saves it where it is wanted, and its status tells
whether there are errors. -/
structure Reports (left : Ended × Disk) (report : Report) (path : Option Path) : Prop where
  printed : left.1.transcript.output = reportLines report.diagnostics report.summary
  saved : ∀ wanted ∈ path, left.2.read? wanted = some report.toJson.toUTF8
  status : left.1.status = statusOf report.diagnostics

theorem reports_of_comesTo {command : Run (StateM Disk) Bool} {disk middle : Disk} {output : Output}
    {timestamp : String} {path : Option Path}
    (comes : ComesTo command {} disk (reported timestamp path output middle))
    (saves : ∀ wanted ∈ path, (middle.write? wanted (output.report timestamp).toJson.toUTF8).isSome) :
    Reports (carriedOut command disk) (output.report timestamp) path := by
  obtain ⟨status, printed, left⟩ := carriedOut_of_comesTo comes
  cases path with
  | none =>
    exact ⟨printed, by simp, status.trans (status_of_report output timestamp)⟩
  | some path =>
    obtain ⟨after, saved⟩ := Option.isSome_iff_exists.mp (saves path rfl)
    have known : reported timestamp (some path) output middle =
        ⟨.ok (output.report timestamp).hasErrors,
          reportLines output.diagnostics (output.report timestamp).summary, after⟩ := by
      rw [reported, saved]
    rw [known] at status printed left
    refine ⟨printed, ?_, status.trans (status_of_report output timestamp)⟩
    rintro wanted ⟨⟩
    rw [left]
    exact Disk.read?_of_write saved

/-- A report adds up, has its severities from the settings, and records artifacts by ascending names. -/
structure IsConsistent (overrides : SeverityOverrides) (report : Report) : Prop where
  counts : report.summary.errors + report.summary.warnings + report.summary.info = report.summary.total
  total : report.summary.total = report.diagnostics.length
  severities : ∀ diagnostic ∈ report.diagnostics, diagnostic.IsSet overrides
  ascending : (report.artifacts.map ArtifactRecord.name).Pairwise fun left right =>
    compare left right = .lt

theorem isConsistent_report [Wording] (config : Config) (files : ProjectFiles) (timestamp : String) :
    IsConsistent config.severity ((outputOf config files).report timestamp) := by
  let contents : Workspace.Contents := { config, sources := files.sources, schemas := files.schemas }
  have made : outputOf config files = contents.output := Workspace.Session.pipeline_ofFiles ..
  rw [made]
  refine ⟨ReportSummary.counts_ofParts .., rfl, contents.isSet_output, ?_⟩
  rw [Workspace.Contents.output_eq, Output.names_report]
  exact Output.pairwise_artifacts ..

/-- Generating and checking report the same and end with the same status, and listing bindings shows
some of what they report. -/
theorem commands_agree [Wording] {disk found middle : Disk} (formed : disk.tree.WellFormed)
    {config : Config}
    {files : ProjectFiles} (discovered : (discover Disk.host config).run.run disk = (.ok files, found))
    (outDirectory reportPath : Option Path) (checkPath : Path) (timestamp timestamp' : String)
    (isVerbose isVerbose' isVerbose'' : Bool) {sink : DirectorySink}
    (stores : (((outputOf config files).emit (DirectorySink.sink Disk.host)).run
      { root := outDirectory.getD (config.resolve config.output.directory) }).run disk =
        ((none, sink), middle))
    (saves : ∀ wanted ∈ reportPath,
      (middle.write? wanted ((outputOf config files).report timestamp).toJson.toUTF8).isSome)
    (saves' : (disk.write? checkPath ((outputOf config files).report timestamp').toJson.toUTF8).isSome) :
    let generating := carriedOut
      (generate Disk.host timestamp isVerbose config outDirectory reportPath) disk
    let checking := carriedOut (check Disk.host timestamp' isVerbose' config checkPath) disk
    let listing := carriedOut (bindings Disk.host isVerbose'' config) disk
    let report := (outputOf config files).report timestamp
    let inventory := inventoryOf config files
    Reports generating report reportPath ∧
      Reports checking { report with timestamp := timestamp' } (some checkPath) ∧
      generating.1.status = checking.1.status ∧ IsConsistent config.severity report ∧
      listing.1.transcript.output = inventory.lines isVerbose'' ∧
      listing.1.status = statusOf inventory.diagnostics ∧
      inventory.diagnostics.Sublist report.diagnostics ∧
      (listing.1.status = 1 → checking.1.status = 1) := by
  intro generating checking listing report inventory
  have known : Discovery.discovered disk config = .ok files := by
    rw [Discovery.run_discover config formed] at discovered
    exact (Prod.mk.inj discovered).1
  have generates : Reports generating report reportPath := by
    have comes := run_generate timestamp isVerbose config outDirectory reportPath {} formed
    rw [run_emit, Prod.mk.injEq, Prod.mk.injEq] at stores
    obtain ⟨⟨stored, _⟩, rfl⟩ := stores
    rw [generated_of_ok known, concluded, outputRoot, stored] at comes
    exact reports_of_comesTo comes saves
  have checks : Reports checking ((outputOf config files).report timestamp') (some checkPath) := by
    have comes := run_check timestamp' isVerbose' config checkPath {} formed
    rw [known, checkedFrom] at comes
    exact reports_of_comesTo comes (by rintro wanted ⟨⟩; exact saves')
  have lists := run_bindings isVerbose'' config {} formed
  rw [known, listedFrom] at lists
  obtain ⟨status, printed, _⟩ := carriedOut_of_comesTo lists
  rw [status_of_inventory] at status
  have shown : inventory.diagnostics.Sublist report.diagnostics := by
    have sub := Workspace.Contents.sublist_output
      { config, sources := files.sources, schemas := files.schemas }
    rwa [← Workspace.Session.pipeline_ofFiles] at sub
  refine ⟨generates, checks, generates.status.trans checks.status.symm,
    isConsistent_report config files timestamp, printed, status, shown, fun fails => ?_⟩
  rw [checks.status]
  exact statusOf_mono shown (status.symm.trans fails)

/-- A file with a request that is met and one that is incomplete. -/
def mixedText : String :=
  "#[ttlgen::from_ttl(\"a.ttl\", \"a\", \"http://a/\")]\nstruct A;\n#[ttlgen::from_ttl(\"a.ttl\")]\nstruct B;"

def mixedDisk : Disk where
  tree := .directory
    [("schemas", .directory [("a.ttl", .file "".toUTF8)]),
      ("src", .directory [("lib.rs", .file mixedText.toUTF8)])]

def mixedFiles : ProjectFiles where
  sources := [(⟨"src/lib.rs"⟩, mixedText)]
  schemas := [(⟨"schemas/a.ttl"⟩, "")]

section

open scoped Wording

theorem commands_agree_mixed :
    let output := outputOf {} mixedFiles
    let stored := storedAll ⟨"src/generated"⟩ (sourcesOf output.artifacts) mixedDisk
    mixedDisk.tree.WellFormed ∧
      (discover Disk.host {}).run.run mixedDisk = (.ok mixedFiles, mixedDisk) ∧
      (∃ sink, ((output.emit (DirectorySink.sink Disk.host)).run { root := ⟨"src/generated"⟩ }).run
        mixedDisk = ((none, sink), stored.2)) ∧
      (stored.2.write? ⟨"report.json"⟩ (output.report "monday").toJson.toUTF8).isSome ∧
      (mixedDisk.write? ⟨"report.json"⟩ (output.report "tuesday").toJson.toUTF8).isSome ∧
      (carriedOut (generate Disk.host "monday" false {} none (some ⟨"report.json"⟩)) mixedDisk).1.status =
        (carriedOut (check Disk.host "tuesday" false {} ⟨"report.json"⟩) mixedDisk).1.status := by
  dsimp only
  have formed : mixedDisk.tree.WellFormed := Tree.wellFormed_of_isWellFormed (by decide +kernel)
  have found : (discover Disk.host {}).run.run mixedDisk = (.ok mixedFiles, mixedDisk) := by
    rw [Discovery.run_discover _ formed]
    rfl
  have stores := run_emit ⟨"src/generated"⟩ (outputOf {} mixedFiles) mixedDisk
  have computed :
      let stored := storedAll ⟨"src/generated"⟩ (sourcesOf (outputOf {} mixedFiles).artifacts) mixedDisk
      problemOf ⟨"src/generated"⟩ (sourcesOf (outputOf {} mixedFiles).artifacts) stored.1 = none ∧
        stored.2.locate? ⟨"report.json"⟩ = some ["report.json"] ∧
        (stored.2.tree.at? ["report.json"]).isNone := by decide +kernel
  dsimp only at stores computed
  -- From here on, the stored files count only by what was computed of them.
  generalize storedAll _ _ mixedDisk = stored at stores computed ⊢
  obtain ⟨complete, located, free⟩ := computed
  rw [complete] at stores
  have saves : (stored.2.write? ⟨"report.json"⟩
      ((outputOf {} mixedFiles).report "monday").toJson.toUTF8).isSome := by
    refine Disk.write?_isSome (Disk.locate?_eq_some_iff.mp located) (by decide) ?_
    rintro ⟨entries, here⟩
    simp [here] at free
  have saves' : (mixedDisk.write? ⟨"report.json"⟩
      ((outputOf {} mixedFiles).report "tuesday").toJson.toUTF8).isSome :=
    Disk.write?_isSome (show mixedDisk.locate _ = .ok ["report.json"] from rfl) (by decide)
      (by rintro ⟨entries, ⟨⟩⟩)
  obtain ⟨_, _, same, _⟩ := commands_agree formed found none (some ⟨"report.json"⟩) ⟨"report.json"⟩
    "monday" "tuesday" false false false stores (by rintro wanted ⟨⟩; exact saves) saves'
  exact ⟨formed, found, ⟨_, stores⟩, saves, saves', same⟩

end

end Command
end TermBind

import TermBind.Command
import TermBind.Proofs.Discovery.Files
import TermBind.Proofs.Storage

/-! What generating comes to on a disk: its result, the lines it prints, and the disk it leaves. -/
namespace TermBind.Command

open File DirectorySink

namespace Run

variable {α β : Type} {before after : Disk} {transcript transcript' : Transcript}

theorem bind_of_ok {action : Run (StateM Disk) α} {value : α}
    (done : (action.run.run transcript).run before = ((.ok value, transcript'), after))
    (next : α → Run (StateM Disk) β) :
    ((action >>= next).run.run transcript).run before =
      ((next value).run.run transcript').run after := by
  change (let ended := (action.run.run transcript).run before
    (((ExceptT.bindCont next ended.1.1).run ended.1.2).run ended.2 : Id _)) = _
  rw [done]
  rfl

theorem bind_of_error {action : Run (StateM Disk) α} {failure : Failure}
    (failed : (action.run.run transcript).run before = ((.error failure, transcript'), after))
    (next : α → Run (StateM Disk) β) :
    ((action >>= next).run.run transcript).run before = ((.error failure, transcript'), after) := by
  change (let ended := (action.run.run transcript).run before
    (((ExceptT.bindCont next ended.1.1).run ended.1.2).run ended.2 : Id _)) = _
  rw [failed]
  rfl

theorem run_ofHost {action : StateM Disk α} {value : α} (done : action.run before = (value, after))
    (transcript : Transcript) :
    ((ofHost action).run.run transcript).run before = ((.ok value, transcript), after) := by
  change (let ended := action.run before
    (((Except.ok ended.1, transcript), ended.2) : Id ((Except Failure α × Transcript) × Disk))) = _
  rw [done]

theorem run_require {ε : Type} (failure : ε → Failure) {action : ExceptT ε (StateM Disk) α}
    {result : Except ε α} (done : action.run.run before = (result, after)) (transcript : Transcript) :
    ((require failure action).run.run transcript).run before =
      ((result.mapError failure, transcript), after) := by
  rw [require, bind_of_ok (run_ofHost done transcript)]
  cases result <;> rfl

/-- Remarks are no output. -/
theorem run_remark (isWanted : Bool) (lines : List String) (transcript : Transcript) (disk : Disk) :
    ∃ remarks, (((remark isWanted lines : Run (StateM Disk) Unit)).run.run transcript).run disk =
      ((.ok (), { transcript with remarks }), disk) := by
  cases isWanted with
  | false => exact ⟨transcript.remarks, rfl⟩
  | true => exact ⟨transcript.remarks ++ lines, rfl⟩

end Run

/-- The settings that a file on a disk holds. -/
def settingsIn (disk : Disk) (path : Path) : Except SettingsProblem Config :=
  match (disk.read? path).bind String.fromUTF8? with
  | none => .error (.unreadable path)
  | some text =>
    match Config.ofToml? text with
    | none => .error (.malformed path)
    | some config => .ok { config with projectRoot := path.parent?.getD config.projectRoot }

/-- The settings for a run on a disk. -/
def settingsOn (disk : Disk) : Option Path → Except SettingsProblem Config
  | some path => settingsIn disk path
  | none =>
    if (disk.node? ⟨Config.fileName⟩).isSome then settingsIn disk ⟨Config.fileName⟩
    else .ok { projectRoot := disk.workingDirectory }

theorem run_ofFile (disk : Disk) (path : Path) :
    (Config.ofFile Disk.host path).run.run disk = (settingsIn disk path, disk) := by
  rw [Config.ofFile, run_bind_of_ok (run_lift (Disk.run_readText disk path)), settingsIn]
  cases (disk.read? path).bind String.fromUTF8? with
  | none => rfl
  | some text =>
    dsimp only
    cases Config.ofToml? text <;> rfl

theorem run_settings (isVerbose : Bool) (path : Option Path) (transcript : Transcript) (disk : Disk) :
    ∃ remarks, ((settings Disk.host isVerbose path).run.run transcript).run disk =
      (((settingsOn disk path).mapError .settings, { transcript with remarks }), disk) := by
  cases path with
  | some path =>
    exact ⟨transcript.remarks, Run.run_require .settings (run_ofFile disk path) transcript⟩
  | none =>
    have present : (Disk.host.isPresent ⟨Config.fileName⟩).run disk =
        ((disk.node? ⟨Config.fileName⟩).isSome, disk) := rfl
    rw [settings, Run.bind_of_ok (Run.run_ofHost present transcript), settingsOn]
    cases (disk.node? ⟨Config.fileName⟩).isSome with
    | true =>
      exact ⟨transcript.remarks, Run.run_require .settings (run_ofFile disk _) transcript⟩
    | false =>
      obtain ⟨remarks, remarked⟩ := Run.run_remark isVerbose ["No config file found, using defaults"]
        transcript disk
      refine ⟨remarks, ?_⟩
      simp only [Bool.false_eq_true, if_false]
      rw [Run.bind_of_ok remarked]
      rfl

/-- What a command comes to, remarks left out. -/
structure Conclusion where
  result : Except Failure Bool
  lines : List String
  disk : Disk

/-- A command that was run comes to a conclusion. -/
def ComesTo (command : Run (StateM Disk) Bool) (transcript : Transcript) (disk : Disk)
    (conclusion : Conclusion) : Prop :=
  ∃ remarks, (command.run.run transcript).run disk =
    ((conclusion.result, { output := transcript.output ++ conclusion.lines, remarks }), conclusion.disk)

/-- Save the report if it is wanted, after everything was stored. -/
def reported (timestamp : String) (reportPath : Option Path) (output : Output) (disk : Disk) :
    Conclusion :=
  let lines := reportLines output.diagnostics (output.report timestamp).summary
  match reportPath with
  | none => ⟨.ok (output.report timestamp).hasErrors, lines, disk⟩
  | some path =>
    match disk.write? path (output.report timestamp).toJson.toUTF8 with
    | some saved => ⟨.ok (output.report timestamp).hasErrors, lines, saved⟩
    | none => ⟨.error (.report path), [], disk⟩

/-- Store the artifacts of an output and report on it. -/
def concluded (timestamp : String) (root : Path) (reportPath : Option Path) (output : Output)
    (disk : Disk) : Conclusion :=
  let all := storedAll root (sourcesOf output.artifacts) disk
  match problemOf root (sourcesOf output.artifacts) all.1 with
  | some problem => ⟨.error (.storage problem), output.diagnostics.flatMap diagnosticLines, all.2⟩
  | none => reported timestamp reportPath output all.2

/-- The directory that generating stores artifacts in. -/
def outputRoot (config : Config) (outDirectory : Option Path) : Path :=
  outDirectory.getD (config.resolve config.output.directory)

variable [Wording]

/-- What generating comes to once files were looked for. -/
def generatedFrom (timestamp : String) (config : Config) (outDirectory reportPath : Option Path)
    (disk : Disk) : Except DiscoveryProblem ProjectFiles → Conclusion
  | .error problem => ⟨.error (.discovery problem), [], disk⟩
  | .ok files =>
    concluded timestamp (outputRoot config outDirectory) reportPath (outputOf config files) disk

/-- What generating comes to, by the files that are found. -/
def generated (timestamp : String) (config : Config) (outDirectory reportPath : Option Path)
    (disk : Disk) : Conclusion :=
  generatedFrom timestamp config outDirectory reportPath disk (Discovery.discovered disk config)

theorem generated_of_error {config : Config} {disk : Disk} {problem : DiscoveryProblem}
    (known : Discovery.discovered disk config = .error problem) (timestamp : String)
    (outDirectory reportPath : Option Path) :
    generated timestamp config outDirectory reportPath disk =
      ⟨.error (.discovery problem), [], disk⟩ := by
  rw [generated, known, generatedFrom]

theorem generated_of_ok {config : Config} {disk : Disk} {files : ProjectFiles}
    (known : Discovery.discovered disk config = .ok files) (timestamp : String)
    (outDirectory reportPath : Option Path) :
    generated timestamp config outDirectory reportPath disk =
      concluded timestamp (outputRoot config outDirectory) reportPath (outputOf config files) disk := by
  rw [generated, known, generatedFrom]

/-- What generating comes to, by the settings that are in force. -/
def performed (timestamp : String) (configPath outDirectory reportPath : Option Path) (disk : Disk) :
    Conclusion :=
  match settingsOn disk configPath with
  | .error problem => ⟨.error (.settings problem), [], disk⟩
  | .ok config => generated timestamp config outDirectory reportPath disk

section Generate

variable (timestamp : String) (isVerbose : Bool) {disk : Disk}

omit [Wording] in
theorem run_save (report : Report) (path : Path) (transcript : Transcript) (disk : Disk) :
    ∃ remarks, ((save Disk.host isVerbose report path).run.run transcript).run disk =
      match disk.write? path report.toJson.toUTF8 with
      | some saved => ((.ok (), { transcript with remarks }), saved)
      | none => ((.error (.report path), { transcript with remarks }), disk) := by
  have written := Disk.run_writeText disk path report.toJson
  cases done : disk.write? path report.toJson.toUTF8 with
  | none =>
    rw [done] at written
    exact ⟨transcript.remarks, by rw [save, Run.bind_of_ok (Run.run_ofHost written transcript)]; rfl⟩
  | some saved =>
    rw [done] at written
    obtain ⟨remarks, remarked⟩ := Run.run_remark isVerbose [s!"Report saved to: {path.text}"]
      transcript saved
    exact ⟨remarks, by rw [save, Run.bind_of_ok (Run.run_ofHost written transcript)]; exact remarked⟩

omit [Wording] in
theorem run_store (root : Path) (output : Output) (transcript : Transcript) (disk : Disk) :
    ∃ remarks, ((store Disk.host isVerbose root output).run.run transcript).run disk =
      let all := storedAll root (sourcesOf output.artifacts) disk
      match problemOf root (sourcesOf output.artifacts) all.1 with
      | some problem => ((.error (.storage problem),
          { output := transcript.output ++ output.diagnostics.flatMap diagnosticLines, remarks }), all.2)
      | none => ((.ok (notedAll { root, diagnostics := output.diagnostics }
          (sourcesOf output.artifacts) all.1), { transcript with remarks }), all.2) := by
  have emitted := run_emit root output disk
  have diagnostics := diagnostics_notedAll { root, diagnostics := output.diagnostics }
    (sourcesOf output.artifacts) (storedAll root (sourcesOf output.artifacts) disk).1
  dsimp only at emitted diagnostics ⊢
  rw [store, Run.bind_of_ok (Run.run_ofHost emitted transcript)]
  cases problemOf root (sourcesOf output.artifacts)
      (storedAll root (sourcesOf output.artifacts) disk).1 with
  | some problem =>
    refine ⟨transcript.remarks, ?_⟩
    dsimp only
    rw [diagnostics]
    rfl
  | none =>
    obtain ⟨remarks, remarked⟩ := Run.run_remark isVerbose _ transcript _
    refine ⟨remarks, ?_⟩
    dsimp only
    rw [Run.bind_of_ok remarked]
    rfl

theorem run_evaluate (config : Config) (transcript : Transcript) (formed : disk.tree.WellFormed) :
    ∃ remarks, ((evaluate Disk.host isVerbose config).run.run transcript).run disk =
      ((((Discovery.discovered disk config).mapError .discovery).map (outputOf config),
        { transcript with remarks }), disk) := by
  have found := Run.run_require .discovery (Discovery.run_discover config formed) transcript
  rw [evaluate]
  cases known : Discovery.discovered disk config with
  | error problem =>
    rw [known] at found
    exact ⟨transcript.remarks, by rw [Run.bind_of_error found]; rfl⟩
  | ok files =>
    rw [known] at found
    obtain ⟨remarks, remarked⟩ := Run.run_remark isVerbose _ transcript disk
    exact ⟨remarks, by rw [Run.bind_of_ok found, Run.bind_of_ok remarked]; rfl⟩

omit [Wording] in
/-- Artifacts are stored, then a report is saved and printed. -/
theorem run_conclude (root : Path) (reportPath : Option Path) (output : Output)
    (transcript : Transcript) (disk : Disk) :
    ComesTo (do
      let sink ← store Disk.host isVerbose root output
      let report := output.report timestamp
      if let some path := reportPath then save Disk.host isVerbose report path
      Run.print (reportLines sink.diagnostics report.summary)
      return report.hasErrors) transcript disk (concluded timestamp root reportPath output disk) := by
  obtain ⟨remarks, stored⟩ := run_store isVerbose root output transcript disk
  rw [ComesTo]
  dsimp only [concluded] at stored ⊢
  cases failed : problemOf root (sourcesOf output.artifacts)
      (storedAll root (sourcesOf output.artifacts) disk).1 with
  | some problem =>
    rw [failed] at stored
    exact ⟨remarks, Run.bind_of_error stored _⟩
  | none =>
    rw [failed] at stored
    dsimp only [reported] at stored ⊢
    cases reportPath with
    | none => exact ⟨remarks, by rw [Run.bind_of_ok stored, diagnostics_notedAll]; rfl⟩
    | some path =>
      obtain ⟨remarks', saved⟩ := run_save isVerbose (output.report timestamp) path
        { transcript with remarks } (storedAll root (sourcesOf output.artifacts) disk).2
      refine ⟨remarks', ?_⟩
      rw [Run.bind_of_ok stored]
      dsimp only
      cases written : Disk.write? (storedAll root (sourcesOf output.artifacts) disk).2 path
          (output.report timestamp).toJson.toUTF8 with
      | none =>
        rw [written] at saved
        rw [Run.bind_of_error saved]
        simp
      | some final =>
        rw [written] at saved
        rw [Run.bind_of_ok saved, diagnostics_notedAll]
        rfl

theorem run_generate (config : Config) (outDirectory reportPath : Option Path)
    (transcript : Transcript) (formed : disk.tree.WellFormed) :
    ComesTo (generate Disk.host timestamp isVerbose config outDirectory reportPath) transcript disk
      (generated timestamp config outDirectory reportPath disk) := by
  obtain ⟨remarks, remarked⟩ := Run.run_remark isVerbose
    ["Generating sources (with incremental computation)..."] transcript disk
  obtain ⟨remarks', evaluated⟩ := run_evaluate isVerbose config { transcript with remarks } formed
  rw [ComesTo, generate, Run.bind_of_ok remarked]
  cases known : Discovery.discovered disk config with
  | error problem =>
    rw [known] at evaluated
    refine ⟨remarks', ?_⟩
    rw [Run.bind_of_error evaluated, generated_of_error known]
    simp
  | ok files =>
    rw [known] at evaluated
    rw [Run.bind_of_ok evaluated, generated_of_ok known]
    exact run_conclude timestamp isVerbose (outputRoot config outDirectory) reportPath
      (outputOf config files) { transcript with remarks := remarks' } disk

theorem run_perform (invocation : Invocation) {outDirectory reportPath : Option Path}
    (task : invocation.task = .generate outDirectory reportPath) (transcript : Transcript)
    (formed : disk.tree.WellFormed) :
    ComesTo (perform Disk.host timestamp invocation) transcript disk
      (performed timestamp invocation.config outDirectory reportPath disk) := by
  obtain ⟨remarks, settled⟩ := run_settings invocation.isVerbose invocation.config transcript disk
  rw [ComesTo, perform, performed]
  cases known : settingsOn disk invocation.config with
  | error problem =>
    rw [known] at settled
    exact ⟨remarks, by rw [Run.bind_of_error settled]; simp⟩
  | ok config =>
    rw [known] at settled
    obtain ⟨remarks', remarked⟩ := Run.run_remark invocation.isVerbose
      [s!"Binding annotation: {config.binding.annotationName}"] { transcript with remarks } disk
    obtain ⟨remarks'', generated⟩ := run_generate timestamp invocation.isVerbose config outDirectory
      reportPath { transcript with remarks := remarks' } formed
    refine ⟨remarks'', ?_⟩
    rw [Run.bind_of_ok settled, Run.bind_of_ok remarked, task]
    exact generated

end Generate

/-- The status with which the program ends. -/
def Conclusion.status (conclusion : Conclusion) : Nat :=
  match conclusion.result with
  | .ok hasErrors => if hasErrors then 1 else 0
  | .error _ => 1

/-- A run of the program that generates, by what it comes to. -/
theorem run_generation {disk : Disk} (formed : disk.tree.WellFormed) (timestamp : String)
    {arguments : List String} {invocation : Invocation}
    (read : Invocation.ofArguments arguments = .ok invocation) {outDirectory reportPath : Option Path}
    (task : invocation.task = .generate outDirectory reportPath) :
    ∃ remarks, (Command.run Disk.host timestamp arguments).run disk =
      let conclusion := performed timestamp invocation.config outDirectory reportPath disk
      (⟨conclusion.status, { output := conclusion.lines, remarks }⟩, conclusion.disk) := by
  obtain ⟨remarks, done⟩ := run_perform timestamp invocation task {} formed
  have some : arguments.isEmpty = false := by
    cases arguments with
    | nil => cases read
    | cons => rfl
  rw [Command.run, some, read]
  change ∃ remarks, (let ended := ((perform Disk.host timestamp invocation).run.run {}).run disk
    ((Ended.ofResult ended.1, ended.2) : Id (Ended × Disk))) = _
  rw [done]
  cases result : (performed timestamp invocation.config outDirectory reportPath disk).result with
  | ok hasErrors => exact ⟨remarks, by simp [Ended.ofResult, Conclusion.status, result]⟩
  | error failure =>
    exact ⟨remarks ++ ["Error: " ++ failure.message], by
      simp [Ended.ofResult, Conclusion.status, result]⟩

/-- A run that generates leaves what generating by its settings leaves. -/
theorem disk_run_generation {disk : Disk} (formed : disk.tree.WellFormed) (timestamp : String)
    {arguments : List String} {invocation : Invocation}
    (read : Invocation.ofArguments arguments = .ok invocation) {outDirectory reportPath : Option Path}
    (task : invocation.task = .generate outDirectory reportPath) {config : Config}
    (settled : settingsOn disk invocation.config = .ok config) :
    ((Command.run Disk.host timestamp arguments).run disk).2 =
      (generated timestamp config outDirectory reportPath disk).disk := by
  obtain ⟨remarks, ended⟩ := run_generation formed timestamp read task
  have after := congrArg Prod.snd ended
  rwa [performed, settled] at after

end TermBind.Command

import TermBind.Proofs.Workspace.Soundness

/-! Workspaces that are edited and asked in turns. Whatever was asked before, the answers are those
of a workspace that is opened with the files as they are now. -/
namespace TermBind.Workspace

open Incremental

/-- What can be done with a workspace. A field is the path or the text of a file, a list of files, or
the settings; files are named by number, whether or not they are listed. -/
inductive Action where
  | set (field : Field) (value : field.Value)
  | addSource (path : Path) (text : String)
  | addSchema (path : Path) (text : String)
  | removeSource (index : Nat)
  | removeSchema (index : Nat)
  | reverse
  | ask (query : Query)

/-- The paths that an action gives to schema files. -/
def Action.schemaPaths : Action → List Path
  | .set (.schemaPath _) path => [path]
  | .addSchema path _ => [path]
  | _ => []

namespace Session

variable [Wording] (session : Session)

/-- Whether a field with a value is about files that were made. -/
def isMade : (f : Field) → f.Value → Bool
  | .sourcePath file, _ => file < session.sourceCount
  | .sourceText file, _ => file < session.sourceCount
  | .schemaPath file, _ => file < session.schemaCount
  | .schemaText file, _ => file < session.schemaCount
  | .sources, files => files.all (· < session.sourceCount)
  | .schemas, files => files.all (· < session.schemaCount)
  | .config, _ => true

def isAskable : Query → Bool
  | .scanSource file => file < session.sourceCount
  | .loadSchema file => file < session.schemaCount
  | _ => true

/-- An action about files that were never made is none. -/
def perform : Action → Session
  | .set field value => if session.isMade field value then session.set field value else session
  | .addSource path text => session.addSource path text
  | .addSchema path text => session.addSchema path text
  | .removeSource index => session.removeSource index
  | .removeSchema index => session.removeSchema index
  | .reverse => session.reverse
  | .ask query => if session.isAskable query then (session.fetch query).2 else session

def run (actions : List Action) : Session := actions.foldl perform session

variable {session} {paths : List Path} {alike : Path.SpelledAlike paths}

omit [Wording] in
theorem hasValue_of_isMade {f : Field} {value : f.Value} (made : session.isMade f value = true)
    (known : (Action.set f value).schemaPaths ⊆ paths) :
    (session.extent paths).HasValue f value := by
  cases f with
  | schemaPath file => exact known (List.mem_singleton_self _)
  | sources => simpa [isMade, Extent.HasValue, extent] using made
  | schemas => simpa [isMade, Extent.HasValue, extent] using made
  | _ => trivial

omit [Wording] in
theorem hasQuery_of_isAskable {q : Query} (askable : session.isAskable q = true) :
    (session.extent paths).HasQuery q := by
  cases q with
  | scanSource file => simpa [isAskable, Extent.HasQuery, extent] using askable
  | loadSchema file => simpa [isAskable, Extent.HasQuery, extent] using askable
  | _ => trivial

theorem Justified.sources_made (justified : session.Justified paths) :
    ∀ file ∈ session.value .sources, file < session.sourceCount :=
  justified.permitted .sources trivial

theorem Justified.schemas_made (justified : session.Justified paths) :
    ∀ file ∈ session.value .schemas, file < session.schemaCount :=
  justified.permitted .schemas trivial

omit [Wording] in
/-- A list of made files with the next one that is made. -/
theorem made_append {count : Nat} {files : List FileId} (made : ∀ file ∈ files, file < count) :
    ∀ file ∈ files ++ [count], file < count + 1 := by
  intro file listed
  rcases List.mem_append.mp listed with earlier | last
  · exact Nat.lt_succ_of_lt (made file earlier)
  · rw [List.mem_singleton.mp last]
    exact Nat.lt_succ_self _

theorem Justified.addSource (justified : session.Justified paths) (path : Path) (text : String) :
    (session.addSource path text).Justified paths := by
  apply (justified.newSource path text).set
  exact made_append justified.sources_made

theorem Justified.addSchema (justified : session.Justified paths) {path : Path} (known : path ∈ paths)
    (text : String) : (session.addSchema path text).Justified paths := by
  apply (justified.newSchema path text known).set
  exact made_append justified.schemas_made

theorem Justified.reverse (justified : session.Justified paths) : session.reverse.Justified paths := by
  have turned : (session.set .sources (session.value .sources).reverse).Justified paths :=
    justified.set .sources _ fun file listed => justified.sources_made file (List.mem_reverse.mp listed)
  exact turned.set .schemas _ fun file listed =>
    justified.schemas_made file (List.mem_reverse.mp listed)

/-- Every action keeps a session justified. -/
theorem Justified.perform (justified : session.Justified paths) {action : Action}
    (known : action.schemaPaths ⊆ paths) : (session.perform action).Justified paths := by
  cases action with
  | set field value =>
    simp only [Session.perform]
    split
    · rename_i made
      exact justified.set field value (hasValue_of_isMade made known)
    · exact justified
  | addSource path text => exact justified.addSource path text
  | addSchema path text => exact justified.addSchema (known (List.mem_singleton_self _)) text
  | removeSource index =>
    exact justified.set .sources _ fun file listed =>
      justified.sources_made file (List.mem_of_mem_eraseIdx listed)
  | removeSchema index =>
    exact justified.set .schemas _ fun file listed =>
      justified.schemas_made file (List.mem_of_mem_eraseIdx listed)
  | reverse => exact justified.reverse
  | ask query =>
    simp only [Session.perform]
    split
    · rename_i askable
      exact justified.fetch query (hasQuery_of_isAskable askable)
    · exact justified

theorem Justified.run (justified : session.Justified paths) {actions : List Action}
    (known : actions.flatMap Action.schemaPaths ⊆ paths) : (session.run actions).Justified paths := by
  induction actions generalizing session with
  | nil => exact justified
  | cons action rest ih =>
    rw [List.flatMap_cons, List.append_subset] at known
    exact ih (justified.perform known.1) known.2

theorem Sound.run (sound : session.Sound alike) {actions : List Action}
    (known : actions.flatMap Action.schemaPaths ⊆ paths) : (session.run actions).Sound alike :=
  ⟨sound.justified.run known⟩

/-- A workspace answers as in a plain run: about everything, its listed files, and any binding. -/
structure Plain (session : Session) : Prop where
  pipeline : (session.fetch .pipeline).1 = rules.evaluate session.store.values .pipeline
  scans : ∀ file ∈ session.value .sources,
    (session.fetch (.scanSource file)).1 = rules.evaluate session.store.values (.scanSource file)
  loads : ∀ file ∈ session.value .schemas,
    (session.fetch (.loadSchema file)).1 = rules.evaluate session.store.values (.loadSchema file)
  joins : ∀ binding, (session.fetch (.joinBinding binding)).1 =
    rules.evaluate session.store.values (.joinBinding binding)
  generated : ∀ binding, (session.fetch (.generateBinding binding)).1 =
    rules.evaluate session.store.values (.generateBinding binding)

theorem Sound.plain (sound : session.Sound alike) : session.Plain where
  pipeline := sound.fetch_eq trivial
  scans file listed := sound.fetch_eq (sound.justified.sources_made file listed)
  loads file listed := sound.fetch_eq (sound.justified.schemas_made file listed)
  joins _ := sound.fetch_eq trivial
  generated _ := sound.fetch_eq trivial

theorem Unasked.plain (unasked : session.Unasked) : session.Plain where
  pipeline := unasked.fetch _
  scans _ _ := unasked.fetch _
  loads _ _ := unasked.fetch _
  joins _ := unasked.fetch _
  generated _ := unasked.fetch _

/-- Two workspaces answer alike about everything, about their files in the order in which they are
listed, and about every binding. -/
structure AnswersAlike (left right : Session) : Prop where
  pipeline : (left.fetch .pipeline).1 = (right.fetch .pipeline).1
  scans : (left.value .sources).map (fun file => (left.fetch (.scanSource file)).1) =
    (right.value .sources).map fun file => (right.fetch (.scanSource file)).1
  loads : (left.value .schemas).map (fun file => (left.fetch (.loadSchema file)).1) =
    (right.value .schemas).map fun file => (right.fetch (.loadSchema file)).1
  joins : ∀ binding,
    (left.fetch (.joinBinding binding)).1 = (right.fetch (.joinBinding binding)).1
  generated : ∀ binding,
    (left.fetch (.generateBinding binding)).1 = (right.fetch (.generateBinding binding)).1

theorem Plain.scans_eq (plain : session.Plain) :
    (session.value .sources).map (fun file => (session.fetch (.scanSource file)).1) =
      session.contents.sources.map fun file => scanOf session.contents.config file.1 file.2 := by
  change _ = ((session.value .sources).map session.sourceFile).map _
  rw [List.map_map]
  apply List.map_congr_left
  intro file listed
  rw [plain.scans file listed, evaluate_scanSource]
  rfl

theorem Plain.loads_eq (plain : session.Plain) :
    (session.value .schemas).map (fun file => (session.fetch (.loadSchema file)).1) =
      session.contents.schemas.map fun file => documentOf file.1 file.2 := by
  change _ = ((session.value .schemas).map session.schemaFile).map _
  rw [List.map_map]
  apply List.map_congr_left
  intro file listed
  rw [plain.loads file listed, evaluate_loadSchema]
  rfl

/-- Plain answers depend on what is in a workspace only, not on the numbers of its files. -/
theorem Plain.answersAlike {left right : Session} (plain : left.Plain) (plain' : right.Plain)
    (same : left.contents = right.contents) : left.AnswersAlike right where
  pipeline := by
    rw [plain.pipeline, plain'.pipeline, Contents.evaluate_pipeline_eq,
      Contents.evaluate_pipeline_eq]
    exact congrArg Contents.output same
  scans := by rw [plain.scans_eq, plain'.scans_eq, same]
  loads := by rw [plain.loads_eq, plain'.loads_eq, same]
  joins binding := by
    rw [plain.joins, plain'.joins, Contents.evaluate_joinBinding_eq,
      Contents.evaluate_joinBinding_eq]
    exact congrArg (Contents.join · binding) same
  generated binding := by
    rw [plain.generated, plain'.generated, Contents.evaluate_generateBinding_eq,
      Contents.evaluate_generateBinding_eq]
    exact congrArg (Contents.generate · binding) same

/-- However a workspace was edited and asked, it answers as one that is opened with what is in it
now, provided that no place is written in two ways among all the paths that its schema files had. -/
theorem answersAlike_reopened (config : Config) (sources schemas : List (Path × String))
    (actions : List Action)
    (alike : Path.SpelledAlike
      (schemas.map Prod.fst ++ actions.flatMap Action.schemaPaths)) :
    ((ofFiles config sources schemas).run actions).AnswersAlike
      ((ofFiles config sources schemas).run actions).reopened := by
  have opened : (ofFiles config sources schemas).Sound alike :=
    sound_ofFiles config sources (List.subset_append_left ..)
  have sound := opened.run (List.subset_append_right ..)
  apply sound.plain.answersAlike (unasked_reopened _).plain
  exact (contents_reopened _).symm

end Session

namespace Session

open scoped Wording

/-- Two files that one key cannot tell apart are asked about, told apart, and asked about again. -/
theorem answersAlike_reopened_after_renaming :
    Path.SpelledAlike [⟨"a/x.ttl"⟩, ⟨"b/x.ttl"⟩, ⟨"b/y.ttl"⟩] ∧
    ((ofFiles {} [] [(⟨"a/x.ttl"⟩, ""), (⟨"b/x.ttl"⟩, "")]).run
      [.ask .pipeline, .set (.schemaPath 1) ⟨"b/y.ttl"⟩, .ask .pipeline, .reverse]).AnswersAlike
      ((ofFiles {} [] [(⟨"a/x.ttl"⟩, ""), (⟨"b/x.ttl"⟩, "")]).run
        [.ask .pipeline, .set (.schemaPath 1) ⟨"b/y.ttl"⟩, .ask .pipeline, .reverse]).reopened :=
  have alike : Path.SpelledAlike [⟨"a/x.ttl"⟩, ⟨"b/x.ttl"⟩, ⟨"b/y.ttl"⟩] := by decide +kernel
  ⟨alike, answersAlike_reopened _ _ _ _ alike⟩

end Session
end TermBind.Workspace

import TermBind.Proofs.Incremental.Evaluation
import TermBind.Proofs.Workspace.Contents
import TermBind.Workspace.Session

/-! Opening a workspace of files: nothing is remembered yet, and the files are listed in order. -/
namespace TermBind.Workspace.Session

open Incremental

variable (session : Session)

/-- What is in a workspace now. -/
def contents : Contents := .ofValues session.store.values

/-- The workspace that is opened with what is in another one now. -/
def reopened : Session :=
  ofFiles session.contents.config session.contents.sources session.contents.schemas

@[simp] theorem value_create_self (f : Field) (value : f.Value) :
    (session.create f value).value f = value := by
  simp [create, Session.value, Store.create, Store.place]

theorem value_create_of_ne {f g : Field} (different : g ≠ f) (value : f.Value) :
    (session.create f value).value g = session.value g := by
  simp [create, Session.value, Store.create, Store.place, different]

theorem value_set_of_ne {f g : Field} (different : g ≠ f) (value : f.Value) :
    (session.set f value).value g = session.value g := by
  simp [set, Session.value, Store.set, Store.place, different]

/-- A workspace of which nothing has been asked. -/
structure Unasked : Prop where
  empty : session.store.memos = []
  stamped : ∀ f, session.store.stamps f ≤ session.store.revision

section Unasked

variable {session}

theorem Unasked.create (unasked : session.Unasked) (f : Field) (value : f.Value) :
    (session.create f value).Unasked where
  empty := unasked.empty
  stamped g := by
    simp only [Session.create, Store.create, Store.place]
    split
    · exact Nat.le_refl _
    · exact unasked.stamped g

theorem Unasked.newSource (unasked : session.Unasked) (path : Path) (text : String) :
    (session.newSource path text).Unasked :=
  have made := (unasked.create (.sourcePath session.sourceCount) path).create
    (.sourceText session.sourceCount) text
  ⟨made.empty, made.stamped⟩

theorem Unasked.newSchema (unasked : session.Unasked) (path : Path) (text : String) :
    (session.newSchema path text).Unasked :=
  have made := (unasked.create (.schemaPath session.schemaCount) path).create
    (.schemaText session.schemaCount) text
  ⟨made.empty, made.stamped⟩

theorem unasked_ofFiles (config : Config) (sources schemas : List (Path × String)) :
    (ofFiles config sources schemas).Unasked := by
  have opened : empty.Unasked := ⟨rfl, fun _ => Nat.le_refl 1⟩
  have read : (sources.foldl (fun session file => session.newSource file.1 file.2) empty).Unasked :=
    List.foldlRecOn sources _ opened fun _ unasked file _ => unasked.newSource file.1 file.2
  have read' := List.foldlRecOn schemas
    (fun (session : Session) file => session.newSchema file.1 file.2) read
    fun _ unasked file _ => unasked.newSchema file.1 file.2
  exact ((read'.create _ _).create _ _).create _ _

/-- What is asked first is answered as in a plain run. -/
theorem Unasked.fetch [Wording] (unasked : session.Unasked) (q : Query) :
    (session.fetch q).1 = rules.evaluate session.store.values q :=
  Store.fetch_value_of_empty unasked.empty unasked.stamped q

end Unasked

theorem value_newSource_of_lt {file : FileId} (earlier : file < session.sourceCount) (path : Path)
    (text : String) :
    (session.newSource path text).value (.sourcePath file) = session.value (.sourcePath file) ∧
    (session.newSource path text).value (.sourceText file) = session.value (.sourceText file) := by
  have different : file ≠ session.sourceCount := Nat.ne_of_lt earlier
  constructor
  · exact (value_create_of_ne _ (by simp) _).trans (value_create_of_ne _ (by simp [different]) _)
  · exact (value_create_of_ne _ (by simp [different]) _).trans (value_create_of_ne _ (by simp) _)

theorem value_newSource_self (path : Path) (text : String) :
    (session.newSource path text).value (.sourcePath session.sourceCount) = path ∧
    (session.newSource path text).value (.sourceText session.sourceCount) = text :=
  ⟨(value_create_of_ne _ (by simp) _).trans (value_create_self ..), value_create_self ..⟩

theorem value_newSchema_of_lt {file : FileId} (earlier : file < session.schemaCount) (path : Path)
    (text : String) :
    (session.newSchema path text).value (.schemaPath file) = session.value (.schemaPath file) ∧
    (session.newSchema path text).value (.schemaText file) = session.value (.schemaText file) := by
  have different : file ≠ session.schemaCount := Nat.ne_of_lt earlier
  constructor
  · exact (value_create_of_ne _ (by simp) _).trans (value_create_of_ne _ (by simp [different]) _)
  · exact (value_create_of_ne _ (by simp [different]) _).trans (value_create_of_ne _ (by simp) _)

theorem value_newSchema_self (path : Path) (text : String) :
    (session.newSchema path text).value (.schemaPath session.schemaCount) = path ∧
    (session.newSchema path text).value (.schemaText session.schemaCount) = text :=
  ⟨(value_create_of_ne _ (by simp) _).trans (value_create_self ..), value_create_self ..⟩

def sourceFile (file : FileId) : Path × String :=
  (session.value (.sourcePath file), session.value (.sourceText file))

def schemaFile (file : FileId) : Path × String :=
  (session.value (.schemaPath file), session.value (.schemaText file))

def madeSources : List (Path × String) := (List.range session.sourceCount).map session.sourceFile

def madeSchemas : List (Path × String) := (List.range session.schemaCount).map session.schemaFile

theorem madeSources_newSource (path : Path) (text : String) :
    (session.newSource path text).madeSources = session.madeSources ++ [(path, text)] := by
  change (List.range (session.sourceCount + 1)).map _ = _
  rw [List.range_succ, List.map_append, List.map_singleton, madeSources]
  congr 1
  · apply List.map_congr_left
    intro file earlier
    obtain ⟨paths, texts⟩ := session.value_newSource_of_lt (List.mem_range.mp earlier) path text
    rw [sourceFile, sourceFile, paths, texts]
  · obtain ⟨own, own'⟩ := session.value_newSource_self path text
    rw [sourceFile, own, own']

theorem madeSchemas_newSchema (path : Path) (text : String) :
    (session.newSchema path text).madeSchemas = session.madeSchemas ++ [(path, text)] := by
  change (List.range (session.schemaCount + 1)).map _ = _
  rw [List.range_succ, List.map_append, List.map_singleton, madeSchemas]
  congr 1
  · apply List.map_congr_left
    intro file earlier
    obtain ⟨paths, texts⟩ := session.value_newSchema_of_lt (List.mem_range.mp earlier) path text
    rw [schemaFile, schemaFile, paths, texts]
  · obtain ⟨own, own'⟩ := session.value_newSchema_self path text
    rw [schemaFile, own, own']

theorem sourceFile_create {f : Field} (value : f.Value) {file : FileId}
    (notPath : .sourcePath file ≠ f) (notText : .sourceText file ≠ f) :
    (session.create f value).sourceFile file = session.sourceFile file := by
  rw [sourceFile, sourceFile, value_create_of_ne _ notPath, value_create_of_ne _ notText]

theorem schemaFile_create {f : Field} (value : f.Value) {file : FileId}
    (notPath : .schemaPath file ≠ f) (notText : .schemaText file ≠ f) :
    (session.create f value).schemaFile file = session.schemaFile file := by
  rw [schemaFile, schemaFile, value_create_of_ne _ notPath, value_create_of_ne _ notText]

theorem madeSources_newSchema (path : Path) (text : String) :
    (session.newSchema path text).madeSources = session.madeSources := by
  apply List.map_congr_left
  intro file _
  let made := session.create (.schemaPath session.schemaCount) path
  have named : made.sourceFile file = session.sourceFile file :=
    sourceFile_create _ _ (by simp) (by simp)
  have filled : (made.create (.schemaText session.schemaCount) text).sourceFile file =
      made.sourceFile file := sourceFile_create _ _ (by simp) (by simp)
  exact filled.trans named

theorem made_newSources (files : List (Path × String)) :
    (files.foldl (fun session file => session.newSource file.1 file.2) session).madeSources =
        session.madeSources ++ files ∧
    (files.foldl (fun session file => session.newSource file.1 file.2) session).schemaCount =
      session.schemaCount := by
  induction files generalizing session with
  | nil => simp
  | cons file rest ih =>
    obtain ⟨sources, count⟩ := ih (session.newSource file.1 file.2)
    rw [List.foldl_cons, sources, count, madeSources_newSource]
    exact ⟨by simp, rfl⟩

theorem made_newSchemas (files : List (Path × String)) :
    (files.foldl (fun session file => session.newSchema file.1 file.2) session).madeSchemas =
        session.madeSchemas ++ files ∧
    (files.foldl (fun session file => session.newSchema file.1 file.2) session).madeSources =
      session.madeSources := by
  induction files generalizing session with
  | nil => simp
  | cons file rest ih =>
    obtain ⟨schemas, sources⟩ := ih (session.newSchema file.1 file.2)
    rw [List.foldl_cons, schemas, sources, madeSchemas_newSchema, madeSources_newSchema]
    simp

/-- Lists of files and settings leave the files that were made as they are. -/
theorem made_create {f : Field} (other : f = .sources ∨ f = .schemas ∨ f = .config)
    (value : f.Value) : (session.create f value).madeSources = session.madeSources ∧
      (session.create f value).madeSchemas = session.madeSchemas := by
  rcases other with rfl | rfl | rfl
  all_goals
    constructor
    · exact List.map_congr_left fun file _ => sourceFile_create _ _ (by simp) (by simp)
    · exact List.map_congr_left fun file _ => schemaFile_create _ _ (by simp) (by simp)

section Files

variable (config : Config) (sources schemas : List (Path × String))

theorem sources_ofFiles : (ofFiles config sources schemas).value .sources =
    List.range (ofFiles config sources schemas).sourceCount :=
  (value_create_of_ne _ (by simp) _).trans
    ((value_create_of_ne _ (by simp) _).trans (value_create_self ..))

theorem schemas_ofFiles : (ofFiles config sources schemas).value .schemas =
    List.range (ofFiles config sources schemas).schemaCount :=
  (value_create_of_ne _ (by simp) _).trans (value_create_self ..)

theorem made_ofFiles : (ofFiles config sources schemas).madeSources = sources ∧
    (ofFiles config sources schemas).madeSchemas = schemas := by
  let read := sources.foldl (fun session file => session.newSource file.1 file.2) empty
  obtain ⟨made, count⟩ := empty.made_newSources sources
  obtain ⟨made', kept⟩ := read.made_newSchemas schemas
  have started : read.madeSchemas = [] := by
    rw [madeSchemas, show read.schemaCount = 0 from count]
    rfl
  obtain ⟨first, first'⟩ := made_create _ (Or.inr (Or.inr rfl)) config
  obtain ⟨second, second'⟩ := made_create _ (Or.inr (Or.inl rfl)) _
  obtain ⟨third, third'⟩ := made_create _ (Or.inl rfl) _
  constructor
  · exact first.trans (second.trans (third.trans (kept.trans made)))
  · exact first'.trans (second'.trans (third'.trans (made'.trans (by rw [started]; rfl))))

/-- A workspace is opened with what it was given. -/
theorem contents_ofFiles : (ofFiles config sources schemas).contents = { config, sources, schemas } := by
  obtain ⟨made, made'⟩ := made_ofFiles config sources schemas
  change Contents.mk config
    (((ofFiles config sources schemas).value .sources).map (ofFiles config sources schemas).sourceFile)
    (((ofFiles config sources schemas).value .schemas).map (ofFiles config sources schemas).schemaFile) =
    _
  rw [sources_ofFiles, schemas_ofFiles]
  exact congr (congrArg _ made) made'

/-- What a workspace gives when it was just opened. -/
theorem pipeline_ofFiles [Wording] :
    ((ofFiles config sources schemas).fetch .pipeline).1 =
      Contents.output { config, sources, schemas } := by
  rw [(unasked_ofFiles config sources schemas).fetch, Contents.evaluate_pipeline_eq]
  exact congrArg Contents.output (contents_ofFiles config sources schemas)

end Files

theorem contents_reopened : session.reopened.contents = session.contents :=
  contents_ofFiles ..

theorem unasked_reopened : session.reopened.Unasked := unasked_ofFiles ..

end TermBind.Workspace.Session

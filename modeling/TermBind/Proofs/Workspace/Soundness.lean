import TermBind.Proofs.Workspace.Likeness
import TermBind.Proofs.Workspace.Opening

/-! Sound sessions: whatever is remembered in one is justified by the files that it has made, up to
the spelling of paths, and equal to what a plain run gives if no place is written in two ways. -/
namespace TermBind.Workspace

open Incremental

/-- How many files a session has made, and the paths that its schema files may have. -/
structure Extent where
  sourceCount : Nat
  schemaCount : Nat
  paths : List Path

namespace Extent

variable (extent : Extent)

def HasField : Field → Prop
  | .sourcePath file => file < extent.sourceCount
  | .sourceText file => file < extent.sourceCount
  | .schemaPath file => file < extent.schemaCount
  | .schemaText file => file < extent.schemaCount
  | _ => True

def HasValue : (f : Field) → f.Value → Prop
  | .schemaPath _, path => path ∈ extent.paths
  | .sources, files => ∀ file ∈ files, file < extent.sourceCount
  | .schemas, files => ∀ file ∈ files, file < extent.schemaCount
  | _, _ => True

def HasQuery : Query → Prop
  | .scanSource file => file < extent.sourceCount
  | .loadSchema file => file < extent.schemaCount
  | _ => True

/-- An index shows files that were made and paths that files may have. -/
def HasResult : (q : Query) → q.Result → Prop
  | .schemaIndex, index =>
    (∀ entry ∈ index.documents, entry.2 < extent.schemaCount) ∧ index.shownPaths ⊆ extent.paths
  | _, _ => True

variable {extent} {bound : Nat} {α : Type}

/-- A program names only files that were made, and its result meets a condition. -/
abbrev Within (extent : Extent) (post : α → Prop) (program : Step bound α) : Prop :=
  program.Within extent.HasField extent.HasValue extent.HasQuery extent.HasResult post

theorem indexed {extension : String} {files : List (FileId × Path)}
    (made : ∀ file ∈ files, file.1 < extent.schemaCount ∧ file.2 ∈ extent.paths) :
    extent.HasResult .schemaIndex (.ofFiles extension files) := by
  constructor
  · intro entry listed
    rw [SchemaIndex.documents_ofFiles] at listed
    obtain ⟨key, _, found⟩ := List.mem_filterMap.mp listed
    obtain ⟨file, sole, rfl⟩ := Option.map_eq_some_iff.mp found
    obtain ⟨path, held⟩ := SchemaIndex.holders_of_sole? sole
    have member : (file, path) ∈ SchemaIndex.holders extension files key := by simp [held]
    exact (made _ (List.mem_filter.mp member).1).1
  · intro path shown
    obtain ⟨file, listed, rfl⟩ :=
      List.mem_map.mp (SchemaIndex.shownPaths_ofFiles extension files shown)
    exact (made file listed).2

theorem within_indexProgram : extent.Within (extent.HasResult .schemaIndex) indexProgram := by
  refine ⟨trivial, fun config _ => ⟨trivial, fun files known => ?_⟩⟩
  have read : ∀ file ∈ files, extent.Within
      (fun found : FileId × Path => found.1 < extent.schemaCount ∧ found.2 ∈ extent.paths)
      (do return (file, ← field (.schemaPath file)) : Step 0 (FileId × Path)) :=
    fun file listed => ⟨known file listed, fun path permitted => ⟨known file listed, permitted⟩⟩
  exact (Program.Within.mapM read).bind fun found made => indexed made

theorem within_joinProgram (binding : Binding) :
    extent.Within (fun _ => True) (joinProgram binding) := by
  refine ⟨trivial, ?_⟩
  rintro index ⟨made, _⟩
  simp only [Program.andThen]
  cases found : index.find binding.documentKey with
  | error diagnostic => trivial
  | ok file => exact ⟨made _ (SchemaIndex.mem_documents_of_find found), fun _ _ => trivial⟩

theorem within_productProgram (outcome : Outcome ScannedBinding) :
    extent.Within (fun _ => True) (productProgram outcome) := by
  cases outcome with
  | ok scanned => exact ⟨trivial, fun _ _ => trivial⟩
  | failed diagnostics => trivial

theorem within_sourceProgram {file : FileId} (made : file < extent.sourceCount) :
    extent.Within (fun _ => True) (sourceProgram file) := by
  refine ⟨made, fun outcomes _ => ?_⟩
  exact (Program.Within.mapM fun outcome _ => within_productProgram outcome).imp fun _ _ => trivial

theorem within_loads {index : SchemaIndex}
    (made : ∀ entry ∈ index.documents, entry.2 < extent.schemaCount) :
    extent.Within (fun _ => True)
      (index.documents.mapM fun entry => (result (.loadSchema entry.2) : Step 3 (Outcome Document))) := by
  apply Program.Within.imp (Program.Within.mapM _) fun _ _ => trivial
  · exact fun _ => True
  · exact fun entry listed => ⟨made entry listed, fun _ _ => trivial⟩

theorem within_pipelineProgram : extent.Within (fun _ => True) pipelineProgram := by
  refine ⟨trivial, ?_⟩
  rintro index ⟨made, _⟩
  apply (within_loads made).bind
  intro documents _
  refine ⟨trivial, ?_⟩
  intro files known
  have scanned : ∀ file ∈ files, extent.Within (fun _ => True) (sourceProgram file) :=
    fun file listed => within_sourceProgram (known file listed)
  apply (Program.Within.mapM scanned).bind
  intro products _
  exact ⟨trivial, fun _ _ => trivial⟩

end Extent

variable [Wording]

/-- What a session of an extent can be about. -/
def Extent.domain (extent : Extent) : Domain rules where
  field := extent.HasField
  value := extent.HasValue
  query := extent.HasQuery
  result := extent.HasResult
  alike := Query.Alike extent.paths
  similar := Query.similar
  equivalence := Query.equivalence_alike
  closed := by
    rintro (file | _ | file | binding | binding | _) own
    · exact ⟨own, fun _ _ => ⟨own, fun _ _ => trivial⟩⟩
    · exact within_indexProgram
    · exact ⟨trivial, fun _ _ => ⟨own, fun _ _ => ⟨own, fun _ _ => trivial⟩⟩⟩
    · exact within_joinProgram binding
    · exact ⟨trivial, fun _ _ => ⟨trivial, fun _ _ => trivial⟩⟩
    · exact within_pipelineProgram
  faithful := by
    rintro (file | _ | file | binding | binding | _) left right permitted permitted' same
    · exact eq_of_beq same
    · exact ⟨same, fun alike => SchemaIndex.eq_of_same alike permitted.2 permitted'.2 same⟩
    · exact eq_of_beq same
    · exact eq_of_beq same
    · exact eq_of_beq same
    · exact fun _ => eq_of_beq same

/-- A session of one extent can come to be of another. -/
structure Extent.Below (smaller larger : Extent) : Prop where
  sources : smaller.sourceCount ≤ larger.sourceCount
  schemas : smaller.schemaCount ≤ larger.schemaCount
  paths : smaller.paths ⊆ larger.paths

omit [Wording] in
theorem Extent.Below.hasValue {smaller larger : Extent} (below : smaller.Below larger) (f : Field)
    (value : f.Value) (permitted : smaller.HasValue f value) : larger.HasValue f value := by
  cases f with
  | schemaPath file => exact below.paths permitted
  | sources => exact fun file listed => Nat.lt_of_lt_of_le (permitted file listed) below.sources
  | schemas => exact fun file listed => Nat.lt_of_lt_of_le (permitted file listed) below.schemas
  | _ => trivial

theorem Extent.Below.extends {smaller larger : Extent} (below : smaller.Below larger) :
    larger.domain.Extends smaller.domain where
  field f named := by
    cases f with
    | sourcePath | sourceText => exact Nat.lt_of_lt_of_le named below.sources
    | schemaPath | schemaText => exact Nat.lt_of_lt_of_le named below.schemas
    | _ => trivial
  query q named := by
    cases q with
    | scanSource => exact Nat.lt_of_lt_of_le named below.sources
    | loadSchema => exact Nat.lt_of_lt_of_le named below.schemas
    | _ => trivial
  result q value permitted := by
    cases q with
    | schemaIndex =>
      obtain ⟨made, shown⟩ := permitted
      exact ⟨fun entry listed => Nat.lt_of_lt_of_le (made entry listed) below.schemas,
        fun path member => below.paths (shown member)⟩
    | _ => trivial
  alike q left right same := by
    cases q with
    | schemaIndex => exact ⟨same.1, fun alike => same.2 (alike.of_subset below.paths)⟩
    | pipeline => exact fun alike => same (alike.of_subset below.paths)
    | _ => exact same

namespace Session

/-- The files that a session has made, if its schema paths are among these. -/
def extent (session : Session) (paths : List Path) : Extent :=
  { sourceCount := session.sourceCount, schemaCount := session.schemaCount, paths }

/-- What a session remembers is justified, and its files are listed and written as they may be. -/
def Justified (paths : List Path) (session : Session) : Prop :=
  session.store.Consistent (session.extent paths).domain

variable {paths : List Path} {session : Session}

theorem Justified.set (justified : session.Justified paths) (f : Field) (value : f.Value)
    (permitted : (session.extent paths).HasValue f value) : (session.set f value).Justified paths :=
  Store.Consistent.set justified f value permitted

/-- A file that is new was never read, so it may be made within a revision. -/
theorem Justified.newSource (justified : session.Justified paths) (path : Path) (text : String) :
    (session.newSource path text).Justified paths := by
  have made := (Store.Consistent.create justified (.sourcePath session.sourceCount) path
    (Nat.lt_irrefl _)).create (.sourceText session.sourceCount) text (Nat.lt_irrefl _)
  have below : (session.extent paths).Below ((session.newSource path text).extent paths) :=
    ⟨Nat.le_succ _, Nat.le_refl _, List.Subset.refl _⟩
  apply made.extend below.extends
  intro f named
  cases f with
  | schemaPath file => exact made.permitted (.schemaPath file) named
  | sources => exact below.hasValue .sources _ (made.permitted .sources trivial)
  | schemas => exact below.hasValue .schemas _ (made.permitted .schemas trivial)
  | _ => trivial

theorem Justified.newSchema (justified : session.Justified paths) (path : Path) (text : String)
    (known : path ∈ paths) : (session.newSchema path text).Justified paths := by
  have made := (Store.Consistent.create justified (.schemaPath session.schemaCount) path
    (Nat.lt_irrefl _)).create (.schemaText session.schemaCount) text (Nat.lt_irrefl _)
  have below : (session.extent paths).Below ((session.newSchema path text).extent paths) :=
    ⟨Nat.le_refl _, Nat.le_succ _, List.Subset.refl _⟩
  apply made.extend below.extends
  intro f named
  -- Only the path of the new file was not there before.
  cases f with
  | schemaPath file =>
    rcases Nat.lt_succ_iff_lt_or_eq.mp named with earlier | rfl
    · exact made.permitted (.schemaPath file) earlier
    · change (session.newSchema path text).value (.schemaPath session.schemaCount) ∈ paths
      rw [(session.value_newSchema_self path text).1]
      exact known
  | sources => exact below.hasValue .sources _ (made.permitted .sources trivial)
  | schemas => exact below.hasValue .schemas _ (made.permitted .schemas trivial)
  | _ => trivial

theorem Justified.fetch (justified : session.Justified paths) (q : Query)
    (named : (session.extent paths).HasQuery q) : (session.fetch q).2.Justified paths := by
  have named' : (session.extent paths).domain.query q := named
  exact (Rules.fetch_fetches q named' session.store justified).consistent

/-- A justified session answers as in a plain run, up to the spelling of paths. -/
theorem Justified.fetch_alike (justified : session.Justified paths) {q : Query}
    (named : (session.extent paths).HasQuery q) :
    q.Alike paths (session.fetch q).1 (rules.evaluate session.store.values q) :=
  Store.Consistent.fetch_alike justified named

/-- A workspace of which nothing has been asked is justified if its files are listed and written as
they may be. -/
theorem Unasked.justified (unasked : session.Unasked)
    (permitted : ∀ f, (session.extent paths).HasField f →
      (session.extent paths).HasValue f (session.value f)) : session.Justified paths :=
  .of_empty _ unasked.empty unasked.stamped permitted

theorem justified_ofFiles (config : Config) (sources : List (Path × String))
    {schemas : List (Path × String)} (known : schemas.map Prod.fst ⊆ paths) :
    (ofFiles config sources schemas).Justified paths := by
  apply (unasked_ofFiles config sources schemas).justified
  intro f named
  cases f with
  | schemaPath file =>
    have made : (ofFiles config sources schemas).schemaFile file ∈
        (ofFiles config sources schemas).madeSchemas :=
      List.mem_map_of_mem (List.mem_range.mpr named)
    rw [(made_ofFiles config sources schemas).2] at made
    exact known (List.mem_map_of_mem made)
  | sources =>
    intro file listed
    rw [sources_ofFiles] at listed
    exact List.mem_range.mp listed
  | schemas =>
    intro file listed
    rw [schemas_ofFiles] at listed
    exact List.mem_range.mp listed
  | _ => trivial

/-- A session that is justified by files among whose paths no place is written in two ways. -/
structure Sound {paths : List Path} (_ : Path.SpelledAlike paths) (session : Session) : Prop where
  justified : session.Justified paths

variable {alike : Path.SpelledAlike paths}

/-- A sound session answers as in a plain run. -/
theorem Sound.fetch_eq (sound : session.Sound alike) {q : Query}
    (named : (session.extent paths).HasQuery q) :
    (session.fetch q).1 = rules.evaluate session.store.values q :=
  (sound.justified.fetch_alike named).eq alike

theorem sound_ofFiles (config : Config) (sources : List (Path × String))
    {schemas : List (Path × String)} (known : schemas.map Prod.fst ⊆ paths) :
    (ofFiles config sources schemas).Sound alike :=
  ⟨justified_ofFiles config sources known⟩

end Session
end TermBind.Workspace

import TermBind.Proofs.Incremental.Edit
import TermBind.Proofs.Workspace.Accounting
import TermBind.Proofs.Workspace.Demand

/-! A workspace that was evaluated, edited in one field, and evaluated again. What is run then is
told by what the inputs of each query are. -/
namespace TermBind.Workspace

open Incremental

variable [Wording]

namespace Session

variable (session : Session)

/-- What is run when a query is asked now, the latest first. -/
def runs (q : Query) : List Query :=
  (fetch q { session with store := session.store.forgetExecuted }).2.store.executed

/-- The bindings of all declarations. -/
def bindings : List Binding := session.scans.filterMap bindingOf?

/-- A file is the only one with its key. -/
def IsSole (file : FileId) : Prop := ∃ key, session.providers key = [file]

/-- Two workspaces answer a query in different ways. -/
def Differs (before after : Session) (q : Query) : Prop :=
  (before.fetch q).1 ≠ (after.fetch q).1

variable {session} {paths : List Path}

theorem providers_eq_singleton {key : String} {file : FileId} :
    session.providers key = [file] ↔
      (rules.evaluate session.store.values .schemaIndex).find key = .ok file := by
  have held : SchemaIndex.holders (session.value .config).schema.extension
      (schemaPaths session.store.values) key =
      (session.providers key).map fun file => (file, session.value (.schemaPath file)) := by
    rw [SchemaIndex.holders, schemaPaths, List.filter_map]
    rfl
  rw [evaluate_schemaIndex, SchemaIndex.find_eq_ok_iff, SchemaIndex.sole?_eq_some]
  constructor
  · intro alone
    rw [alone] at held
    exact ⟨_, held⟩
  · rintro ⟨path, sole⟩
    obtain ⟨found, alone, same⟩ := List.map_eq_singleton_iff.mp (held.symm.trans sole)
    cases same
    exact alone

theorem isSole_iff {file : FileId} :
    session.IsSole file ↔ IsNeeded session.store.values (.loadSchema file) := by
  apply exists_congr
  intro key
  rw [providers_eq_singleton, evaluate_schemaIndex, SchemaIndex.find_eq_ok_iff,
    SchemaIndex.mem_documents_ofFiles]

omit [Wording] in
theorem IsSole.listed {file : FileId} (sole : session.IsSole file) :
    file ∈ session.value .schemas := by
  obtain ⟨key, alone⟩ := sole
  have member : file ∈ session.providers key := by simp [alone]
  exact (List.mem_filter.mp member).1

theorem Justified.fetch_load (justified : session.Justified paths) {file : FileId}
    (listed : file ∈ session.value .schemas) :
    (session.fetch (.loadSchema file)).1 = rules.evaluate session.store.values (.loadSchema file) :=
  justified.fetch_alike (q := .loadSchema file) (justified.schemas_made file listed)

theorem Justified.fetch_scan (justified : session.Justified paths) {file : FileId}
    (listed : file ∈ session.value .sources) :
    (session.fetch (.scanSource file)).1 = rules.evaluate session.store.values (.scanSource file) :=
  justified.fetch_alike (q := .scanSource file) (justified.sources_made file listed)

theorem Justified.fetch_join (justified : session.Justified paths) (binding : Binding) :
    (session.fetch (.joinBinding binding)).1 =
      rules.evaluate session.store.values (.joinBinding binding) :=
  justified.fetch_alike (q := .joinBinding binding) trivial

theorem Justified.bindings_eq (justified : session.Justified paths) :
    session.bindings = bindingsOf session.store.values := by
  rw [bindings, scans, List.filterMap_flatMap]
  exact List.flatMap_congr fun file listed => by rw [justified.fetch_scan listed]

section Differs

variable {before after : Session} (justified : before.Justified paths)
  (justified' : after.Justified paths)

include justified justified'

theorem Justified.differs_load {file : FileId} (listed : file ∈ before.value .schemas)
    (listed' : file ∈ after.value .schemas) :
    before.Differs after (.loadSchema file) ↔ rules.evaluate before.store.values (.loadSchema file) ≠
      rules.evaluate after.store.values (.loadSchema file) := by
  rw [Differs, justified.fetch_load listed, justified'.fetch_load listed']

theorem Justified.differs_scan {file : FileId} (listed : file ∈ before.value .sources)
    (listed' : file ∈ after.value .sources) :
    before.Differs after (.scanSource file) ↔ rules.evaluate before.store.values (.scanSource file) ≠
      rules.evaluate after.store.values (.scanSource file) := by
  rw [Differs, justified.fetch_scan listed, justified'.fetch_scan listed']

theorem Justified.differs_join (binding : Binding) :
    before.Differs after (.joinBinding binding) ↔
      rules.evaluate before.store.values (.joinBinding binding) ≠
        rules.evaluate after.store.values (.joinBinding binding) := by
  rw [Differs, justified.fetch_join, justified'.fetch_join]

end Differs
end Session

/-- A field that holds the text of a file. -/
def Field.IsText : Field → Prop
  | .sourceText _ => True
  | .schemaText _ => True
  | _ => False

omit [Wording] in
theorem values_edited_of_not_text {f g : Field} (text : f.IsText) (other : ¬ g.IsText)
    (before : Store signature) (value : f.Value) :
    (before.edited f value).values g = before.values g := by
  refine Store.values_edited_of_ne before value ?_
  rintro rfl
  exact other text

/-- The index is made of paths, not of texts. -/
theorem evaluate_schemaIndex_edited {f : Field} (text : f.IsText) (before : Store signature)
    (value : f.Value) :
    rules.evaluate (before.edited f value).values .schemaIndex =
      rules.evaluate before.values .schemaIndex := by
  have kept : ∀ g : Field, ¬ g.IsText → _ :=
    fun g other => values_edited_of_not_text text other before value
  have paths : ∀ file, (before.edited f value).values (.schemaPath file) =
      before.values (.schemaPath file) := fun file => kept (.schemaPath file) id
  rw [evaluate_schemaIndex, evaluate_schemaIndex, schemaPaths, schemaPaths, kept .config id,
    kept .schemas id]
  simp only [paths]

/-- A workspace of an extent was evaluated, a field was set, and it was evaluated again. -/
abbrev Reevaluated (extent : Extent) (f : Field) (value : f.Value)
    (before after : Store signature) : Prop :=
  Edit extent.domain .pipeline f value before after

namespace Reevaluated

variable {extent : Extent} {f : Field} {value : f.Value} {before after : Store signature}
  (edit : Reevaluated extent f value before after) {q : Query}

include edit

theorem needed_of_ran (ran : q ∈ after.executed) : IsNeeded (before.edited f value).values q :=
  needs_pipeline.mp (edit.progress.reran q ran).1

theorem ran_of_changed (needed : IsNeeded before.values q)
    (changed : after.ChangedSince before.revision (.query q)) : q ∈ after.executed :=
  Edit.ran_of_changed edit (needs_pipeline.mpr needed) changed

section Needed

variable (needed : IsNeeded before.values q)
  (needed' : IsNeeded (before.edited f value).values q)

include needed needed'

theorem ran_iff :
    q ∈ after.executed ↔
      ∃ input ∈ readBy before.values q, after.ChangedSince before.revision input :=
  Edit.ran_iff edit (needs_pipeline.mpr needed) (needs_pipeline.mpr needed')

/-- All results but the index and the whole output are compared as they are. -/
theorem changed_iff (index : q ≠ .schemaIndex) (output : q ≠ .pipeline) :
    after.ChangedSince before.revision (.query q) ↔
      rules.evaluate before.values q ≠ rules.evaluate (before.edited f value).values q := by
  apply Edit.query_changed edit (needs_pipeline.mpr needed) (needs_pipeline.mpr needed')
  · cases q with
    | schemaIndex => exact absurd rfl index
    | pipeline => exact absurd rfl output
    | _ => exact fun _ _ same => same
  · cases q with
    | schemaIndex => exact absurd rfl index
    | pipeline => exact absurd rfl output
    | _ => exact fun result => beq_self_eq_true result

end Needed

section Text

variable (text : f.IsText)

include text

theorem unchanged_of_not_text {g : Field} (other : ¬ g.IsText) :
    ¬ after.ChangedSince before.revision (.field g) := by
  intro changed
  rw [edit.field_changed.mp changed] at other
  exact other text

theorem index_not_ran : .schemaIndex ∉ after.executed := by
  rw [edit.ran_iff (q := .schemaIndex) trivial trivial, readBy_schemaIndex]
  rintro ⟨input, read, changed⟩
  simp only [List.mem_cons, List.mem_map] at read
  rcases read with rfl | rfl | ⟨other, _, rfl⟩
  all_goals exact edit.unchanged_of_not_text text id changed

end Text
end Reevaluated

/-- What was just evaluated is current, so an edit and an evaluation of it can follow. -/
theorem Session.Justified.reevaluated {paths : List Path} {session : Session}
    (justified : session.Justified paths) (f : Field) (value : f.Value)
    (permitted : (session.extent paths).HasValue f value) :
    ∃ after, Reevaluated (session.extent paths) f value (session.fetch .pipeline).2.store after ∧
      (((session.fetch .pipeline).2.set f value).runs .pipeline) = after.executed := by
  have own : (session.extent paths).domain.query .pipeline := trivial
  have fetched := Rules.fetch_fetches Query.pipeline own session.store justified
  obtain ⟨memo, found, now, _⟩ := fetched.remembered
  exact ⟨_, Edit.of_fetch fetched.consistent ⟨memo, found, now⟩ own permitted, rfl⟩

end TermBind.Workspace

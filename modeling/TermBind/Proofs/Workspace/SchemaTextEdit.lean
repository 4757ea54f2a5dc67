import TermBind.Proofs.Workspace.Reevaluation

/-! Setting the text of a schema file. Only what depends on its document is run again, and the change
is followed no further than results differ. -/
namespace TermBind.Workspace

open Incremental

variable [Wording]

section Values

variable (before : Store signature) (file : FileId) (text : String)

theorem evaluate_scanSource_edited_schemaText (other : FileId) :
    rules.evaluate (before.edited (.schemaText file) text).values (.scanSource other) =
      rules.evaluate before.values (.scanSource other) := by
  simp [evaluate_scanSource, Store.values_edited_of_ne]

/-- What is needed is not up to the text of a document. -/
theorem isNeeded_edited_schemaText {q : Query} :
    IsNeeded (before.edited (.schemaText file) text).values q ↔ IsNeeded before.values q := by
  have index := evaluate_schemaIndex_edited (f := .schemaText file) trivial before text
  cases q <;> simp [IsNeeded, bindingsOf, index, evaluate_scanSource_edited_schemaText,
    Store.values_edited_of_ne]

end Values

/-- Two texts that cannot be read give one outcome if the same is said of them. -/
theorem documentOf_eq_iff_of_unreadable {text text' : String}
    (unreadable : Turtle.statements? text = none) (unreadable' : Turtle.statements? text' = none)
    (path : Path) :
    documentOf path text = documentOf path text' ↔
      Wording.ofDocument text = Wording.ofDocument text' := by
  rw [documentOf_of_unreadable unreadable, documentOf_of_unreadable unreadable']
  constructor
  · intro same
    have first := Option.some.inj (congrArg Outcome.first? same)
    have said : [_, Wording.ofDocument text] = [_, Wording.ofDocument text'] :=
      congrArg Diagnostic.arguments first
    simpa using said
  · intro said
    rw [said]

namespace Reevaluated

variable {extent : Extent} {file : FileId} {text : String} {before after : Store signature}
  (edit : Reevaluated extent (.schemaText file) text before after)

include edit

theorem needed_of_ran_schemaText {q : Query} (ran : q ∈ after.executed) :
    IsNeeded before.values q :=
  (isNeeded_edited_schemaText ..).mp (edit.needed_of_ran ran)

theorem ran_iff_schemaText {q : Query} :
    q ∈ after.executed ↔ IsNeeded before.values q ∧
      ∃ input ∈ readBy before.values q, after.ChangedSince before.revision input := by
  constructor
  · intro ran
    have needed := edit.needed_of_ran_schemaText ran
    exact ⟨needed, (edit.ran_iff needed ((isNeeded_edited_schemaText ..).mpr needed)).mp ran⟩
  · rintro ⟨needed, changed⟩
    exact (edit.ran_iff needed ((isNeeded_edited_schemaText ..).mpr needed)).mpr changed

theorem scan_not_ran_schemaText (other : FileId) : .scanSource other ∉ after.executed := by
  rw [edit.ran_iff_schemaText, readBy_scanSource]
  rintro ⟨_, input, read, changed⟩
  simp only [List.mem_cons, List.not_mem_nil, or_false] at read
  rcases read with rfl | rfl | rfl
  all_goals cases edit.field_changed.mp changed

theorem load_ran_schemaText {other : FileId} :
    .loadSchema other ∈ after.executed ↔
      other = file ∧ IsNeeded before.values (.loadSchema file) := by
  rw [edit.ran_iff_schemaText, readBy_loadSchema]
  simp only [List.mem_cons, List.not_mem_nil, or_false, exists_eq_or_imp, exists_eq_left]
  constructor
  · rintro ⟨needed, changed | changed⟩
    · cases edit.field_changed.mp changed
    · cases edit.field_changed.mp changed
      exact ⟨rfl, needed⟩
  · rintro ⟨rfl, needed⟩
    exact ⟨needed, Or.inr (edit.field_changed.mpr rfl)⟩

theorem load_changed_schemaText (needed : IsNeeded before.values (.loadSchema file)) :
    after.ChangedSince before.revision (.query (.loadSchema file)) ↔
      rules.evaluate before.values (.loadSchema file) ≠
        rules.evaluate (before.edited (.schemaText file) text).values (.loadSchema file) :=
  edit.changed_iff needed ((isNeeded_edited_schemaText ..).mpr needed) (by simp) (by simp)

/-- A binding is joined anew if its document is another one. -/
theorem join_ran_schemaText {binding : Binding} :
    .joinBinding binding ∈ after.executed ↔ binding ∈ bindingsOf before.values ∧
      (rules.evaluate before.values .schemaIndex).find binding.documentKey = .ok file ∧
      rules.evaluate before.values (.loadSchema file) ≠
        rules.evaluate (before.edited (.schemaText file) text).values (.loadSchema file) := by
  rw [edit.ran_iff_schemaText]
  apply and_congr_right
  intro _
  constructor
  · rintro ⟨input, read, changed⟩
    rcases (mem_readBy_joinBinding _).mp read with rfl | ⟨other, found, rfl⟩
    · exact absurd (edit.ran_of_changed (q := .schemaIndex) trivial changed) (edit.index_not_ran trivial)
    · have needed : IsNeeded before.values (.loadSchema other) :=
        ⟨_, SchemaIndex.mem_documents_of_find found⟩
      obtain ⟨rfl, _⟩ := edit.load_ran_schemaText.mp (edit.ran_of_changed needed changed)
      exact ⟨found, (edit.load_changed_schemaText needed).mp changed⟩
  · rintro ⟨found, differs⟩
    have needed : IsNeeded before.values (.loadSchema file) :=
      ⟨_, SchemaIndex.mem_documents_of_find found⟩
    exact ⟨_, (mem_readBy_joinBinding _).mpr (Or.inr ⟨file, found, rfl⟩),
      (edit.load_changed_schemaText needed).mpr differs⟩

theorem generate_ran_schemaText {binding : Binding} :
    .generateBinding binding ∈ after.executed ↔ .joinBinding binding ∈ after.executed ∧
      rules.evaluate before.values (.joinBinding binding) ≠
        rules.evaluate (before.edited (.schemaText file) text).values (.joinBinding binding) := by
  rw [edit.ran_iff_schemaText, readBy_generateBinding]
  simp only [List.mem_cons, List.not_mem_nil, or_false, exists_eq_or_imp, exists_eq_left]
  have joined : ∀ needed : IsNeeded before.values (.joinBinding binding), _ := fun needed =>
    edit.changed_iff needed ((isNeeded_edited_schemaText ..).mpr needed) (by simp) (by simp)
  constructor
  · rintro ⟨needed, changed | changed⟩
    · cases edit.field_changed.mp changed
    · exact ⟨edit.ran_of_changed (q := .joinBinding binding) needed changed,
        (joined needed).mp changed⟩
  · rintro ⟨ran, differs⟩
    have needed : IsNeeded before.values (.joinBinding binding) := edit.needed_of_ran_schemaText ran
    exact ⟨needed, Or.inr ((joined needed).mpr differs)⟩

/-- A change that came as far as an artifact came from the document. -/
theorem load_differs_of_generate_ran {binding : Binding}
    (ran : .generateBinding binding ∈ after.executed) :
    IsNeeded before.values (.loadSchema file) ∧
      rules.evaluate before.values (.loadSchema file) ≠
        rules.evaluate (before.edited (.schemaText file) text).values (.loadSchema file) := by
  obtain ⟨joined, _⟩ := edit.generate_ran_schemaText.mp ran
  obtain ⟨_, found, differs⟩ := edit.join_ran_schemaText.mp joined
  exact ⟨⟨_, SchemaIndex.mem_documents_of_find found⟩, differs⟩

theorem pipeline_ran_schemaText :
    .pipeline ∈ after.executed ↔ IsNeeded before.values (.loadSchema file) ∧
      rules.evaluate before.values (.loadSchema file) ≠
        rules.evaluate (before.edited (.schemaText file) text).values (.loadSchema file) := by
  rw [edit.ran_iff_schemaText]
  constructor
  · rintro ⟨_, input, read, changed⟩
    cases input with
    | field f =>
      rcases (field_mem_readBy_pipeline).mp read with rfl | rfl
      all_goals cases edit.field_changed.mp changed
    | query asked =>
      have needed : IsNeeded before.values asked := IsNeeded.ask (q := .pipeline) trivial read
      have ran := edit.ran_of_changed needed changed
      cases asked with
      | loadSchema other =>
        obtain ⟨rfl, _⟩ := edit.load_ran_schemaText.mp ran
        exact ⟨needed, (edit.load_changed_schemaText needed).mp changed⟩
      | schemaIndex => exact absurd ran (edit.index_not_ran trivial)
      | scanSource other => exact absurd ran (edit.scan_not_ran_schemaText other)
      | generateBinding binding => exact edit.load_differs_of_generate_ran ran
      | joinBinding => exact (query_mem_readBy_pipeline.mp read).elim
      | pipeline => exact (query_mem_readBy_pipeline.mp read).elim
  · rintro ⟨needed, differs⟩
    exact ⟨trivial, _, query_mem_readBy_pipeline.mpr needed,
      (edit.load_changed_schemaText needed).mpr differs⟩

/-- Nothing else depends on the document. -/
theorem load_needed_of_ran {q : Query} (ran : q ∈ after.executed) :
    IsNeeded before.values (.loadSchema file) := by
  cases q with
  | loadSchema other => exact (edit.load_ran_schemaText.mp ran).2
  | schemaIndex => exact absurd ran (edit.index_not_ran trivial)
  | scanSource other => exact absurd ran (edit.scan_not_ran_schemaText other)
  | joinBinding binding =>
    exact ⟨_, SchemaIndex.mem_documents_of_find (edit.join_ran_schemaText.mp ran).2.1⟩
  | generateBinding binding => exact (edit.load_differs_of_generate_ran ran).1
  | pipeline => exact (edit.pipeline_ran_schemaText.mp ran).1

end Reevaluated

namespace Session

/-- What is run when a workspace is evaluated, the text of a schema file is set, and it is evaluated
again. A file that shares its key, or has none, is not looked at. -/
structure RerunsForSchemaText (before after : Session) (file : FileId) : Prop where
  once : (after.runs .pipeline).Nodup
  scans : ∀ other, .scanSource other ∉ after.runs .pipeline
  index : .schemaIndex ∉ after.runs .pipeline
  loads : ∀ other,
    .loadSchema other ∈ after.runs .pipeline ↔ other = file ∧ before.IsSole file
  silent : ¬ before.IsSole file → after.runs .pipeline = []
  output : .pipeline ∈ after.runs .pipeline ↔
    before.IsSole file ∧ before.Differs after (.loadSchema file)
  joins : ∀ binding, .joinBinding binding ∈ after.runs .pipeline ↔
    binding ∈ before.bindings ∧ before.providers binding.documentKey = [file] ∧
      before.Differs after (.loadSchema file)
  generates : ∀ binding, .generateBinding binding ∈ after.runs .pipeline ↔
    .joinBinding binding ∈ after.runs .pipeline ∧ before.Differs after (.joinBinding binding)
  reworded : before.IsSole file → Turtle.statements? (before.value (.schemaText file)) = none →
    Turtle.statements? (after.value (.schemaText file)) = none →
    (before.Differs after (.loadSchema file) ↔
      Wording.ofDocument (before.value (.schemaText file)) ≠
        Wording.ofDocument (after.value (.schemaText file)))
  unreadable : ∀ faults faults', (before.fetch (.loadSchema file)).1 = .failed faults →
    (after.fetch (.loadSchema file)).1 = .failed faults' →
    ∀ binding, .generateBinding binding ∉ after.runs .pipeline

variable {paths : List Path}

/-- A request for a document that cannot be read fails in one way, whatever is wrong with it. -/
theorem Justified.fetch_join_of_failed {session : Session} (justified : session.Justified paths)
    {file : FileId} {binding : Binding} (alone : session.providers binding.documentKey = [file])
    {faults : Diagnostics} (failed : (session.fetch (.loadSchema file)).1 = .failed faults) :
    (session.fetch (.joinBinding binding)).1 =
      .fail (.of .unresolvedSchemaReference [binding.documentKey]) := by
  have listed := IsSole.listed ⟨_, alone⟩
  rw [justified.fetch_load listed] at failed
  rw [justified.fetch_join, evaluate_joinBinding, providers_eq_singleton.mp alone]
  change joined binding _ = _
  rw [failed]
  rfl

/-- As long as the document cannot be read, requests for it fail as before. -/
theorem Justified.not_differs_of_failed {before : Session} {file : FileId} {text : String}
    (justified : before.Justified paths)
    (justified' : (before.set (.schemaText file) text).Justified paths) {binding : Binding}
    (alone : before.providers binding.documentKey = [file]) {faults faults' : Diagnostics}
    (failed : (before.fetch (.loadSchema file)).1 = .failed faults)
    (failed' : ((before.set (.schemaText file) text).fetch (.loadSchema file)).1 = .failed faults') :
    ¬ before.Differs (before.set (.schemaText file) text) (.joinBinding binding) := by
  have found := providers_eq_singleton.mp alone
  rw [← evaluate_schemaIndex_edited (f := .schemaText file) trivial before.store text] at found
  have alone' : (before.set (.schemaText file) text).providers binding.documentKey = [file] :=
    providers_eq_singleton.mpr found
  exact fun differs => differs ((justified.fetch_join_of_failed alone failed).trans
    (justified'.fetch_join_of_failed alone' failed').symm)

/-- A document that cannot be read before and after is another outcome if something else is said of it. -/
theorem Justified.differs_load_of_unreadable {before : Session} {file : FileId} {text : String}
    (justified : before.Justified paths)
    (justified' : (before.set (.schemaText file) text).Justified paths)
    (listed : file ∈ before.value .schemas)
    (unreadable : Turtle.statements? (before.value (.schemaText file)) = none)
    (unreadable' : Turtle.statements?
      ((before.set (.schemaText file) text).value (.schemaText file)) = none) :
    before.Differs (before.set (.schemaText file) text) (.loadSchema file) ↔
      Wording.ofDocument (before.value (.schemaText file)) ≠
        Wording.ofDocument ((before.set (.schemaText file) text).value (.schemaText file)) := by
  have path : (before.set (.schemaText file) text).store.values (.schemaPath file) =
      before.store.values (.schemaPath file) :=
    before.value_set_of_ne (show Field.schemaPath file ≠ .schemaText file by simp) text
  rw [justified.differs_load justified' listed listed, evaluate_loadSchema, evaluate_loadSchema, path]
  exact not_congr (documentOf_eq_iff_of_unreadable unreadable unreadable' _)

theorem Justified.rerunsForSchemaText {session : Session} (justified : session.Justified paths)
    (file : FileId) (text : String) :
    (session.fetch .pipeline).2.RerunsForSchemaText
      ((session.fetch .pipeline).2.set (.schemaText file) text) file := by
  obtain ⟨store, edit, runs⟩ := justified.reevaluated (.schemaText file) text trivial
  have asked := justified.fetch .pipeline trivial
  have edited := asked.set (.schemaText file) text trivial
  have differs : ∀ sole : (session.fetch .pipeline).2.IsSole file, _ :=
    fun sole => asked.differs_load edited sole.listed sole.listed
  have joined : ∀ binding, .joinBinding binding ∈ store.executed →
      (session.fetch .pipeline).2.providers binding.documentKey = [file] :=
    fun binding ran => providers_eq_singleton.mpr (edit.join_ran_schemaText.mp ran).2.1
  refine ⟨?once, ?scans, ?index, ?loads, ?silent, ?output, ?joins, ?generates,
    fun sole => asked.differs_load_of_unreadable edited sole.listed, ?unreadable⟩
  all_goals rw [runs]
  case once => exact edit.progress.once
  case scans => exact edit.scan_not_ran_schemaText
  case index => exact edit.index_not_ran trivial
  case loads =>
    intro other
    rw [edit.load_ran_schemaText, isSole_iff]
  case silent =>
    intro shared
    rw [isSole_iff] at shared
    exact List.eq_nil_iff_forall_not_mem.mpr fun q ran => shared (edit.load_needed_of_ran ran)
  case output =>
    rw [edit.pipeline_ran_schemaText, ← isSole_iff]
    exact and_congr_right fun sole => (differs sole).symm
  case joins =>
    intro binding
    rw [edit.join_ran_schemaText, ← providers_eq_singleton, asked.bindings_eq]
    exact and_congr_right fun _ => and_congr_right fun alone => (differs ⟨_, alone⟩).symm
  case generates =>
    intro binding
    rw [edit.generate_ran_schemaText, asked.differs_join edited]
    exact Iff.rfl
  case unreadable =>
    intro faults faults' failed failed' binding ran
    obtain ⟨ran', differs'⟩ := edit.generate_ran_schemaText.mp ran
    refine asked.not_differs_of_failed edited (joined binding ran') failed failed' ?_
    exact (asked.differs_join edited binding).mpr differs'

/-- However a workspace was edited and asked before, setting the text of a schema file makes the next
evaluation run what depends on the document, as far as results differ, and nothing else. -/
theorem rerunsForSchemaText_run (config : Config) (sources schemas : List (Path × String))
    (actions : List Action) (file : FileId) (text : String) :
    let before := (((ofFiles config sources schemas).run actions).fetch .pipeline).2
    before.RerunsForSchemaText (before.set (.schemaText file) text) file :=
  Justified.rerunsForSchemaText
    ((justified_ofFiles config sources (List.subset_append_left ..)).run
      (List.subset_append_right ..)) file text

/-- A blank more does not change the document, so the edit goes no further. -/
example :
    letI := Wording.brief
    let before := ((ofFiles {} [] [(⟨"a/x.ttl"⟩, "")]).fetch .pipeline).2
    (before.set (.schemaText 0) " ").runs .pipeline = [.loadSchema 0] := by
  decide +kernel

/-- Where every text is told of in words of its own, a request is joined again with a document that
cannot be read as before, but nothing is generated. -/
example :
    letI : Wording := ⟨id, id⟩
    let text := "#[ttlgen::from_ttl(\"x.ttl\", \"x\", \"http://x/\")]\nstruct X;"
    let before := ((ofFiles {} [(⟨"src/x.rs"⟩, text)] [(⟨"x.ttl"⟩, "a")]).fetch .pipeline).2
    (before.set (.schemaText 0) "\n\n<http://a> b").runs .pipeline =
      [.joinBinding ⟨"x.ttl", "crate::x", "X", "x", "http://x/"⟩, .pipeline, .loadSchema 0] := by
  decide +kernel

end Session
end TermBind.Workspace

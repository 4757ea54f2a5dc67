import TermBind.Proofs.Scan.Place
import TermBind.Proofs.Workspace.Reevaluation

/-! Setting the text of a source file. Only that file is scanned again, and nothing is joined or
generated but for bindings that no file had before. -/
namespace TermBind.Workspace

open Incremental

variable [Wording]

section Values

variable (before : Store signature) (file : FileId) (text : String)

theorem evaluate_scanSource_edited_sourceText {other : FileId} (different : other ≠ file) :
    rules.evaluate (before.edited (.sourceText file) text).values (.scanSource other) =
      rules.evaluate before.values (.scanSource other) := by
  simp [evaluate_scanSource, Store.values_edited_of_ne, different]

/-- Only the scanned file can have bindings that no file had before. -/
theorem scanned_of_new_binding {binding : Binding}
    (present : binding ∈ bindingsOf (before.edited (.sourceText file) text).values)
    (new : binding ∉ bindingsOf before.values) :
    file ∈ before.values .sources ∧ binding ∈ (rules.evaluate
      (before.edited (.sourceText file) text).values (.scanSource file)).filterMap bindingOf? := by
  obtain ⟨other, listed, outcome, scanned, bound⟩ := mem_bindingsOf.mp present
  have listed : other ∈ before.values .sources := by
    simpa [Store.values_edited_of_ne] using listed
  by_cases own : other = file
  · subst own
    exact ⟨listed, List.mem_filterMap.mpr ⟨outcome, scanned, bound⟩⟩
  · rw [evaluate_scanSource_edited_sourceText _ _ _ own] at scanned
    exact absurd (mem_bindingsOf.mpr ⟨other, listed, outcome, scanned, bound⟩) new

end Values

/-- Two texts that cannot be read give one outcome if they fail in one place and the same is said of them. -/
theorem scanOf_eq_iff_of_unreadable {text text' : String} {place place' : Source.Position}
    (unreadable : Source.items text = .error place) (unreadable' : Source.items text' = .error place')
    (config : Config) (path : Path) :
    scanOf config path text = scanOf config path text' ↔
      place = place' ∧ Wording.ofSource text = Wording.ofSource text' := by
  rw [scanOf, scanOf, Scan.uninterrupted_file_of_error unreadable,
    Scan.uninterrupted_file_of_error unreadable']
  rw [← Source.fault_eq_iff path.text]
  simp [Outcome.fail]

namespace Reevaluated

variable {extent : Extent} {file : FileId} {text : String} {before after : Store signature}
  (edit : Reevaluated extent (.sourceText file) text before after)

include edit

theorem ran_iff_sourceText {q : Query} (needed : IsNeeded before.values q) :
    q ∈ after.executed ↔ IsNeeded (before.edited (.sourceText file) text).values q ∧
      ∃ input ∈ readBy before.values q, after.ChangedSince before.revision input := by
  constructor
  · intro ran
    have needed' := edit.needed_of_ran ran
    exact ⟨needed', (edit.ran_iff needed needed').mp ran⟩
  · rintro ⟨needed', changed⟩
    exact (edit.ran_iff needed needed').mpr changed

theorem load_not_ran_sourceText (other : FileId) : .loadSchema other ∉ after.executed := by
  intro ran
  obtain ⟨key, listed⟩ := edit.needed_of_ran ran
  rw [evaluate_schemaIndex_edited (f := .sourceText file) trivial] at listed
  have needed : IsNeeded before.values (.loadSchema other) := ⟨key, listed⟩
  obtain ⟨_, input, read, changed⟩ := (edit.ran_iff_sourceText needed).mp ran
  simp only [readBy_loadSchema, List.mem_cons, List.not_mem_nil, or_false] at read
  rcases read with rfl | rfl
  all_goals cases edit.field_changed.mp changed

theorem scan_ran_sourceText {other : FileId} :
    .scanSource other ∈ after.executed ↔ other = file ∧ file ∈ before.values .sources := by
  have listed : IsNeeded (before.edited (.sourceText file) text).values (.scanSource other) ↔
      IsNeeded before.values (.scanSource other) := by
    simp [IsNeeded, Store.values_edited_of_ne]
  constructor
  · intro ran
    have needed := listed.mp (edit.needed_of_ran ran)
    obtain ⟨_, input, read, changed⟩ := (edit.ran_iff_sourceText needed).mp ran
    simp only [readBy_scanSource, List.mem_cons, List.not_mem_nil, or_false] at read
    rcases read with rfl | rfl | rfl
    all_goals cases edit.field_changed.mp changed
    exact ⟨rfl, needed⟩
  · rintro ⟨rfl, needed⟩
    refine (edit.ran_iff_sourceText (q := .scanSource other) needed).mpr ⟨listed.mpr needed, ?_⟩
    exact ⟨.field (.sourceText other), by simp [readBy_scanSource], edit.field_changed.mpr rfl⟩

theorem scan_changed_sourceText (listed : file ∈ before.values .sources) :
    after.ChangedSince before.revision (.query (.scanSource file)) ↔
      rules.evaluate before.values (.scanSource file) ≠
        rules.evaluate (before.edited (.sourceText file) text).values (.scanSource file) := by
  refine edit.changed_iff (q := .scanSource file) listed ?_ (by simp) (by simp)
  exact edit.needed_of_ran (edit.scan_ran_sourceText.mpr ⟨rfl, listed⟩)

/-- A binding that some file had before finds the document that it found then. -/
theorem join_not_ran_sourceText {binding : Binding} (old : binding ∈ bindingsOf before.values) :
    .joinBinding binding ∉ after.executed := by
  rw [edit.ran_iff_sourceText (q := .joinBinding binding) old]
  rintro ⟨_, input, read, changed⟩
  rcases (mem_readBy_joinBinding _).mp read with rfl | ⟨other, found, rfl⟩
  · exact edit.index_not_ran trivial (edit.ran_of_changed (q := .schemaIndex) trivial changed)
  · have needed : IsNeeded before.values (.loadSchema other) :=
      ⟨_, SchemaIndex.mem_documents_of_find found⟩
    exact edit.load_not_ran_sourceText other (edit.ran_of_changed needed changed)

theorem generate_not_ran_sourceText {binding : Binding} (old : binding ∈ bindingsOf before.values) :
    .generateBinding binding ∉ after.executed := by
  rw [edit.ran_iff_sourceText (q := .generateBinding binding) old, readBy_generateBinding]
  rintro ⟨_, input, read, changed⟩
  simp only [List.mem_cons, List.not_mem_nil, or_false] at read
  rcases read with rfl | rfl
  · cases edit.field_changed.mp changed
  · exact edit.join_not_ran_sourceText old (edit.ran_of_changed (q := .joinBinding binding) old changed)

theorem pipeline_ran_sourceText :
    .pipeline ∈ after.executed ↔ file ∈ before.values .sources ∧
      rules.evaluate before.values (.scanSource file) ≠
        rules.evaluate (before.edited (.sourceText file) text).values (.scanSource file) := by
  rw [edit.ran_iff_sourceText (q := .pipeline) trivial]
  constructor
  · rintro ⟨_, input, read, changed⟩
    cases input with
    | field f =>
      rcases field_mem_readBy_pipeline.mp read with rfl | rfl
      all_goals cases edit.field_changed.mp changed
    | query asked =>
      have needed : IsNeeded before.values asked := IsNeeded.ask (q := .pipeline) trivial read
      have ran := edit.ran_of_changed needed changed
      cases asked with
      | scanSource other =>
        obtain ⟨rfl, listed⟩ := edit.scan_ran_sourceText.mp ran
        exact ⟨listed, (edit.scan_changed_sourceText listed).mp changed⟩
      | schemaIndex => exact absurd ran (edit.index_not_ran trivial)
      | loadSchema other => exact absurd ran (edit.load_not_ran_sourceText other)
      | generateBinding binding => exact absurd ran (edit.generate_not_ran_sourceText needed)
      | joinBinding => exact (query_mem_readBy_pipeline.mp read).elim
      | pipeline => exact (query_mem_readBy_pipeline.mp read).elim
  · rintro ⟨listed, differs⟩
    exact ⟨trivial, _, query_mem_readBy_pipeline.mpr listed,
      (edit.scan_changed_sourceText listed).mpr differs⟩

/-- What is joined or generated is for a binding that the edit brought in. -/
theorem new_of_ran {q : Query} {binding : Binding}
    (own : q = .joinBinding binding ∨ q = .generateBinding binding) (ran : q ∈ after.executed) :
    binding ∈ bindingsOf (before.edited (.sourceText file) text).values ∧
      binding ∉ bindingsOf before.values := by
  have needed := edit.needed_of_ran ran
  rcases own with rfl | rfl
  · exact ⟨needed, fun old => edit.join_not_ran_sourceText old ran⟩
  · exact ⟨needed, fun old => edit.generate_not_ran_sourceText old ran⟩

end Reevaluated

namespace Session

/-- What is run when a workspace is evaluated, the text of a source file is set, and it is evaluated
again. A file that is not listed is not looked at. -/
structure RerunsForSourceText (before after : Session) (file : FileId) : Prop where
  once : (after.runs .pipeline).Nodup
  scans : ∀ other, .scanSource other ∈ after.runs .pipeline ↔
    other = file ∧ file ∈ before.value .sources
  loads : ∀ other, .loadSchema other ∉ after.runs .pipeline
  index : .schemaIndex ∉ after.runs .pipeline
  output : .pipeline ∈ after.runs .pipeline ↔
    file ∈ before.value .sources ∧ before.Differs after (.scanSource file)
  reworded : file ∈ before.value .sources → ∀ place place',
    Source.items (before.value (.sourceText file)) = .error place →
      Source.items (after.value (.sourceText file)) = .error place' →
        (before.Differs after (.scanSource file) ↔ ¬ (place = place' ∧
          Wording.ofSource (before.value (.sourceText file)) =
            Wording.ofSource (after.value (.sourceText file))))
  bindings : ∀ q binding, q = .joinBinding binding ∨ q = .generateBinding binding →
    q ∈ after.runs .pipeline →
      binding ∈ (after.fetch (.scanSource file)).1.filterMap bindingOf? ∧
        binding ∉ before.bindings
  moved : after.bindings ⊆ before.bindings → ∀ binding,
    .joinBinding binding ∉ after.runs .pipeline ∧ .generateBinding binding ∉ after.runs .pipeline

variable {paths : List Path}

/-- A file that cannot be read before and after gives another outcome if it fails in another place, or if
something else is said of it. -/
theorem Justified.differs_scan_of_unreadable {before : Session} {file : FileId} {text : String}
    (justified : before.Justified paths)
    (justified' : (before.set (.sourceText file) text).Justified paths)
    (listed : file ∈ before.value .sources) (place place' : Source.Position)
    (unreadable : Source.items (before.value (.sourceText file)) = .error place)
    (unreadable' : Source.items ((before.set (.sourceText file) text).value (.sourceText file)) =
      .error place') :
    before.Differs (before.set (.sourceText file) text) (.scanSource file) ↔ ¬ (place = place' ∧
      Wording.ofSource (before.value (.sourceText file)) =
        Wording.ofSource ((before.set (.sourceText file) text).value (.sourceText file))) := by
  have kept : ∀ f : Field, f ≠ .sourceText file →
      (before.set (.sourceText file) text).store.values f = before.store.values f :=
    fun f different => before.value_set_of_ne different text
  rw [justified.differs_scan justified' listed listed, evaluate_scanSource, evaluate_scanSource,
    kept .config (by simp), kept (.sourcePath file) (by simp)]
  exact not_congr (scanOf_eq_iff_of_unreadable unreadable unreadable' _ _)

theorem Justified.rerunsForSourceText {session : Session} (justified : session.Justified paths)
    (file : FileId) (text : String) :
    (session.fetch .pipeline).2.RerunsForSourceText
      ((session.fetch .pipeline).2.set (.sourceText file) text) file := by
  obtain ⟨store, edit, runs⟩ := justified.reevaluated (.sourceText file) text trivial
  have asked := justified.fetch .pipeline trivial
  have edited := asked.set (.sourceText file) text trivial
  refine ⟨?once, ?scans, ?loads, ?index, ?output, asked.differs_scan_of_unreadable edited, ?bindings,
    ?moved⟩
  all_goals rw [runs]
  case once => exact edit.progress.once
  case scans => exact fun other => edit.scan_ran_sourceText
  case loads => exact edit.load_not_ran_sourceText
  case index => exact edit.index_not_ran trivial
  case output =>
    rw [edit.pipeline_ran_sourceText]
    exact and_congr_right fun listed => (asked.differs_scan edited listed listed).symm
  case bindings =>
    intro q binding own ran
    obtain ⟨present, new⟩ := edit.new_of_ran own ran
    obtain ⟨listed, scanned⟩ := scanned_of_new_binding _ file text present new
    rw [asked.bindings_eq, edited.fetch_scan listed]
    exact ⟨scanned, new⟩
  case moved =>
    rw [asked.bindings_eq, edited.bindings_eq]
    intro kept binding
    refine ⟨fun ran => ?_, fun ran => ?_⟩
    · obtain ⟨present, new⟩ := edit.new_of_ran (Or.inl rfl) ran
      exact new (kept present)
    · obtain ⟨present, new⟩ := edit.new_of_ran (Or.inr rfl) ran
      exact new (kept present)

/-- However a workspace was edited and asked before, setting the text of a source file makes the next
evaluation scan that file, and join and generate only what is new in it. -/
theorem rerunsForSourceText_run (config : Config) (sources schemas : List (Path × String))
    (actions : List Action) (file : FileId) (text : String) :
    let before := (((ofFiles config sources schemas).run actions).fetch .pipeline).2
    before.RerunsForSourceText (before.set (.sourceText file) text) file :=
  Justified.rerunsForSourceText
    ((justified_ofFiles config sources (List.subset_append_left ..)).run
      (List.subset_append_right ..)) file text

/-- A declaration that only moves is reported elsewhere, but not joined or generated again. -/
example :
    letI := Wording.brief
    let text := "#[ttlgen::from_ttl(\"x.ttl\", \"x\", \"http://x/\")]\nstruct X;"
    let before := ((ofFiles {} [(⟨"src/x.rs"⟩, text)] [(⟨"x.ttl"⟩, "")]).fetch .pipeline).2
    (before.set (.sourceText 0) ("\n" ++ text)).runs .pipeline = [.pipeline, .scanSource 0] := by
  decide +kernel

/-- Where every text is told of in words of its own, a file that fails in the same place is reported anew. -/
example :
    letI : Wording := ⟨id, id⟩
    let before := ((ofFiles {} [(⟨"src/x.rs"⟩, "mod 1")] []).fetch .pipeline).2
    (before.set (.sourceText 0) "pub 1").runs .pipeline = [.pipeline, .scanSource 0] := by
  decide +kernel

end Session
end TermBind.Workspace

import TermBind.Proofs.Incremental.Economy
import TermBind.Proofs.Workspace.History

/-! How often a document is loaded along a history. Its file's path and text are all that it is made
from, so it is loaded once, and once more at most for each time that one of them is set. -/
namespace TermBind.Workspace

open Incremental

/-- Whether an action sets the path or the text of a schema file. -/
def Action.edits (file : FileId) : Action → Bool
  | .set field _ => field = .schemaPath file || field = .schemaText file
  | _ => false

namespace Session

/-- How often a document was loaded. -/
def loads (session : Session) (file : FileId) : Nat :=
  session.store.countExecuted (· == .loadSchema file)

variable [Wording] {session : Session} {paths : List Path} {file : FileId} {budget : Nat}

/-- What is remembered of a document was made from the path and the text of a file that was made. -/
theorem Justified.load_read (justified : session.Justified paths) {memo : Memo signature (.loadSchema file)}
    (found : session.store.memo? (.loadSchema file) = some memo) :
    file < session.schemaCount ∧
      memo.dependencies = [.field (.schemaPath file), .field (.schemaText file)] := by
  have reads := (Store.Consistent.valid justified _ memo found).justified
  generalize memo.dependencies = dependencies at reads
  generalize memo.value = document at reads
  change (loadProgram file).Reads _ _ dependencies document at reads
  cases reads with
  | read named rest =>
    cases rest with
    | read named' rest =>
      cases rest with
      | done => exact ⟨named.1, rfl⟩

/-- What is remembered of a document stays up to date while its file's path and text stay. -/
theorem Justified.settled_load (justified : session.Justified paths) {after : Session}
    (settled : session.store.Settled (.loadSchema file))
    (memos : after.store.memos = session.store.memos)
    (stamps : file < session.schemaCount → ∀ f, f = .schemaPath file ∨ f = .schemaText file →
      after.store.stamps f = session.store.stamps f) :
    after.store.Settled (.loadSchema file) := by
  obtain ⟨memo, found, unchanged⟩ := settled
  obtain ⟨made, read⟩ := justified.load_read found
  refine ⟨memo, (congrArg (Store.find? (S := signature) _) memos).trans found, ?_⟩
  rw [read] at unchanged ⊢
  intro dependency member
  obtain ⟨change, earlier, last⟩ := unchanged dependency member
  simp only [List.mem_cons, List.not_mem_nil, or_false] at member
  refine ⟨change, earlier, ?_⟩
  rcases member with rfl | rfl
  · exact (stamps made _ (Or.inl rfl)).trans last
  · exact (stamps made _ (Or.inr rfl)).trans last

/-- A document was loaded at most so often, or once more if what is remembered of it is up to
date. -/
def LoadsWithin (session : Session) (file : FileId) (budget : Nat) : Prop :=
  session.store.WithinBudget (.loadSchema file) budget

theorem LoadsWithin.unrelated (within : session.LoadsWithin file budget)
    (justified : session.Justified paths) {after : Session}
    (executed : after.store.executed = session.store.executed)
    (memos : after.store.memos = session.store.memos)
    (stamps : file < session.schemaCount → ∀ f, f = .schemaPath file ∨ f = .schemaText file →
      after.store.stamps f = session.store.stamps f) : after.LoadsWithin file budget :=
  Store.WithinBudget.unrelated within executed fun settled =>
    justified.settled_load settled memos stamps

theorem LoadsWithin.set (within : session.LoadsWithin file budget)
    (justified : session.Justified paths) {f : Field} (value : f.Value)
    (edits : (Action.set f value).edits file = false) :
    (session.set f value).LoadsWithin file budget := by
  refine within.unrelated justified rfl rfl ?_
  simp only [Action.edits, Bool.or_eq_false_iff, decide_eq_false_iff_not] at edits
  rintro _ g (rfl | rfl)
  · simp [Session.set, Store.set, Store.place, Ne.symm edits.1]
  · simp [Session.set, Store.set, Store.place, Ne.symm edits.2]

theorem LoadsWithin.addSource (within : session.LoadsWithin file budget)
    (justified : session.Justified paths) (path : Path) (text : String) :
    (session.addSource path text).LoadsWithin file budget := by
  refine within.unrelated justified rfl rfl ?_
  rintro _ g (rfl | rfl)
  all_goals simp [Session.addSource, newSource, create, Session.set, Store.set, Store.create, Store.place]

theorem LoadsWithin.addSchema (within : session.LoadsWithin file budget)
    (justified : session.Justified paths) (path : Path) (text : String) :
    (session.addSchema path text).LoadsWithin file budget := by
  refine within.unrelated justified rfl rfl ?_
  intro made
  have different : file ≠ session.schemaCount := Nat.ne_of_lt made
  rintro g (rfl | rfl)
  all_goals simp [Session.addSchema, newSchema, create, Session.set, Store.set, Store.create,
    Store.place, different]

theorem LoadsWithin.reverse (within : session.LoadsWithin file budget)
    (justified : session.Justified paths) : session.reverse.LoadsWithin file budget := by
  refine within.unrelated justified rfl rfl ?_
  rintro _ g (rfl | rfl)
  all_goals simp [Session.reverse, Session.set, Store.set, Store.place]

/-- No action but setting the path or the text of its file lets a document be loaded once more. -/
theorem LoadsWithin.perform (within : session.LoadsWithin file budget)
    (justified : session.Justified paths) (action : Action) :
    (session.perform action).LoadsWithin file (budget + if action.edits file then 1 else 0) := by
  cases action with
  | set field value =>
    simp only [Session.perform]
    split
    · cases edits : (Action.set field value).edits file with
      | false => exact within.set justified value edits
      | true => exact Store.WithinBudget.edited within rfl
    · exact Store.WithinBudget.mono within (Nat.le_add_right ..)
  | addSource path text => exact within.addSource justified path text
  | addSchema path text => exact within.addSchema justified path text
  | removeSource index => exact within.set justified _ rfl
  | removeSchema index => exact within.set justified _ rfl
  | reverse => exact within.reverse justified
  | ask query =>
    simp only [Session.perform]
    split
    · rename_i askable
      exact Store.WithinBudget.fetch within justified query (hasQuery_of_isAskable askable)
    · exact within

theorem LoadsWithin.run (within : session.LoadsWithin file budget)
    (justified : session.Justified paths) (actions : List Action)
    (known : actions.flatMap Action.schemaPaths ⊆ paths) :
    (session.run actions).LoadsWithin file (budget + actions.countP (·.edits file)) := by
  induction actions generalizing session budget with
  | nil => exact within
  | cons action rest ih =>
    rw [List.flatMap_cons, List.append_subset] at known
    have rested := ih (within.perform justified action) (justified.perform known.1) known.2
    rw [List.countP_cons, Nat.add_comm (rest.countP _), ← Nat.add_assoc]
    exact rested

omit [Wording] in
theorem executed_foldl (step : Session → Path × String → Session)
    (idle : ∀ session file, (step session file).store.executed = session.store.executed)
    (files : List (Path × String)) (session : Session) :
    (files.foldl step session).store.executed = session.store.executed := by
  induction files generalizing session with
  | nil => rfl
  | cons file rest ih => exact (ih _).trans (idle session file)

omit [Wording] in
/-- Nothing is run when a workspace is opened. -/
theorem executed_ofFiles (config : Config) (sources schemas : List (Path × String)) :
    (ofFiles config sources schemas).store.executed = [] := by
  have read := executed_foldl (fun session file => session.newSource file.1 file.2)
    (fun _ _ => rfl) sources empty
  have read' := executed_foldl (fun session file => session.newSchema file.1 file.2)
    (fun _ _ => rfl) schemas
  exact (read' _).trans read

/-- Whatever is edited and asked in a workspace, a document is loaded no more than once for each time
that the path or the text of its file was set, and once before. -/
theorem loads_run_le (config : Config) (sources schemas : List (Path × String))
    (actions : List Action) (file : FileId) :
    ((ofFiles config sources schemas).run actions).loads file ≤
      1 + actions.countP (·.edits file) := by
  have opened : (ofFiles config sources schemas).LoadsWithin file 0 := by
    refine Or.inl ?_
    rw [executed_ofFiles]
    exact Nat.le_refl 0
  have within := opened.run (justified_ofFiles config sources (List.subset_append_left ..))
    actions (List.subset_append_right ..)
  rw [Nat.zero_add] at within
  rw [Nat.add_comm]
  exact Store.WithinBudget.le within

end Session
end TermBind.Workspace

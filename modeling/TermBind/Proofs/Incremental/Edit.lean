import TermBind.Proofs.Incremental.Progress

/-! What is run when a field was set and a query that was current is fetched again. What the query
needed before and still needs was current, so it is run exactly if something that it reads has
changed, and its result changed exactly if a plain run gives another one. -/
namespace TermBind.Incremental

variable {S : Signature} {rules : Rules S} [DecidableEq S.Field] {bound : Nat}

namespace Store

variable (store : Store S) {f : S.Field} (value : S.Value f)

/-- A store in which a field was set, with no note of earlier runs. -/
def edited (f : S.Field) (value : S.Value f) : Store S := (store.set f value).forgetExecuted

theorem values_edited_of_ne {g : S.Field} (different : g ≠ f) :
    (store.edited f value).values g = store.values g := by
  simp [edited, forgetExecuted, set, place, different]

theorem stamps_edited_self : (store.edited f value).stamps f = store.revision + 1 := by
  simp [edited, forgetExecuted, set, place]

theorem stamps_edited_of_ne {g : S.Field} (different : g ≠ f) :
    (store.edited f value).stamps g = store.stamps g := by
  simp [edited, forgetExecuted, set, place, different]

end Store

variable [DecidableEq S.Query] {domain : Domain rules}

/-- An input has changed after a revision, as far as that was found out now. -/
def Store.ChangedSince (store : Store S) (revision : Revision) : Input S → Prop
  | .field f => revision < store.stamps f
  | .query q => ∃ memo, store.memo? q = some memo ∧ memo.verifiedAt = store.revision ∧
      revision < memo.changedAt

omit [DecidableEq S.Field] in
theorem Store.changedSince_input {store : Store S} {revision : Revision}
    {dependency : Dependency S bound} :
    (∃ change > revision, store.LastChange dependency change) ↔
      store.ChangedSince revision dependency.input := by
  cases dependency with
  | field f =>
    constructor
    · rintro ⟨_, later, rfl⟩
      exact later
    · exact fun later => ⟨_, later, rfl⟩
  | query q lower =>
    constructor
    · rintro ⟨_, later, memo, found, now, rfl⟩
      exact ⟨memo, found, now, later⟩
    · rintro ⟨memo, found, now, later⟩
      exact ⟨_, later, memo, found, now, rfl⟩

/-- A field was set in a store in which a query was current, and the query was fetched again. -/
structure Edit (domain : Domain rules) (root : S.Query) (f : S.Field) (value : S.Value f)
    (before after : Store S) : Prop where
  consistent : before.Consistent domain
  current : before.Current root
  advances : (before.edited f value).Advances domain (S.rank root + 1) after
  result : after.Consistent domain
  renewed : after.Current root
  progress : Progress rules (rules.Needs (before.edited f value).values root) after.executed
    (before.edited f value) after

theorem Edit.of_fetch {root : S.Query} {f : S.Field} {value : S.Value f} {before : Store S}
    (consistent : before.Consistent domain) (current : before.Current root)
    (own : domain.query root) (permitted : domain.value f value) :
    Edit domain root f value before ((rules.fetch root).run (before.edited f value)).2 := by
  have edited : (before.edited f value).Consistent domain :=
    (consistent.set f value permitted).logged []
  have fetched := rules.fetch_fetches root own _ edited
  obtain ⟨memo, found, now, _, _⟩ := fetched.remembered
  obtain ⟨ran, progress⟩ := rules.fetch_progress root own _ edited
  have logged : ((rules.fetch root).run (before.edited f value)).2.executed = ran :=
    progress.logged.trans (List.append_nil ran)
  exact {
    consistent, current
    advances := fetched.advances
    result := fetched.consistent
    renewed := ⟨memo, found, now⟩
    progress := logged ▸ progress }

namespace Edit

variable {root : S.Query} {f : S.Field} {value : S.Value f} {before after : Store S}
  (edit : Edit domain root f value before after) {q : S.Query}

include edit

theorem revision_eq : after.revision = before.revision + 1 := edit.advances.revision

theorem field_changed {g : S.Field} : after.ChangedSince before.revision (.field g) ↔ g = f := by
  change before.revision < after.stamps g ↔ _
  rw [edit.advances.stamps]
  by_cases same : g = f
  · subst same
    simp [Store.stamps_edited_self]
  · have stamped := edit.consistent.stamped g
    simp [Store.stamps_edited_of_ne _ _ same, same, stamped]

theorem is_current (needs' : rules.Needs (before.edited f value).values root q) :
    after.Current q := by
  rw [← edit.advances.values] at needs'
  exact edit.result.current_of_needs needs' edit.renewed

section Needed

variable (needs : rules.Needs before.values root q)

include needs

theorem was_current : before.Current q :=
  edit.consistent.current_of_needs needs edit.current

/-- What has changed was run. -/
theorem ran_of_changed (changed : after.ChangedSince before.revision (.query q)) :
    q ∈ after.executed := by
  refine Decidable.byContradiction fun absent => ?_
  obtain ⟨new, found', _, later⟩ := changed
  obtain ⟨old, found, now⟩ := edit.was_current needs
  have same := edit.progress.changedAt_eq found found' fun ran => absurd ran absent
  have ordered := (edit.consistent.valid q old found).ordered
  rw [← same, now] at ordered
  exact Nat.not_lt.mpr ordered later

variable (needs' : rules.Needs (before.edited f value).values root q)

include needs'

/-- What is needed before and after is run if something that it reads has changed. -/
theorem ran_iff :
    q ∈ after.executed ↔
      ∃ input ∈ (rules.program q).inputs before.values (rules.evaluate before.values),
        after.ChangedSince before.revision input := by
  obtain ⟨old, found, now⟩ := edit.was_current needs
  have stale : old.verifiedAt < after.revision := by
    rw [now, edit.revision_eq]
    exact Nat.lt_succ_self _
  rw [edit.progress.mem_iff found stale (edit.is_current needs'), Program.inputs,
    ← (edit.consistent.replayed found now).1, ← now]
  simp only [Store.changedSince_input, List.mem_map]
  constructor
  · rintro ⟨dependency, read, later⟩
    exact ⟨dependency.input, ⟨dependency, read, rfl⟩, later⟩
  · rintro ⟨_, ⟨dependency, read, rfl⟩, later⟩
    exact ⟨dependency, read, later⟩

/-- A result that nothing is like but itself has changed if a plain run gives another one. -/
theorem query_changed (equal : ∀ left right, domain.alike q left right → left = right)
    (reflexive : ∀ result, rules.same q result result = true) :
    after.ChangedSince before.revision (.query q) ↔
      rules.evaluate before.values q ≠ rules.evaluate (before.edited f value).values q := by
  obtain ⟨old, found, now⟩ := edit.was_current needs
  obtain ⟨new, found', now'⟩ := edit.is_current needs'
  have plain := equal _ _ (edit.consistent.replayed found now).2
  have plain' := equal _ _ (edit.result.replayed found' now').2
  rw [edit.advances.values] at plain'
  rw [← plain, ← plain']
  constructor
  · rintro ⟨memo, present, _, later⟩ same
    rw [found'] at present
    cases present
    have kept := edit.progress.changedAt_eq found found' fun _ => same ▸ reflexive _
    have ordered := (edit.consistent.valid q old found).ordered
    rw [← kept, now] at ordered
    exact Nat.not_lt.mpr ordered later
  · intro different
    refine ⟨new, found', now', Nat.lt_of_not_le fun unchanged => different ?_⟩
    obtain ⟨memo, present, follows⟩ := edit.advances.memos q old found
    rw [found'] at present
    cases present
    rcases follows with rfl | ⟨_, kept⟩
    · rfl
    · exact (equal _ _ (kept _ (Nat.le_of_eq now.symm) unchanged).2).symm

end Needed
end Edit
end TermBind.Incremental

import TermBind.Proofs.Incremental.Progress

/-! How often a query is run. As long as what is remembered of it is up to date it is not run at all,
and once it was run it is up to date; so only what puts it out of date leads to another run. -/
namespace TermBind.Incremental

variable {S : Signature} {rules : Rules S} {bound : Nat} [DecidableEq S.Query]
variable {domain : Domain rules} {q : S.Query}

/-- What is remembered of a query was found valid after the last change of what it was made from. -/
def Store.Settled (store : Store S) (q : S.Query) : Prop :=
  ∃ memo, store.memo? q = some memo ∧ ∀ dependency ∈ memo.dependencies,
    ∃ change ≤ memo.verifiedAt, store.LastChange dependency change

theorem Store.Consistent.settled {store : Store S} (consistent : store.Consistent domain)
    (current : store.Current q) : store.Settled q := by
  obtain ⟨memo, found, now⟩ := current
  refine ⟨memo, found, fun dependency member => ?_⟩
  have reads := (consistent.valid q memo found).justified
  rw [now]
  cases dependency with
  | field f => exact ⟨store.stamps f, consistent.stamped f, rfl⟩
  | query asked lower =>
    obtain ⟨_, _, earlier, found', verified, _⟩ := reads.query_of_mem member
    have valid := consistent.valid asked earlier found'
    exact ⟨earlier.changedAt, Nat.le_trans valid.ordered valid.verified, earlier, found',
      Nat.le_antisymm valid.verified (now ▸ verified), rfl⟩

section Evaluations

variable {scope : S.Query → Prop} {ran : List S.Query} {before after : Store S}

theorem Progress.not_ran_of_settled (progress : Progress rules scope ran before after)
    (advances : before.Advances domain bound after) (consistent : after.Consistent domain)
    (settled : before.Settled q) : q ∉ ran := by
  intro member
  obtain ⟨old, found, unchanged⟩ := settled
  obtain ⟨_, _, _, outdated⟩ := (progress.reran q member).2
  obtain ⟨_, ⟨dependency, read, change, later, last⟩, _⟩ := outdated old found
  obtain ⟨change', earlier, last'⟩ := unchanged dependency read
  rw [last.unique (advances.lastChange consistent last')] at later
  exact Nat.not_lt.mpr earlier later

theorem Progress.settled (progress : Progress rules scope ran before after)
    (advances : before.Advances domain bound after) (consistent : after.Consistent domain)
    (settled : before.Settled q) : after.Settled q := by
  rcases progress.kept q (progress.not_ran_of_settled advances consistent settled) with same | ⟨_, renews⟩
  · obtain ⟨memo, found, unchanged⟩ := settled
    refine ⟨memo, same.trans found, fun dependency member => ?_⟩
    obtain ⟨change, earlier, last⟩ := unchanged dependency member
    exact ⟨change, earlier, advances.lastChange consistent last⟩
  · exact consistent.settled renews.current

end Evaluations

/-- A query was run at most so often, or once more if what is remembered of it is up to date. -/
def Store.WithinBudget (store : Store S) (q : S.Query) (budget : Nat) : Prop :=
  store.executed.count q ≤ budget ∨ store.Settled q ∧ store.executed.count q ≤ budget + 1

theorem Store.WithinBudget.le {store : Store S} {budget : Nat}
    (within : store.WithinBudget q budget) : store.executed.count q ≤ budget + 1 := by
  rcases within with less | ⟨_, less⟩
  · exact Nat.le_succ_of_le less
  · exact less

theorem Store.WithinBudget.mono {store : Store S} {budget budget' : Nat}
    (within : store.WithinBudget q budget) (le : budget ≤ budget') : store.WithinBudget q budget' :=
  within.imp (fun less => Nat.le_trans less le)
    fun spent => ⟨spent.1, Nat.le_trans spent.2 (Nat.succ_le_succ le)⟩

/-- What is edited may have to be run once more. -/
theorem Store.WithinBudget.edited {store store' : Store S} {budget : Nat}
    (within : store.WithinBudget q budget) (executed : store'.executed = store.executed) :
    store'.WithinBudget q (budget + 1) :=
  Or.inl (executed ▸ within.le)

/-- An edit of something else leaves what is up to date as it is. -/
theorem Store.WithinBudget.unrelated {store store' : Store S} {budget : Nat}
    (within : store.WithinBudget q budget) (executed : store'.executed = store.executed)
    (settled : store.Settled q → store'.Settled q) : store'.WithinBudget q budget := by
  unfold WithinBudget
  rw [executed]
  exact within.imp_right fun spent => ⟨settled spent.1, spent.2⟩

/-- Evaluation keeps to the budget, whatever is asked. -/
theorem Store.WithinBudget.fetch {store : Store S} {budget : Nat}
    (within : store.WithinBudget q budget) (consistent : store.Consistent domain) (asked : S.Query)
    (own : domain.query asked) : ((rules.fetch asked).run store).2.WithinBudget q budget := by
  have fetched := rules.fetch_fetches asked own store consistent
  obtain ⟨ran, progress⟩ := rules.fetch_progress asked own store consistent
  unfold WithinBudget
  rw [progress.logged, List.count_append, progress.once.count]
  rcases within with less | ⟨settled, less⟩
  · by_cases member : q ∈ ran
    · have current := (progress.reran q member).2.current
      rw [if_pos member, Nat.add_comm]
      exact Or.inr ⟨fetched.consistent.settled current, Nat.succ_le_succ less⟩
    · rw [if_neg member, Nat.zero_add]
      exact Or.inl less
  · have idle := progress.not_ran_of_settled fetched.advances fetched.consistent settled
    rw [if_neg idle, Nat.zero_add]
    exact Or.inr ⟨progress.settled fetched.advances fetched.consistent settled, less⟩

end TermBind.Incremental

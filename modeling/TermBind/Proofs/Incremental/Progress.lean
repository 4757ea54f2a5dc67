import TermBind.Proofs.Incremental.Evaluation

/-! Which queries an evaluation runs. Fetching a query touches nothing but what a plain run of it
needs. Of that, a query is run if nothing was remembered of it or something that it was made from
has changed, and it is run once; otherwise what was remembered is found valid again. -/
namespace TermBind.Incremental

variable {S : Signature} {rules : Rules S} {bound : Nat} {α : Type}
variable {values : (f : S.Field) → S.Value f}

/-- A plain run of a query asks for another one, directly or not. -/
inductive Rules.Needs (rules : Rules S) (values : (f : S.Field) → S.Value f) :
    S.Query → S.Query → Prop where
  | self (q : S.Query) : Needs rules values q q
  | ask {q asked other : S.Query}
      (member : .query asked ∈ (rules.program q).inputs values (rules.evaluate values))
      (rest : Needs rules values asked other) : Needs rules values q other

/-- A plain run of a program asks for a query, directly or not. -/
def Program.Needs (rules : Rules S) (values : (f : S.Field) → S.Value f)
    (program : Program S bound α) (other : S.Query) : Prop :=
  ∃ asked, .query asked ∈ program.inputs values (rules.evaluate values) ∧
    rules.Needs values asked other

/-- What holds of a query and, with each query, of what it asks for holds of all that it needs. -/
theorem Rules.Needs.induct {holds : S.Query → Prop} {q other : S.Query}
    (needs : rules.Needs values q other)
    (ask : ∀ q asked, holds q → .query asked ∈ (rules.program q).inputs values (rules.evaluate values) →
      holds asked) (start : holds q) : holds other := by
  induction needs with
  | self => exact start
  | ask member _ ih => exact ih (ask _ _ start member)

theorem Rules.Needs.rank_le {q other : S.Query} (needs : rules.Needs values q other) :
    S.rank other ≤ S.rank q := by
  induction needs with
  | self => exact Nat.le_refl _
  | ask member _ ih =>
    obtain ⟨lower, _⟩ := (Program.query_mem_inputs ..).mp member
    exact Nat.le_trans ih (Nat.le_of_lt lower)

theorem Program.Needs.rank_lt {program : Program S bound α} {other : S.Query}
    (needs : program.Needs rules values other) : S.rank other < bound := by
  obtain ⟨asked, member, rest⟩ := needs
  obtain ⟨lower, _⟩ := (Program.query_mem_inputs ..).mp member
  exact Nat.lt_of_le_of_lt rest.rank_le lower

theorem Program.Needs.of_rules {q other : S.Query}
    (needs : (rules.program q).Needs rules values other) : rules.Needs values q other := by
  obtain ⟨asked, member, rest⟩ := needs
  exact .ask member rest

theorem Program.Needs.read {f : S.Field} {next : S.Value f → Program S bound α} {other : S.Query}
    (needs : (next (values f)).Needs rules values other) :
    (Program.read f next).Needs rules values other := by
  obtain ⟨asked, member, rest⟩ := needs
  exact ⟨asked, List.mem_cons_of_mem _ member, rest⟩

theorem Program.Needs.head {q : S.Query} {lower : S.rank q < bound}
    {next : S.Result q → Program S bound α} {other : S.Query} (needs : rules.Needs values q other) :
    (Program.ask q lower next).Needs rules values other :=
  ⟨q, List.mem_cons_self .., needs⟩

theorem Program.Needs.tail {q : S.Query} {lower : S.rank q < bound}
    {next : S.Result q → Program S bound α} {other : S.Query}
    (needs : (next (rules.evaluate values q)).Needs rules values other) :
    (Program.ask q lower next).Needs rules values other := by
  obtain ⟨asked, member, rest⟩ := needs
  exact ⟨asked, List.mem_cons_of_mem _ member, rest⟩

variable [DecidableEq S.Query] {domain : Domain rules}

/-- A query was found valid now. -/
def Store.Current (store : Store S) (q : S.Query) : Prop :=
  ∃ memo, store.memo? q = some memo ∧ memo.verifiedAt = store.revision

/-- Whatever a query needs was found valid no earlier than the query itself. -/
theorem Store.Consistent.current_of_needs {store : Store S} (consistent : store.Consistent domain)
    {q other : S.Query} (needs : rules.Needs store.values q other) (current : store.Current q) :
    store.Current other := by
  induction needs with
  | self => exact current
  | ask member _ ih =>
    obtain ⟨memo, found, now⟩ := current
    obtain ⟨lower, member⟩ := (Program.query_mem_inputs ..).mp member
    rw [← (consistent.replayed found now).1] at member
    obtain ⟨_, _, earlier, foundEarlier, verified, _⟩ :=
      (consistent.valid _ memo found).justified.query_of_mem member
    have bounded := (consistent.valid _ earlier foundEarlier).verified
    exact ih ⟨earlier, foundEarlier, Nat.le_antisymm bounded (now ▸ verified)⟩

theorem Store.LastChange.unique {store : Store S} {dependency : Dependency S bound}
    {first second : Revision} (change : store.LastChange dependency first)
    (change' : store.LastChange dependency second) : first = second := by
  cases dependency with
  | field f => exact change.symm.trans change'
  | query q lower =>
    obtain ⟨memo, found, _, rfl⟩ := change
    obtain ⟨memo', found', _, rfl⟩ := change'
    rw [found] at found'
    cases found'
    rfl

/-- What was remembered of a query was found valid again, as nothing it was made from has changed. -/
def Store.Renews (before after : Store S) (q : S.Query) : Prop :=
  ∃ old, before.memo? q = some old ∧ old.verifiedAt < after.revision ∧
    after.memo? q = some { old with verifiedAt := after.revision } ∧
    ∀ dependency ∈ old.dependencies, ∃ change ≤ old.verifiedAt, after.LastChange dependency change

/-- A query was run. What was remembered of it, if anything, was out of date; if the new result
counts as the same, it is not taken for a change. -/
def Store.Reruns (rules : Rules S) (before after : Store S) (q : S.Query) : Prop :=
  ∃ new, after.memo? q = some new ∧ new.verifiedAt = after.revision ∧
    ∀ old, before.memo? q = some old → old.verifiedAt < after.revision ∧
      (∃ dependency ∈ old.dependencies, ∃ change > old.verifiedAt,
        after.LastChange dependency change) ∧
      (rules.same q old.value new.value = true → new.changedAt = old.changedAt)

section Moves

variable {before middle after : Store S} {q : S.Query}

theorem Store.Renews.current (renews : before.Renews after q) : after.Current q := by
  obtain ⟨_, _, _, found, _⟩ := renews
  exact ⟨_, found, rfl⟩

theorem Store.Reruns.current (reruns : before.Reruns rules after q) : after.Current q := by
  obtain ⟨new, found, now, _⟩ := reruns
  exact ⟨new, found, now⟩

theorem Store.Renews.not_current (renews : before.Renews after q)
    (revision : after.revision = before.revision) : ¬ before.Current q := by
  rintro ⟨memo, found, now⟩
  obtain ⟨old, found', earlier, _⟩ := renews
  rw [found] at found'
  cases found'
  exact Nat.ne_of_lt earlier (now.trans revision.symm)

theorem Store.Reruns.not_current (reruns : before.Reruns rules after q)
    (revision : after.revision = before.revision) : ¬ before.Current q := by
  rintro ⟨memo, found, now⟩
  obtain ⟨new, _, _, outdated⟩ := reruns
  exact Nat.ne_of_lt (outdated memo found).1 (now.trans revision.symm)

theorem Store.Renews.of_memo?_eq (renews : middle.Renews after q)
    (same : middle.memo? q = before.memo? q) : before.Renews after q := by
  unfold Renews at renews ⊢
  rw [← same]
  exact renews

theorem Store.Reruns.of_memo?_eq (reruns : middle.Reruns rules after q)
    (same : middle.memo? q = before.memo? q) : before.Reruns rules after q := by
  unfold Reruns at reruns ⊢
  rw [← same]
  exact reruns

theorem Store.Advances.memo?_eq (advances : middle.Advances domain bound after)
    (consistent : after.Consistent domain) (current : middle.Current q) :
    after.memo? q = middle.memo? q := by
  obtain ⟨memo, found, now⟩ := current
  rw [found]
  exact advances.current consistent found now

theorem Store.Renews.advance (renews : before.Renews middle q)
    (advances : middle.Advances domain bound after) (consistent : after.Consistent domain) :
    before.Renews after q := by
  have kept := advances.memo?_eq consistent renews.current
  obtain ⟨old, found, earlier, found', unchanged⟩ := renews
  rw [← advances.revision] at earlier found'
  refine ⟨old, found, earlier, kept.trans found', ?_⟩
  intro dependency member
  obtain ⟨change, bounded, last⟩ := unchanged dependency member
  exact ⟨change, bounded, advances.lastChange consistent last⟩

theorem Store.Reruns.advance (reruns : before.Reruns rules middle q)
    (advances : middle.Advances domain bound after) (consistent : after.Consistent domain) :
    before.Reruns rules after q := by
  have kept := advances.memo?_eq consistent reruns.current
  obtain ⟨new, found, now, outdated⟩ := reruns
  rw [← advances.revision] at now outdated
  refine ⟨new, kept.trans found, now, ?_⟩
  intro old present
  obtain ⟨earlier, ⟨dependency, member, change, later, last⟩, backdated⟩ := outdated old present
  exact ⟨earlier, ⟨dependency, member, change, later, advances.lastChange consistent last⟩, backdated⟩

end Moves

/-- An evaluation that ran some queries, the latest first, each once and all within a scope. Of the
other queries, some within the scope were found valid again. -/
structure Progress (rules : Rules S) (scope : S.Query → Prop) (ran : List S.Query)
    (before after : Store S) : Prop where
  logged : after.executed = ran ++ before.executed
  once : ran.Nodup
  reran : ∀ q ∈ ran, scope q ∧ before.Reruns rules after q
  kept : ∀ q, q ∉ ran → after.memo? q = before.memo? q ∨ scope q ∧ before.Renews after q

namespace Progress

variable {scope scope' : S.Query → Prop} {ran ran' : List S.Query} {before middle after : Store S}

theorem refl (rules : Rules S) (scope : S.Query → Prop) (store : Store S) :
    Progress rules scope [] store store where
  logged := rfl
  once := .nil
  reran _ member := absurd member List.not_mem_nil
  kept _ _ := Or.inl rfl

theorem mono (progress : Progress rules scope ran before after)
    (wider : ∀ q, scope q → scope' q) : Progress rules scope' ran before after where
  logged := progress.logged
  once := progress.once
  reran q member := (progress.reran q member).imp_left (wider q)
  kept q absent := (progress.kept q absent).imp_right fun found => found.imp_left (wider q)

/-- What was run or found valid again is current from then on. So it is left alone afterwards. -/
theorem trans (first : Progress rules scope ran before middle)
    (second : Progress rules scope ran' middle after)
    (advances : middle.Advances domain bound after) (consistent : after.Consistent domain) :
    Progress rules scope (ran' ++ ran) before after where
  logged := by rw [second.logged, first.logged, List.append_assoc]
  once := by
    refine List.nodup_append.mpr ⟨second.once, first.once, ?_⟩
    rintro q later _ earlier rfl
    exact (second.reran q later).2.not_current advances.revision (first.reran q earlier).2.current
  reran q member := by
    rcases List.mem_append.mp member with later | earlier
    · obtain ⟨within, reruns⟩ := second.reran q later
      have stale := reruns.not_current advances.revision
      have same : middle.memo? q = before.memo? q := by
        rcases first.kept q (fun earlier => stale (first.reran q earlier).2.current) with same | found
        · exact same
        · exact absurd found.2.current stale
      exact ⟨within, reruns.of_memo?_eq same⟩
    · obtain ⟨within, reruns⟩ := first.reran q earlier
      exact ⟨within, reruns.advance advances consistent⟩
  kept q absent := by
    rw [List.mem_append, not_or] at absent
    rcases first.kept q absent.2 with same | ⟨within, renews⟩
    · rcases second.kept q absent.1 with same' | ⟨within, renews⟩
      · exact Or.inl (same'.trans same)
      · exact Or.inr ⟨within, renews.of_memo?_eq same⟩
    · exact Or.inr ⟨within, renews.advance advances consistent⟩

/-- A query with an outdated memo that is current afterwards was run exactly if something that the
memo was made from has changed. -/
theorem mem_iff (progress : Progress rules scope ran before after) {q : S.Query} {old : Memo S q}
    (found : before.memo? q = some old) (stale : old.verifiedAt < after.revision)
    (current : after.Current q) :
    q ∈ ran ↔ ∃ dependency ∈ old.dependencies, ∃ change > old.verifiedAt,
      after.LastChange dependency change := by
  constructor
  · intro member
    obtain ⟨_, _, _, outdated⟩ := (progress.reran q member).2
    exact (outdated old found).2.1
  · rintro ⟨dependency, member, change, later, last⟩
    refine Decidable.byContradiction fun absent => ?_
    rcases progress.kept q absent with same | ⟨_, old', found', _, _, unchanged⟩
    · obtain ⟨memo, present, now⟩ := current
      rw [same, found] at present
      cases present
      exact Nat.ne_of_lt stale now
    · rw [found] at found'
      cases found'
      obtain ⟨change', earlier, last'⟩ := unchanged dependency member
      rw [last.unique last'] at later
      exact Nat.not_lt.mpr earlier later

/-- What was not run, or was run with the same result, has not changed. -/
theorem changedAt_eq (progress : Progress rules scope ran before after) {q : S.Query}
    {old new : Memo S q} (found : before.memo? q = some old) (found' : after.memo? q = some new)
    (same : q ∈ ran → rules.same q old.value new.value = true) : new.changedAt = old.changedAt := by
  by_cases member : q ∈ ran
  · obtain ⟨_, new', present, _, outdated⟩ := progress.reran q member
    rw [found'] at present
    cases present
    exact (outdated old found).2.2 (same member)
  · rcases progress.kept q member with kept | ⟨_, old', present, _, present', _⟩
    · rw [kept, found] at found'
      cases found'
      rfl
    · rw [found] at present
      cases present
      rw [present'] at found'
      cases found'
      rfl

end Progress

/-- What fetching a query runs. -/
def Progresses (domain : Domain rules) (q : S.Query) (action : Engine S (Stamped (S.Result q))) :
    Prop :=
  ∀ store, store.Consistent domain →
    ∃ ran, Progress rules (rules.Needs store.values q) ran store (action.run store).2

section Steps

variable (fetch : (q : S.Query) → S.rank q < bound → Engine S (Stamped (S.Result q)))
variable (fetches : ∀ q lower, domain.query q → Fetches domain q (fetch q lower))
variable (progresses : ∀ q lower, domain.query q → Progresses domain q (fetch q lower))

include fetches progresses

/-- Running a program asks what a plain run of a similar program asks. -/
theorem Program.traced_progress {post : α → Prop} {related : α → α → Prop}
    {program program' : Program S bound α}
    (similar : program.Similar domain.alike related program')
    (within : program.Within domain.field domain.value domain.query domain.result post)
    (trace : Trace S bound) (store : Store S) (consistent : store.Consistent domain) :
    ∃ ran, Progress rules (program'.Needs rules store.values) ran store
      ((program.traced fetch trace).run store).2 := by
  induction similar generalizing trace store with
  | done => exact ⟨[], .refl ..⟩
  | @read f next next' _ ih =>
    obtain ⟨own, go⟩ := within
    rw [Program.traced_read_run]
    obtain ⟨ran, progress⟩ :=
      ih (store.values f) (go _ (consistent.permitted f own)) _ store consistent
    exact ⟨ran, progress.mono fun _ => .read⟩
  | @ask q lower next next' _ ih =>
    obtain ⟨own, go⟩ := within
    have fetched := fetches q lower own store consistent
    obtain ⟨ran, progress⟩ := progresses q lower own store consistent
    have go' := go _ fetched.permitted
    obtain ⟨ran', progress'⟩ := ih _ _ fetched.alike go'
      (trace.note (.query q lower) ((fetch q lower).run store).1.changedAt) _ fetched.consistent
    have traced := Program.traced_run fetch fetches _ go'
      (trace.note (.query q lower) ((fetch q lower).run store).1.changedAt) _ fetched.consistent
    rw [fetched.advances.values] at progress'
    rw [Program.traced_ask_run]
    exact ⟨ran' ++ ran, (progress.mono fun _ => .head).trans (progress'.mono fun _ => .tail)
      traced.advances traced.consistent⟩

/-- Looking for changes among what a program read asks what a plain run asks: as long as no change
has come up, the program is still on its way. -/
theorem unchangedSince_progress {since : Revision} {related : α → α → Prop}
    {program program' : Program S bound α} {dependencies : List (Dependency S bound)} {result : α}
    {field : (f : S.Field) → S.Value f → Prop} {query : (q : S.Query) → S.Result q → Prop}
    (reads : program.Reads field query dependencies result)
    (similar : program.Similar domain.alike related program')
    (store : Store S) (consistent : store.Consistent domain)
    (fields : ∀ f value, field f value → store.FieldThen domain since f value)
    (queries : ∀ q value, query q value → store.QueryThen domain since q value) :
    ∃ ran, Progress rules (program'.Needs rules store.values) ran store
      ((unchangedSince fetch since dependencies).run store).2 := by
  induction reads generalizing program' store with
  | done => exact ⟨[], .refl ..⟩
  | read answered rest ih =>
    cases similar with
    | read similar =>
      rw [unchangedSince_field_run]
      split
      · exact ⟨[], .refl ..⟩
      · rename_i old
        obtain ⟨_, same⟩ := fields _ _ answered
        obtain ⟨ran, progress⟩ := ih (similar _) store consistent fields queries
        rw [← same (Nat.le_of_not_lt old)] at progress
        exact ⟨ran, progress.mono fun _ => .read⟩
  | @ask asked lower next answer later result answered rest ih =>
    cases similar with
    | ask similar =>
      obtain ⟨own, _⟩ := queries _ _ answered
      have fetched := fetches asked lower own store consistent
      obtain ⟨ran, progress⟩ := progresses asked lower own store consistent
      obtain ⟨memo, found, now, remembered, changed⟩ := fetched.remembered
      rw [unchangedSince_query_run]
      split
      · exact ⟨ran, progress.mono fun _ => .head⟩
      · rename_i old
        -- The answer of then is like the one of now, so the program goes on as it did.
        have same : domain.alike asked answer (rules.evaluate store.values asked) := by
          obtain ⟨_, memo', found', _, unchanged⟩ :=
            fetched.advances.queryThen (queries _ _ answered)
          rw [found] at found'
          cases found'
          have then_ := unchanged (changed ▸ Nat.le_of_not_lt old)
          have now' := fetched.alike
          rw [← remembered] at now'
          exact (domain.equivalence asked).trans ((domain.equivalence asked).symm then_) now'
        obtain ⟨ran', progress'⟩ := ih (similar _ _ same) _ fetched.consistent
          (fun f value known => fetched.advances.fieldThen (fields f value known))
          (fun q value known => fetched.advances.queryThen (queries q value known))
        have remaining := rest.imp
          (fun f value _ known => fetched.advances.fieldThen (fields f value known))
          (fun q _ value _ known => fetched.advances.queryThen (queries q value known))
        have searched := unchangedSince_run fetch fetches since later
          (remaining.permitted) _ fetched.consistent
        rw [fetched.advances.values] at progress'
        exact ⟨ran' ++ ran, (progress.mono fun _ => .head).trans (progress'.mono fun _ => .tail)
          searched.advances searched.consistent⟩

end Steps

/-- Running a query comes before what it asks for. It is remembered at the end, out of reach of the
queries that it asked for. -/
theorem Progress.execute {q : S.Query} {ran : List S.Query} {store middle : Store S}
    {memo : Memo S q}
    (progress : Progress rules ((rules.program q).Needs rules values) ran
      { store with executed := q :: store.executed } middle)
    (advances : middle.Advances domain bound (middle.remember q memo))
    (consistent : (middle.remember q memo).Consistent domain)
    (reruns : store.Reruns rules (middle.remember q memo) q) :
    Progress rules (rules.Needs values q) (ran ++ [q]) store (middle.remember q memo) := by
  have absent : q ∉ ran := fun member => Nat.lt_irrefl _ (progress.reran q member).1.rank_lt
  refine ⟨?_, ?_, ?_, ?_⟩
  · exact progress.logged.trans (by simp)
  · refine List.nodup_append.mpr ⟨progress.once, by simp, ?_⟩
    rintro other member _ own rfl
    exact absent (List.mem_singleton.mp own ▸ member)
  · intro other member
    rcases List.mem_append.mp member with earlier | own
    · obtain ⟨needed, reruns'⟩ := progress.reran other earlier
      exact ⟨needed.of_rules, reruns'.advance advances consistent⟩
    · rw [List.mem_singleton.mp own]
      exact ⟨.self q, reruns⟩
  · intro other unlisted
    rw [List.mem_append, List.mem_singleton, not_or] at unlisted
    rcases progress.kept other unlisted.1 with same | ⟨needed, renews⟩
    · exact Or.inl ((Store.memo?_remember_of_ne unlisted.2 ..).trans same)
    · exact Or.inr ⟨needed.of_rules, renews.advance advances consistent⟩

/-- What was remembered is found valid again after a search that ran some queries. -/
theorem Progress.renew {q : S.Query} {ran : List S.Query} {store middle : Store S} {memo : Memo S q}
    (progress : Progress rules ((rules.program q).Needs rules values) ran store middle)
    (advances : middle.Advances domain bound (middle.remember q memo))
    (consistent : (middle.remember q memo).Consistent domain)
    (renews : store.Renews (middle.remember q memo) q) :
    Progress rules (rules.Needs values q) ran store (middle.remember q memo) where
  logged := progress.logged
  once := progress.once
  reran other member := by
    obtain ⟨needed, reruns⟩ := progress.reran other member
    exact ⟨needed.of_rules, reruns.advance advances consistent⟩
  kept other absent := by
    by_cases own : other = q
    · subst own
      exact Or.inr ⟨.self other, renews⟩
    · rcases progress.kept other absent with same | ⟨needed, renews'⟩
      · exact Or.inl ((Store.memo?_remember_of_ne own ..).trans same)
      · exact Or.inr ⟨needed.of_rules, renews'.advance advances consistent⟩

/-- A search for changes among what a memo was made from. -/
theorem Rules.search_progress {q : S.Query}
    (fetches : ∀ asked, S.rank asked < S.rank q → domain.query asked →
      Fetches domain asked (rules.fetch asked))
    (progresses : ∀ asked, S.rank asked < S.rank q → domain.query asked →
      Progresses domain asked (rules.fetch asked))
    {store : Store S} (consistent : store.Consistent domain) {memo : Memo S q}
    (found : store.memo? q = some memo) :
    ∃ ran, Progress rules ((rules.program q).Needs rules store.values) ran store
      ((rules.search memo).run store).2 :=
  unchangedSince_progress (fun asked _ => rules.fetch asked) fetches progresses
    (consistent.valid q memo found).justified (domain.similar q) store consistent
    (fun _ _ known => known) (fun _ _ known => known)

theorem Rules.execute_progress {q : S.Query} (own : domain.query q)
    (fetches : ∀ asked, S.rank asked < S.rank q → domain.query asked →
      Fetches domain asked (rules.fetch asked))
    (progresses : ∀ asked, S.rank asked < S.rank q → domain.query asked →
      Progresses domain asked (rules.fetch asked))
    {store : Store S} (consistent : store.Consistent domain) (outdated : store.Outdated q) :
    ∃ ran, Progress rules (rules.Needs store.values q) ran store
      ((rules.execute q (fun asked _ => rules.fetch asked) (store.memo? q)).run store).2 := by
  let fetch := fun asked (_ : S.rank asked < S.rank q) => rules.fetch asked
  have begun : Store.Consistent domain { store with executed := q :: store.executed } :=
    consistent.logged _
  have traced := rules.ran_traced own fetch fetches store consistent
  obtain ⟨advances, result⟩ := rules.ran_remembered own fetch fetches store consistent outdated
  obtain ⟨ran, progress⟩ := Program.traced_progress fetch fetches progresses (domain.similar q)
    (domain.closed q own) {} _ begun
  refine ⟨ran ++ [q], progress.execute advances result ?_⟩
  refine ⟨_, Store.memo?_remember_self .., rfl, ?_⟩
  intro old found
  obtain ⟨earlier, dependency, member, change, later, last⟩ := outdated old found
  have last : Store.LastChange { store with executed := q :: store.executed } dependency change :=
    last
  refine ⟨Nat.lt_of_lt_of_eq earlier traced.advances.revision.symm,
    ⟨dependency, member, change, later, ?_⟩, ?_⟩
  · exact advances.lastChange result (traced.advances.lastChange traced.consistent last)
  · intro same
    simp only [found, changeOf] at same ⊢
    rw [if_pos same]

/-- Fetching a query runs only what a plain run needs, and each of it once. By induction on the
rank, as for consistency. -/
theorem Rules.fetch_progress (q : S.Query) (own : domain.query q) :
    Progresses domain q (rules.fetch q) := by
  intro store consistent
  have fetches : ∀ asked, S.rank asked < S.rank q → domain.query asked →
      Fetches domain asked (rules.fetch asked) :=
    fun asked _ permitted => fetch_fetches asked permitted
  have progresses : ∀ asked, S.rank asked < S.rank q → domain.query asked →
      Progresses domain asked (rules.fetch asked) :=
    fun asked _ permitted => fetch_progress asked permitted
  have answered := rules.fetch_answered fetches store consistent
  generalize (rules.fetch q).run store = outcome at answered ⊢
  cases answered with
  | current => exact ⟨[], .refl ..⟩
  | @renewed memo after found earlier outcome searched =>
    obtain ⟨ran, progress⟩ := rules.search_progress fetches progresses consistent found
    rw [outcome] at progress
    obtain ⟨advances, result⟩ := searched.renewed found earlier
    refine ⟨ran, progress.renew advances result ?_⟩
    refine ⟨memo, found, Nat.lt_of_lt_of_eq earlier searched.advances.revision.symm,
      Store.memo?_remember_self .., ?_⟩
    intro dependency member
    obtain ⟨change, bounded, last⟩ := searched.unchanged rfl dependency member
    exact ⟨change, bounded, advances.lastChange result last⟩
  | missing missing =>
    exact execute_progress own fetches progresses consistent
      (by simp [Store.Outdated, missing])
  | outdated found earlier outcome searched =>
    obtain ⟨ran, progress⟩ := rules.search_progress fetches progresses consistent found
    rw [outcome] at progress
    have outdated := searched.outdated found earlier
    have executed := execute_fetches own (fun asked _ => rules.fetch asked) fetches _
      searched.consistent outdated
    obtain ⟨ran', progress'⟩ :=
      execute_progress own fetches progresses searched.consistent outdated
    rw [searched.advances.values] at progress'
    exact ⟨ran' ++ ran, (progress.mono fun _ needs => needs.of_rules).trans progress' executed.advances
      executed.consistent⟩
termination_by S.rank q

end TermBind.Incremental

import TermBind.Proofs.Incremental.Consistency

/-! Evaluation with a memory. Fetching a query keeps a store consistent and gives what is like the
result of a plain run. -/
namespace TermBind.Incremental

variable {S : Signature} {rules : Rules S} {bound : Nat} {α : Type}

section Steps

variable (fetch : (q : S.Query) → S.rank q < bound → Engine S (Stamped (S.Result q)))

theorem Program.traced_read_run (f : S.Field) (next : S.Value f → Program S bound α)
    (trace : Trace S bound) (store : Store S) :
    ((Program.read f next).traced fetch trace).run store =
      ((next (store.values f)).traced fetch (trace.note (.field f) (store.stamps f))).run store :=
  rfl

theorem Program.traced_ask_run (q : S.Query) (lower : S.rank q < bound)
    (next : S.Result q → Program S bound α) (trace : Trace S bound) (store : Store S) :
    ((Program.ask q lower next).traced fetch trace).run store =
      ((next ((fetch q lower).run store).1.value).traced fetch
        (trace.note (.query q lower) ((fetch q lower).run store).1.changedAt)).run
          ((fetch q lower).run store).2 :=
  rfl

theorem unchangedSince_field_run (revision : Revision) (f : S.Field)
    (rest : List (Dependency S bound)) (store : Store S) :
    (unchangedSince fetch revision (.field f :: rest)).run store =
      if revision < store.stamps f then (false, store)
      else (unchangedSince fetch revision rest).run store := by
  change (if revision < store.stamps f then (return false : Engine S Bool)
    else unchangedSince fetch revision rest).run store = _
  split <;> rfl

theorem unchangedSince_query_run (revision : Revision) (q : S.Query) (lower : S.rank q < bound)
    (rest : List (Dependency S bound)) (store : Store S) :
    (unchangedSince fetch revision (.query q lower :: rest)).run store =
      if revision < ((fetch q lower).run store).1.changedAt then (false, ((fetch q lower).run store).2)
      else (unchangedSince fetch revision rest).run ((fetch q lower).run store).2 := by
  change (if revision < ((fetch q lower).run store).1.changedAt then (return false : Engine S Bool)
    else unchangedSince fetch revision rest).run ((fetch q lower).run store).2 = _
  split <;> rfl

end Steps

theorem Rules.changeOf_le {q : S.Query} {old : Option (Memo S q)} {value : S.Result q}
    {changedAt limit : Revision} (bounded : changedAt ≤ limit)
    (earlier : ∀ memo, old = some memo → memo.changedAt ≤ limit) :
    rules.changeOf q old value changedAt ≤ limit := by
  cases old with
  | none => exact bounded
  | some memo =>
    simp only [changeOf]
    split
    · exact earlier memo rfl
    · exact bounded

variable [DecidableEq S.Query] {domain : Domain rules}

/-- What fetching a query does to a consistent store. -/
structure Fetched (domain : Domain rules) (q : S.Query) (before : Store S)
    (outcome : Stamped (S.Result q) × Store S) : Prop where
  advances : before.Advances domain (S.rank q + 1) outcome.2
  consistent : outcome.2.Consistent domain
  remembered : ∃ memo, outcome.2.memo? q = some memo ∧ memo.verifiedAt = outcome.2.revision ∧
    memo.value = outcome.1.value ∧ memo.changedAt = outcome.1.changedAt

def Fetches (domain : Domain rules) (q : S.Query) (action : Engine S (Stamped (S.Result q))) :
    Prop :=
  ∀ store, store.Consistent domain → Fetched domain q store (action.run store)

/-- What running a program with a trace does to a consistent store: the result was reached by
answers that hold now, and none of them changed after the trace says. -/
structure Traced (domain : Domain rules) (post : α → Prop) (program : Program S bound α)
    (trace : Trace S bound) (before : Store S) (outcome : (α × Trace S bound) × Store S) :
    Prop where
  advances : before.Advances domain bound outcome.2
  consistent : outcome.2.Consistent domain
  post : post outcome.1.1
  grows : trace.changedAt ≤ outcome.1.2.changedAt
  bounded : trace.changedAt ≤ before.revision → outcome.1.2.changedAt ≤ before.revision
  reads : ∃ dependencies,
    outcome.1.2.dependencies = dependencies.reverse ++ trace.dependencies ∧
    program.Reads (outcome.2.FieldNow domain outcome.1.2.changedAt)
      (outcome.2.QueryNow domain outcome.1.2.changedAt) dependencies outcome.1.1

theorem Fetched.permitted {q : S.Query} {before : Store S}
    {outcome : Stamped (S.Result q) × Store S} (fetched : Fetched domain q before outcome) :
    domain.result q outcome.1.value := by
  obtain ⟨memo, found, _, same, _⟩ := fetched.remembered
  rw [← same]
  exact (fetched.consistent.valid q memo found).permitted

theorem Fetched.changedAt_le {q : S.Query} {before : Store S}
    {outcome : Stamped (S.Result q) × Store S} (fetched : Fetched domain q before outcome) :
    outcome.1.changedAt ≤ outcome.2.revision := by
  obtain ⟨memo, found, _, _, changed⟩ := fetched.remembered
  have valid := fetched.consistent.valid q memo found
  rw [← changed]
  exact Nat.le_trans valid.ordered valid.verified

theorem Fetched.alike {q : S.Query} {before : Store S} {outcome : Stamped (S.Result q) × Store S}
    (fetched : Fetched domain q before outcome) :
    domain.alike q outcome.1.value (rules.evaluate before.values q) := by
  obtain ⟨memo, found, now, same, _⟩ := fetched.remembered
  rw [← same, ← fetched.advances.values]
  exact (fetched.consistent.replayed found now).2

theorem Traced.read {post : α → Prop} {f : S.Field} {next : S.Value f → Program S bound α}
    {trace : Trace S bound} {store : Store S} {outcome : (α × Trace S bound) × Store S}
    (own : domain.field f) (consistent : store.Consistent domain)
    (rest : Traced domain post (next (store.values f)) (trace.note (.field f) (store.stamps f))
      store outcome) :
    Traced domain post (.read f next) trace store outcome where
  advances := rest.advances
  consistent := rest.consistent
  post := rest.post
  grows := Nat.le_trans (Nat.le_max_left ..) rest.grows
  bounded before := rest.bounded (Nat.max_le.mpr ⟨before, consistent.stamped f⟩)
  reads := by
    obtain ⟨dependencies, listed, reads⟩ := rest.reads
    have known : store.FieldNow domain (store.stamps f) f (store.values f) :=
      ⟨own, rfl, Nat.le_refl _⟩
    have stamped := Nat.le_trans (Nat.le_max_right ..) rest.grows
    refine ⟨.field f :: dependencies, ?_, .read (rest.advances.fieldNow stamped known) reads⟩
    rw [listed]
    simp [Trace.note]

theorem Traced.ask {post : α → Prop} {q : S.Query} {lower : S.rank q < bound}
    {next : S.Result q → Program S bound α} {trace : Trace S bound} {before : Store S}
    {answer : Stamped (S.Result q) × Store S} {outcome : (α × Trace S bound) × Store S}
    (own : domain.query q) (fetched : Fetched domain q before answer)
    (rest : Traced domain post (next answer.1.value)
      (trace.note (.query q lower) answer.1.changedAt) answer.2 outcome) :
    Traced domain post (.ask q lower next) trace before outcome where
  advances := (fetched.advances.mono lower).trans rest.advances
  consistent := rest.consistent
  post := rest.post
  grows := Nat.le_trans (Nat.le_max_left ..) rest.grows
  bounded earlier := by
    rw [← fetched.advances.revision] at earlier ⊢
    exact rest.bounded (Nat.max_le.mpr ⟨earlier, fetched.changedAt_le⟩)
  reads := by
    obtain ⟨dependencies, listed, reads⟩ := rest.reads
    obtain ⟨memo, found, now, same, changed⟩ := fetched.remembered
    have known : answer.2.QueryNow domain answer.1.changedAt q answer.1.value :=
      ⟨own, memo, found, now, same, Nat.le_of_eq changed⟩
    have stamped := Nat.le_trans (Nat.le_max_right ..) rest.grows
    refine ⟨.query q lower :: dependencies, ?_,
      .ask (rest.advances.queryNow rest.consistent stamped known) reads⟩
    rw [listed]
    simp [Trace.note]

theorem Program.traced_run {post : α → Prop}
    (fetch : (q : S.Query) → S.rank q < bound → Engine S (Stamped (S.Result q)))
    (fetches : ∀ q lower, domain.query q → Fetches domain q (fetch q lower))
    (program : Program S bound α)
    (within : program.Within domain.field domain.value domain.query domain.result post)
    (trace : Trace S bound) (store : Store S) (consistent : store.Consistent domain) :
    Traced domain post program trace store ((program.traced fetch trace).run store) := by
  induction program generalizing trace store with
  | done value =>
    exact ⟨.refl _ _, consistent, within, Nat.le_refl _, id, [], rfl, .done value⟩
  | read f next ih =>
    obtain ⟨own, go⟩ := within
    rw [Program.traced_read_run]
    exact .read own consistent (ih _ (go _ (consistent.permitted f own)) _ store consistent)
  | ask q lower next ih =>
    obtain ⟨own, go⟩ := within
    have fetched := fetches q lower own store consistent
    rw [Program.traced_ask_run]
    exact .ask own fetched (ih _ (go _ fetched.permitted) _ _ fetched.consistent)

/-- A dependency last changed in a revision, as far as that was found out now. -/
def Store.LastChange (store : Store S) : Dependency S bound → Revision → Prop
  | .field f, revision => store.stamps f = revision
  | .query q _, revision => ∃ memo, store.memo? q = some memo ∧
      memo.verifiedAt = store.revision ∧ memo.changedAt = revision

theorem Store.Advances.lastChange {before after : Store S} {larger : Nat}
    (advances : before.Advances domain larger after) (consistent : after.Consistent domain)
    {dependency : Dependency S bound} {revision : Revision}
    (change : before.LastChange dependency revision) : after.LastChange dependency revision := by
  cases dependency with
  | field f =>
    unfold Store.LastChange at change ⊢
    rw [advances.stamps]
    exact change
  | query q lower =>
    obtain ⟨memo, found, now, changed⟩ := change
    refine ⟨memo, advances.current consistent found now, ?_, changed⟩
    rw [advances.revision]
    exact now

/-- A dependency that a store may look up. -/
def Dependency.Permitted (domain : Domain rules) : Dependency S bound → Prop
  | .field f => domain.field f
  | .query q _ => domain.query q

/-- What looking for changes does to a consistent store. -/
structure Searched (revision : Revision) (domain : Domain rules)
    (dependencies : List (Dependency S bound)) (before : Store S) (outcome : Bool × Store S) :
    Prop where
  advances : before.Advances domain bound outcome.2
  consistent : outcome.2.Consistent domain
  unchanged : outcome.1 = true →
    ∀ dependency ∈ dependencies, ∃ change ≤ revision, outcome.2.LastChange dependency change
  changed : outcome.1 = false →
    ∃ dependency ∈ dependencies, ∃ change > revision, outcome.2.LastChange dependency change

theorem Searched.cons {revision change : Revision} {dependency : Dependency S bound}
    {rest : List (Dependency S bound)} {before middle : Store S} {outcome : Bool × Store S}
    (advances : before.Advances domain bound middle) (old : change ≤ revision)
    (last : middle.LastChange dependency change)
    (searched : Searched revision domain rest middle outcome) :
    Searched revision domain (dependency :: rest) before outcome where
  advances := advances.trans searched.advances
  consistent := searched.consistent
  unchanged none := by
    intro other member
    rcases List.mem_cons.mp member with rfl | later
    · exact ⟨change, old, searched.advances.lastChange searched.consistent last⟩
    · exact searched.unchanged none other later
  changed some := by
    obtain ⟨other, member, found⟩ := searched.changed some
    exact ⟨other, List.mem_cons_of_mem _ member, found⟩

theorem Searched.stop {revision change : Revision} {dependency : Dependency S bound}
    {rest : List (Dependency S bound)} {before after : Store S}
    (advances : before.Advances domain bound after) (consistent : after.Consistent domain)
    (new : revision < change) (last : after.LastChange dependency change) :
    Searched revision domain (dependency :: rest) before (false, after) where
  advances := advances
  consistent := consistent
  unchanged none := by simp at none
  changed _ := ⟨dependency, List.mem_cons_self .., change, new, last⟩

theorem unchangedSince_run
    (fetch : (q : S.Query) → S.rank q < bound → Engine S (Stamped (S.Result q)))
    (fetches : ∀ q lower, domain.query q → Fetches domain q (fetch q lower))
    (revision : Revision) (dependencies : List (Dependency S bound))
    (permitted : ∀ dependency ∈ dependencies, dependency.Permitted domain)
    (store : Store S) (consistent : store.Consistent domain) :
    Searched revision domain dependencies store
      ((unchangedSince fetch revision dependencies).run store) := by
  induction dependencies generalizing store with
  | nil =>
    exact {
      advances := .refl _ _
      consistent := consistent
      unchanged := by
        intro _ _ member
        cases member
      changed := by
        intro changed
        cases changed }
  | cons dependency rest ih =>
    have later : ∀ other ∈ rest, other.Permitted domain :=
      fun other member => permitted other (List.mem_cons_of_mem _ member)
    cases dependency with
    | field f =>
      rw [unchangedSince_field_run]
      split
      · rename_i new
        exact .stop (.refl _ _) consistent new rfl
      · rename_i old
        exact .cons (.refl _ _) (Nat.le_of_not_lt old) rfl (ih later store consistent)
    | query q lower =>
      have fetched := fetches q lower (permitted _ (List.mem_cons_self ..)) store consistent
      obtain ⟨memo, found, now, _, changed⟩ := fetched.remembered
      rw [unchangedSince_query_run]
      have advances := fetched.advances.mono (Nat.succ_le_of_lt lower)
      split
      · rename_i new
        exact .stop advances fetched.consistent new ⟨memo, found, now, changed⟩
      · rename_i old
        exact .cons advances (Nat.le_of_not_lt old) ⟨memo, found, now, changed⟩
          (ih later _ fetched.consistent)

/-- Answers that hold now changed no later than the latest change among them. -/
theorem Program.Reads.change_le {program : Program S bound α} {limit change : Revision}
    {store : Store S} {dependencies : List (Dependency S bound)} {result : α}
    (reads : program.Reads (store.FieldNow domain limit) (store.QueryNow domain limit)
      dependencies result)
    {dependency : Dependency S bound} (member : dependency ∈ dependencies)
    (last : store.LastChange dependency change) : change ≤ limit := by
  cases dependency with
  | field f =>
    obtain ⟨_, _, _, stamped⟩ := reads.field_of_mem member
    exact last ▸ stamped
  | query q lower =>
    obtain ⟨_, _, memo, found, _, _, old⟩ := reads.query_of_mem member
    obtain ⟨memo', found', _, changed⟩ := last
    rw [found] at found'
    cases found'
    exact changed ▸ old

/-- A program that was run before and is run again after one of its dependencies changed comes upon
a change, be it this one or an earlier one. -/
theorem Program.Reads.changed {program : Program S bound α} {post : α → α → Prop}
    (similar : program.Similar domain.alike post program) {since limit change : Revision}
    {store : Store S} {dependencies dependencies' : List (Dependency S bound)} {result result' : α}
    (reads : program.Reads (store.FieldThen domain since) (store.QueryThen domain since)
      dependencies result)
    (reads' : program.Reads (store.FieldNow domain limit) (store.QueryNow domain limit)
      dependencies' result')
    {dependency : Dependency S bound} (member : dependency ∈ dependencies)
    (last : store.LastChange dependency change) (new : since < change) : since < limit := by
  have parting := similar.meet
    (fun other => ∃ change, store.LastChange other change ∧ since < change) reads reads'
    (by
      intro f value value' known known'
      by_cases old : store.stamps f ≤ since
      · exact Or.inr ((known.2 old).symm.trans known'.2.1)
      · exact Or.inl ⟨_, rfl, Nat.lt_of_not_le old⟩)
    (by
      intro q lower value value' known known'
      obtain ⟨_, memo, found, _, same⟩ := known
      obtain ⟨_, memo', found', now, rfl, _⟩ := known'
      rw [found] at found'
      cases found'
      by_cases old : memo.changedAt ≤ since
      · exact Or.inr ((domain.equivalence q).symm (same old))
      · exact Or.inl ⟨_, ⟨memo, found, now, rfl⟩, Nat.lt_of_not_le old⟩)
  rcases parting with ⟨equal, _⟩ | ⟨other, member', change', last', new'⟩
  · rw [← equal] at member
    exact Nat.lt_of_lt_of_le new (reads'.change_le member last)
  · exact Nat.lt_of_lt_of_le new' (reads'.change_le member' last')

theorem Store.Consistent.remember {store : Store S} {q : S.Query} {memo : Memo S q}
    (consistent : store.Consistent domain) (valid : memo.Valid domain store)
    (follows : ∀ old, store.memo? q = some old → memo.Follows domain old) :
    store.Advances domain (S.rank q + 1) (store.remember q memo) ∧
      (store.remember q memo).Consistent domain := by
  have advances : store.Advances domain (S.rank q + 1) (store.remember q memo) := {
    values := rfl
    stamps := rfl
    revision := rfl
    memos := by
      intro other old found
      by_cases same : other = q
      · subst same
        exact ⟨memo, Store.memo?_remember_self .., follows old found⟩
      · rw [Store.memo?_remember_of_ne same]
        exact ⟨old, found, Or.inl rfl⟩
    kept := by
      intro other high
      apply Store.memo?_remember_of_ne
      rintro rfl
      exact Nat.not_succ_le_self _ high }
  refine ⟨advances, consistent.stamped, consistent.permitted, ?_⟩
  intro other found
  by_cases same : other = q
  · subst same
    rw [Store.memo?_remember_self]
    rintro ⟨rfl⟩
    exact advances.valid valid
  · rw [Store.memo?_remember_of_ne same]
    exact fun present => advances.valid (consistent.valid other found present)

theorem Store.Consistent.logged {store : Store S} (consistent : store.Consistent domain)
    (log : List S.Query) : { store with executed := log }.Consistent domain where
  stamped := consistent.stamped
  permitted := consistent.permitted
  valid q memo found := by
    have valid := consistent.valid q memo found
    exact ⟨valid.ordered, valid.verified, valid.permitted,
      valid.justified.imp (fun _ _ _ known => known) (fun _ _ _ _ known => known)⟩

/-- What is remembered of a run with a trace. -/
def Rules.memoOf (rules : Rules S) (q : S.Query) (old : Option (Memo S q))
    (ran : (S.Result q × Trace S (S.rank q)) × Store S) : Memo S q where
  value := ran.1.1
  dependencies := ran.1.2.dependencies.reverse
  verifiedAt := ran.2.revision
  changedAt := rules.changeOf q old ran.1.1 ran.1.2.changedAt

namespace Traced

variable {q : S.Query} {before : Store S} {ran : (S.Result q × Trace S (S.rank q)) × Store S}

theorem memoOf_valid (traced : Traced domain (domain.result q) (rules.program q) {} before ran)
    {old : Option (Memo S q)}
    (earlier : ∀ memo, old = some memo → memo.changedAt ≤ before.revision) :
    (rules.memoOf q old ran).Valid domain ran.2 where
  ordered := by
    change rules.changeOf .. ≤ ran.2.revision
    rw [traced.advances.revision]
    exact Rules.changeOf_le (traced.bounded (Nat.zero_le _)) earlier
  verified := Nat.le_refl _
  permitted := traced.post
  justified := by
    obtain ⟨dependencies, listed, reads⟩ := traced.reads
    have reversed : ran.1.2.dependencies.reverse = dependencies := by
      rw [listed]
      simp
    change (rules.program q).Reads _ _ ran.1.2.dependencies.reverse ran.1.1
    rw [reversed]
    apply reads.imp
    · exact fun f answer _ known => ⟨known.1, fun _ => known.2.1⟩
    · rintro asked lower answer _ ⟨permitted, _, found, now, rfl, _⟩
      exact ⟨permitted, _, found, Nat.le_of_eq now.symm, fun _ => (domain.equivalence asked).refl _⟩

/-- A result that was reached after a dependency of the old one changed takes the old one's place:
unless the two count as the same, the new one changed later than the old one was found valid. -/
theorem memoOf_follows (traced : Traced domain (domain.result q) (rules.program q) {} before ran)
    {old : Memo S q} (valid : old.Valid domain ran.2) (earlier : old.verifiedAt < ran.2.revision)
    {dependency : Dependency S (S.rank q)} (member : dependency ∈ old.dependencies)
    {change : Revision} (new : old.verifiedAt < change)
    (last : ran.2.LastChange dependency change) :
    (rules.memoOf q (some old) ran).Follows domain old := by
  refine Or.inr ⟨earlier, ?_⟩
  intro limit verified unchanged
  simp only [Rules.memoOf, Rules.changeOf] at unchanged
  split at unchanged
  · rename_i same
    have remembered := domain.faithful q _ _ valid.permitted traced.post same
    exact ⟨unchanged, (domain.equivalence q).symm remembered⟩
  · obtain ⟨dependencies, _, reads⟩ := traced.reads
    have later := valid.justified.changed (domain.similar q) reads member last new
    exact absurd later (Nat.not_lt.mpr (Nat.le_trans unchanged verified))

end Traced

/-- What is remembered of a query, if anything, was found out of date. -/
def Store.Outdated (store : Store S) (q : S.Query) : Prop :=
  ∀ memo, store.memo? q = some memo → memo.verifiedAt < store.revision ∧
    ∃ dependency ∈ memo.dependencies, ∃ change > memo.verifiedAt, store.LastChange dependency change

/-- A run of a query's program that is noted before it begins. -/
def Rules.ran (rules : Rules S) (q : S.Query)
    (fetch : (asked : S.Query) → S.rank asked < S.rank q → Engine S (Stamped (S.Result asked)))
    (store : Store S) : (S.Result q × Trace S (S.rank q)) × Store S :=
  ((rules.program q).traced fetch {}).run { store with executed := q :: store.executed }

section Execute

variable {q : S.Query} (own : domain.query q)
  (fetch : (asked : S.Query) → S.rank asked < S.rank q → Engine S (Stamped (S.Result asked)))
  (fetches : ∀ asked lower, domain.query asked → Fetches domain asked (fetch asked lower))
  (store : Store S) (consistent : store.Consistent domain)

include own fetches consistent

theorem Rules.ran_traced :
    Traced domain (domain.result q) (rules.program q) {} { store with executed := q :: store.executed }
      (rules.ran q fetch store) :=
  Program.traced_run fetch fetches _ (domain.closed q own) {} _ (consistent.logged _)

variable (outdated : store.Outdated q)

include outdated

/-- What comes of a run can be remembered in the place of what was found out of date. -/
theorem Rules.ran_remembered :
    (rules.ran q fetch store).2.Advances domain (S.rank q + 1)
        ((rules.ran q fetch store).2.remember q
          (rules.memoOf q (store.memo? q) (rules.ran q fetch store))) ∧
      ((rules.ran q fetch store).2.remember q
        (rules.memoOf q (store.memo? q) (rules.ran q fetch store))).Consistent domain := by
  have traced := rules.ran_traced own fetch fetches store consistent
  have kept : (rules.ran q fetch store).2.memo? q = store.memo? q :=
    traced.advances.kept q (Nat.le_refl _)
  have valid : (rules.memoOf q (store.memo? q) (rules.ran q fetch store)).Valid domain
      (rules.ran q fetch store).2 := by
    apply traced.memoOf_valid
    intro old found
    have valid := consistent.valid q old found
    exact Nat.le_trans valid.ordered valid.verified
  have follows : ∀ old, (rules.ran q fetch store).2.memo? q = some old →
      (rules.memoOf q (store.memo? q) (rules.ran q fetch store)).Follows domain old := by
    intro old found
    have valid := traced.consistent.valid q old found
    rw [kept] at found
    obtain ⟨earlier, dependency, member, change, new, last⟩ := outdated old found
    have last : Store.LastChange { store with executed := q :: store.executed } dependency change :=
      last
    rw [found]
    exact traced.memoOf_follows valid (Nat.lt_of_lt_of_eq earlier traced.advances.revision.symm)
      member new (traced.advances.lastChange traced.consistent last)
  exact traced.consistent.remember valid follows

/-- Running a query anew keeps a store consistent. -/
theorem Rules.execute_fetches :
    Fetched domain q store ((rules.execute q fetch (store.memo? q)).run store) := by
  have traced := rules.ran_traced own fetch fetches store consistent
  obtain ⟨advances, result⟩ := rules.ran_remembered own fetch fetches store consistent outdated
  have advanced := (traced.advances.mono (Nat.le_succ _)).trans advances
  exact {
    advances := ⟨advanced.values, advanced.stamps, advanced.revision, advanced.memos, advanced.kept⟩
    consistent := result
    remembered := ⟨_, Store.memo?_remember_self .., rfl, rfl, rfl⟩ }

end Execute

/-- The search for changes among what a memo was made from. -/
def Rules.search (rules : Rules S) {q : S.Query} (memo : Memo S q) : Engine S Bool :=
  unchangedSince (fun asked _ => rules.fetch asked) memo.verifiedAt memo.dependencies

/-- What fetching does with what is remembered. -/
def Rules.proceed (rules : Rules S) (q : S.Query) (revision : Revision) :
    Option (Memo S q) → Engine S (Stamped (S.Result q))
  | none => rules.execute q (fun asked _ => rules.fetch asked) none
  | some memo =>
    if memo.verifiedAt = revision then return ⟨memo.value, memo.changedAt⟩
    else do
      if ← rules.search memo then
        modify fun store => store.remember q { memo with verifiedAt := store.revision }
        return ⟨memo.value, memo.changedAt⟩
      else rules.execute q (fun asked _ => rules.fetch asked) (some memo)

theorem Rules.fetch_run (rules : Rules S) (q : S.Query) (store : Store S) :
    (rules.fetch q).run store = (rules.proceed q store.revision (store.memo? q)).run store := by
  rw [Rules.fetch]
  rfl

theorem Rules.fetch_run_none {q : S.Query} {store : Store S} (missing : store.memo? q = none) :
    (rules.fetch q).run store =
      (rules.execute q (fun asked _ => rules.fetch asked) none).run store := by
  rw [fetch_run, missing, proceed]

theorem Rules.fetch_run_now {q : S.Query} {store : Store S} {memo : Memo S q}
    (found : store.memo? q = some memo) (now : memo.verifiedAt = store.revision) :
    (rules.fetch q).run store = (⟨memo.value, memo.changedAt⟩, store) := by
  rw [fetch_run, found, proceed, if_pos now]
  rfl

theorem Rules.fetch_run_unchanged {q : S.Query} {store after : Store S} {memo : Memo S q}
    (found : store.memo? q = some memo) (earlier : memo.verifiedAt ≠ store.revision)
    (searched : (rules.search memo).run store = (true, after)) :
    (rules.fetch q).run store = (⟨memo.value, memo.changedAt⟩,
      after.remember q { memo with verifiedAt := after.revision }) := by
  rw [fetch_run, found, proceed, if_neg earlier]
  change StateT.run (if ((rules.search memo).run store).1 = true then _ else _)
    ((rules.search memo).run store).2 = _
  rw [searched]
  rfl

theorem Rules.fetch_run_changed {q : S.Query} {store after : Store S} {memo : Memo S q}
    (found : store.memo? q = some memo) (earlier : memo.verifiedAt ≠ store.revision)
    (searched : (rules.search memo).run store = (false, after)) :
    (rules.fetch q).run store =
      (rules.execute q (fun asked _ => rules.fetch asked) (some memo)).run after := by
  rw [fetch_run, found, proceed, if_neg earlier]
  change StateT.run (if ((rules.search memo).run store).1 = true then _ else _)
    ((rules.search memo).run store).2 = _
  rw [searched]
  rfl

/-- A memo none of whose dependencies changed is valid now. -/
theorem Memo.Valid.renew {store : Store S} {q : S.Query} {memo : Memo S q}
    (valid : memo.Valid domain store)
    (unchanged : ∀ dependency ∈ memo.dependencies,
      ∃ change ≤ memo.verifiedAt, store.LastChange dependency change) :
    { memo with verifiedAt := store.revision }.Valid domain store where
  ordered := Nat.le_trans valid.ordered valid.verified
  verified := Nat.le_refl _
  permitted := valid.permitted
  justified := by
    apply valid.justified.imp
    · intro f answer member known
      obtain ⟨_, old, rfl⟩ := unchanged _ member
      exact ⟨known.1, fun _ => known.2 old⟩
    · rintro asked lower answer member ⟨permitted, _, found, _, same⟩
      obtain ⟨_, old, _, found', now, rfl⟩ := unchanged _ member
      rw [found] at found'
      cases found'
      exact ⟨permitted, _, found, Nat.le_of_eq now.symm, fun _ => same old⟩

theorem Program.Reads.permitted {program : Program S bound α} {store : Store S} {since : Revision}
    {dependencies : List (Dependency S bound)} {result : α}
    (reads : program.Reads (store.FieldThen domain since) (store.QueryThen domain since)
      dependencies result) :
    ∀ dependency ∈ dependencies, dependency.Permitted domain := by
  intro dependency member
  cases dependency with
  | field f =>
    obtain ⟨_, own, _⟩ := reads.field_of_mem member
    exact own
  | query asked lower =>
    obtain ⟨_, own, _⟩ := reads.query_of_mem member
    exact own

section Search

variable {q : S.Query} {memo : Memo S q} {before after : Store S}

/-- The search leaves the memo that it is for in place, so that it can be renewed. -/
theorem Searched.renewed
    (searched : Searched memo.verifiedAt domain memo.dependencies before (true, after))
    (found : before.memo? q = some memo) (earlier : memo.verifiedAt < before.revision) :
    after.Advances domain (S.rank q + 1)
        (after.remember q { memo with verifiedAt := after.revision }) ∧
      (after.remember q { memo with verifiedAt := after.revision }).Consistent domain := by
  have kept : after.memo? q = some memo := (searched.advances.kept q (Nat.le_refl _)).trans found
  have renewed := (searched.consistent.valid q memo kept).renew (searched.unchanged rfl)
  have follows : ∀ old, after.memo? q = some old →
      Memo.Follows domain { memo with verifiedAt := after.revision } old := by
    intro old present
    rw [kept] at present
    cases present
    have later : memo.verifiedAt < after.revision :=
      Nat.lt_of_lt_of_eq earlier searched.advances.revision.symm
    exact Or.inr ⟨later, fun _ _ unchanged => ⟨unchanged, (domain.equivalence q).refl _⟩⟩
  exact searched.consistent.remember renewed follows

/-- A dependency that is newer than a memo puts the memo out of date. -/
theorem Searched.outdated
    (searched : Searched memo.verifiedAt domain memo.dependencies before (false, after))
    (found : before.memo? q = some memo) (earlier : memo.verifiedAt < before.revision) :
    after.Outdated q := by
  intro old present
  rw [searched.advances.kept q (Nat.le_refl _), found] at present
  cases present
  exact ⟨Nat.lt_of_lt_of_eq earlier searched.advances.revision.symm, searched.changed rfl⟩

end Search

/-- The ways in which a query can be answered: from what was found valid now, from what is found
valid after a search for changes, or by a run, be it that nothing was remembered or that the search
came upon a change. -/
inductive Rules.Answered (rules : Rules S) (domain : Domain rules) (q : S.Query) (store : Store S) :
    Stamped (S.Result q) × Store S → Prop where
  | current {memo : Memo S q} (found : store.memo? q = some memo)
      (now : memo.verifiedAt = store.revision) :
      Answered rules domain q store (⟨memo.value, memo.changedAt⟩, store)
  | renewed {memo : Memo S q} {after : Store S} (found : store.memo? q = some memo)
      (earlier : memo.verifiedAt < store.revision)
      (outcome : (rules.search memo).run store = (true, after))
      (searched : Searched memo.verifiedAt domain memo.dependencies store (true, after)) :
      Answered rules domain q store (⟨memo.value, memo.changedAt⟩,
        after.remember q { memo with verifiedAt := after.revision })
  | missing (missing : store.memo? q = none) :
      Answered rules domain q store
        ((rules.execute q (fun asked _ => rules.fetch asked) (store.memo? q)).run store)
  | outdated {memo : Memo S q} {after : Store S} (found : store.memo? q = some memo)
      (earlier : memo.verifiedAt < store.revision)
      (outcome : (rules.search memo).run store = (false, after))
      (searched : Searched memo.verifiedAt domain memo.dependencies store (false, after)) :
      Answered rules domain q store
        ((rules.execute q (fun asked _ => rules.fetch asked) (after.memo? q)).run after)

theorem Rules.fetch_answered {q : S.Query}
    (fetches : ∀ asked, S.rank asked < S.rank q → domain.query asked →
      Fetches domain asked (rules.fetch asked))
    (store : Store S) (consistent : store.Consistent domain) :
    rules.Answered domain q store ((rules.fetch q).run store) := by
  cases found : store.memo? q with
  | none =>
    rw [fetch_run_none found, ← found]
    exact .missing found
  | some memo =>
    have valid := consistent.valid q memo found
    by_cases now : memo.verifiedAt = store.revision
    · rw [fetch_run_now found now]
      exact .current found now
    have earlier : memo.verifiedAt < store.revision := Nat.lt_of_le_of_ne valid.verified now
    have searched : Searched memo.verifiedAt domain memo.dependencies store
        ((rules.search memo).run store) :=
      unchangedSince_run (fun asked _ => rules.fetch asked) fetches _ _
        valid.justified.permitted store consistent
    obtain ⟨unchanged, after, outcome⟩ : ∃ unchanged after,
        (rules.search memo).run store = (unchanged, after) := ⟨_, _, rfl⟩
    rw [outcome] at searched
    cases unchanged with
    | true =>
      rw [fetch_run_unchanged found now outcome]
      exact .renewed found earlier outcome searched
    | false =>
      have kept := (searched.advances.kept q (Nat.le_refl _)).trans found
      rw [fetch_run_changed found now outcome, ← kept]
      exact .outdated found earlier outcome searched

/-- Fetching keeps a store consistent. By induction on the rank: what a query asks for has a lower
rank, so its own memo stays in place while its dependencies are looked at. -/
theorem Rules.fetch_fetches (q : S.Query) (own : domain.query q) :
    Fetches domain q (rules.fetch q) := by
  intro store consistent
  have fetches : ∀ asked, S.rank asked < S.rank q → domain.query asked →
      Fetches domain asked (rules.fetch asked) :=
    fun asked _ permitted => fetch_fetches asked permitted
  have execute := execute_fetches own (fun asked _ => rules.fetch asked) fetches
  have answered := rules.fetch_answered fetches store consistent
  generalize (rules.fetch q).run store = outcome at answered ⊢
  cases answered with
  | current found now => exact ⟨.refl _ _, consistent, _, found, now, rfl, rfl⟩
  | renewed found earlier _ searched =>
    obtain ⟨advances, result⟩ := searched.renewed found earlier
    exact ⟨(searched.advances.mono (Nat.le_succ _)).trans advances, result, _,
      Store.memo?_remember_self .., rfl, rfl, rfl⟩
  | missing missing => exact execute store consistent (by simp [Store.Outdated, missing])
  | outdated found earlier _ searched =>
    have executed := execute _ searched.consistent (searched.outdated found earlier)
    exact ⟨(searched.advances.mono (Nat.le_succ _)).trans executed.advances, executed.consistent,
      executed.remembered⟩
termination_by S.rank q

/-- What fetching gives is like what a plain run gives. -/
theorem Store.Consistent.fetch_alike {store : Store S} (consistent : store.Consistent domain)
    {q : S.Query} (own : domain.query q) :
    domain.alike q ((rules.fetch q).run store).1.value (rules.evaluate store.values q) :=
  (Rules.fetch_fetches q own store consistent).alike

/-- What fetching gives in a store that remembers nothing is what a plain run gives. -/
theorem Store.fetch_value_of_empty {store : Store S} (empty : store.memos = [])
    (stamped : ∀ f, store.stamps f ≤ store.revision) (q : S.Query) :
    ((rules.fetch q).run store).1.value = rules.evaluate store.values q :=
  Consistent.fetch_alike (.of_empty (.pinned rules store.values) empty stamped fun _ _ => rfl)
    trivial

end TermBind.Incremental

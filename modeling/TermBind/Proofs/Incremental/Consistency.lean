import TermBind.Proofs.Incremental.Program
import TermBind.Proofs.Incremental.Replay

/-! Consistent stores. A remembered result was reached by answers that still hold, unless the stamp
of what gave the answer tells otherwise; edits and evaluation keep it so. -/
namespace TermBind.Incremental

variable {S : Signature} {rules : Rules S}

/-- The part of a system that a store is about: the fields and queries that may be named, and the
values they may have. Within it, results that count as the same are alike, and no program can tell
alike results of other queries apart, but for its own result up to likeness. -/
structure Domain (rules : Rules S) where
  field : S.Field → Prop
  value : (f : S.Field) → S.Value f → Prop
  query : S.Query → Prop
  result : (q : S.Query) → S.Result q → Prop
  alike : (q : S.Query) → S.Result q → S.Result q → Prop
  closed : ∀ q, query q → (rules.program q).Within field value query result (result q)
  similar : ∀ q, (rules.program q).Similar alike (alike q) (rules.program q)
  equivalence : ∀ q, Equivalence (alike q)
  faithful : ∀ q left right, result q left → result q right →
    rules.same q left right = true → alike q left right

/-- A domain that another one extends. -/
structure Domain.Extends (larger smaller : Domain rules) : Prop where
  field : ∀ f, smaller.field f → larger.field f
  query : ∀ q, smaller.query q → larger.query q
  result : ∀ q value, smaller.result q value → larger.result q value
  alike : ∀ q left right, smaller.alike q left right → larger.alike q left right

/-- The domain of one assignment of values, within which nothing ever changes. -/
def Domain.pinned (rules : Rules S) (values : (f : S.Field) → S.Value f) : Domain rules where
  field _ := True
  value f value := value = values f
  query _ := True
  result q value := value = rules.evaluate values q
  alike _ left right := left = right
  similar q := .refl (fun _ _ _ same => same) (rules.program q)
  equivalence _ := ⟨fun _ => rfl, Eq.symm, Eq.trans⟩
  closed q _ := by
    have within := Program.Within.of_run values (rules.evaluate values) (rules.program q)
    rw [Rules.evaluate]
    exact within
  faithful _ _ _ first second _ := first.trans second.symm

variable {domain : Domain rules}

/-- A memo that takes another one's place: it was found valid later, and has a value like the old
one unless it says that it changed after the other was found valid. -/
def Memo.Follows (domain : Domain rules) {q : S.Query} (new old : Memo S q) : Prop :=
  new = old ∨ (old.verifiedAt < new.verifiedAt ∧ ∀ revision ≤ old.verifiedAt,
    new.changedAt ≤ revision → old.changedAt ≤ revision ∧ domain.alike q new.value old.value)

theorem Memo.Follows.trans {q : S.Query} {new middle old : Memo S q}
    (second : new.Follows domain middle) (first : middle.Follows domain old) :
    new.Follows domain old := by
  rcases first with rfl | ⟨earlier, kept⟩
  · exact second
  rcases second with rfl | ⟨later, kept'⟩
  · exact Or.inr ⟨earlier, kept⟩
  refine Or.inr ⟨Nat.lt_trans earlier later, ?_⟩
  intro revision before unchanged
  obtain ⟨unchanged', same'⟩ :=
    kept' revision (Nat.le_trans before (Nat.le_of_lt earlier)) unchanged
  obtain ⟨unchanged'', same⟩ := kept revision before unchanged'
  exact ⟨unchanged'', (domain.equivalence q).trans same' same⟩

theorem Memo.Follows.verifiedAt_le {q : S.Query} {new old : Memo S q}
    (follows : new.Follows domain old) : old.verifiedAt ≤ new.verifiedAt := by
  rcases follows with rfl | ⟨earlier, _⟩
  · exact Nat.le_refl _
  · exact Nat.le_of_lt earlier

variable [DecidableEq S.Query]

namespace Store

theorem find?_filter {q other : S.Query} (different : other ≠ q)
    (memos : List ((query : S.Query) × Memo S query)) :
    find? other (memos.filter fun entry => entry.1 ≠ q) = find? other memos := by
  induction memos with
  | nil => rfl
  | cons entry rest ih =>
    by_cases own : entry.1 = q
    · have skipped : ¬ entry.1 = other := fun same => different (same.symm.trans own)
      rw [List.filter_cons_of_neg (by simpa using own), ih, find?, dif_neg skipped]
    · rw [List.filter_cons_of_pos (by simpa using own), find?, find?, ih]

@[simp] theorem memo?_remember_self (store : Store S) (q : S.Query) (memo : Memo S q) :
    (store.remember q memo).memo? q = some memo := by
  simp [memo?, remember, find?]

theorem memo?_remember_of_ne {q other : S.Query} (different : other ≠ q) (store : Store S)
    (memo : Memo S q) : (store.remember q memo).memo? other = store.memo? other := by
  have skipped : ¬ q = other := fun same => different same.symm
  unfold memo? remember
  rw [find?, dif_neg skipped, find?_filter different]

/-- A field had an answer in a revision: it has the answer still unless it was set later. -/
def FieldThen (domain : Domain rules) (store : Store S) (since : Revision) (f : S.Field)
    (answer : S.Value f) : Prop :=
  domain.field f ∧ (store.stamps f ≤ since → store.values f = answer)

/-- A query had an answer in a revision: it is remembered from then or later, with an answer like
that unless it changed later. -/
def QueryThen (domain : Domain rules) (store : Store S) (since : Revision) (q : S.Query)
    (answer : S.Result q) : Prop :=
  domain.query q ∧ ∃ memo, store.memo? q = some memo ∧ since ≤ memo.verifiedAt ∧
    (memo.changedAt ≤ since → domain.alike q memo.value answer)

/-- A field has an answer now and did not change after a revision. -/
def FieldNow (domain : Domain rules) (store : Store S) (limit : Revision) (f : S.Field)
    (answer : S.Value f) : Prop :=
  domain.field f ∧ store.values f = answer ∧ store.stamps f ≤ limit

/-- A query has an answer that was found valid now and did not change after a revision. -/
def QueryNow (domain : Domain rules) (store : Store S) (limit : Revision) (q : S.Query)
    (answer : S.Result q) : Prop :=
  domain.query q ∧ ∃ memo, store.memo? q = some memo ∧ memo.verifiedAt = store.revision ∧
    memo.value = answer ∧ memo.changedAt ≤ limit

end Store

/-- What a remembered result of a store says of itself holds, and the answers that it was reached
by were given in the revision in which it was last found valid. -/
structure Memo.Valid (domain : Domain rules) (store : Store S) {q : S.Query} (memo : Memo S q) :
    Prop where
  ordered : memo.changedAt ≤ memo.verifiedAt
  verified : memo.verifiedAt ≤ store.revision
  permitted : domain.result q memo.value
  justified : (rules.program q).Reads (store.FieldThen domain memo.verifiedAt)
    (store.QueryThen domain memo.verifiedAt) memo.dependencies memo.value

structure Store.Consistent (domain : Domain rules) (store : Store S) : Prop where
  stamped : ∀ f, store.stamps f ≤ store.revision
  permitted : ∀ f, domain.field f → domain.value f (store.values f)
  valid : ∀ q memo, store.memo? q = some memo → memo.Valid domain store

/-- What evaluating may do to a store: inputs stay, and memos of queries below a rank are followed
by others. -/
structure Store.Advances (domain : Domain rules) (bound : Nat) (before after : Store S) : Prop where
  values : after.values = before.values
  stamps : after.stamps = before.stamps
  revision : after.revision = before.revision
  memos : ∀ q old, before.memo? q = some old → ∃ new, after.memo? q = some new ∧
    new.Follows domain old
  kept : ∀ q, bound ≤ S.rank q → after.memo? q = before.memo? q

namespace Store.Advances

variable {bound larger : Nat} {before middle after : Store S}

theorem refl (bound : Nat) (store : Store S) : store.Advances domain bound store :=
  ⟨rfl, rfl, rfl, fun _ old found => ⟨old, found, Or.inl rfl⟩, fun _ _ => rfl⟩

theorem trans (first : before.Advances domain bound middle) (second : middle.Advances domain bound after) :
    before.Advances domain bound after where
  values := second.values.trans first.values
  stamps := second.stamps.trans first.stamps
  revision := second.revision.trans first.revision
  memos q old found := by
    obtain ⟨between, foundBetween, follows⟩ := first.memos q old found
    obtain ⟨new, foundNew, follows'⟩ := second.memos q between foundBetween
    exact ⟨new, foundNew, follows'.trans follows⟩
  kept q high := (second.kept q high).trans (first.kept q high)

theorem mono (advances : before.Advances domain bound after) (le : bound ≤ larger) :
    before.Advances domain larger after :=
  { advances with kept := fun q high => advances.kept q (Nat.le_trans le high) }

/-- A memo that was found valid now stays as it is. -/
theorem current (advances : before.Advances domain bound after) (consistent : after.Consistent domain)
    {q : S.Query} {memo : Memo S q} (found : before.memo? q = some memo)
    (now : memo.verifiedAt = before.revision) : after.memo? q = some memo := by
  obtain ⟨new, foundNew, follows⟩ := advances.memos q memo found
  rcases follows with rfl | ⟨later, _⟩
  · exact foundNew
  · have verified := (consistent.valid q new foundNew).verified
    rw [advances.revision, ← now] at verified
    exact absurd later (Nat.not_lt.mpr verified)

theorem fieldThen (advances : before.Advances domain bound after) {since : Revision} {f : S.Field}
    {answer : S.Value f} (known : before.FieldThen domain since f answer) :
    after.FieldThen domain since f answer := by
  obtain ⟨permitted, same⟩ := known
  refine ⟨permitted, ?_⟩
  rw [advances.stamps, advances.values]
  exact same

theorem queryThen (advances : before.Advances domain bound after) {since : Revision} {q : S.Query}
    {answer : S.Result q} (known : before.QueryThen domain since q answer) :
    after.QueryThen domain since q answer := by
  obtain ⟨permitted, old, found, verified, same⟩ := known
  obtain ⟨new, foundNew, follows⟩ := advances.memos q old found
  refine ⟨permitted, new, foundNew, Nat.le_trans verified follows.verifiedAt_le, ?_⟩
  intro unchanged
  rcases follows with rfl | ⟨_, kept⟩
  · exact same unchanged
  · obtain ⟨unchanged', equal⟩ := kept since verified unchanged
    exact (domain.equivalence q).trans equal (same unchanged')

theorem fieldNow (advances : before.Advances domain bound after) {limit limit' : Revision}
    (le : limit ≤ limit') {f : S.Field} {answer : S.Value f}
    (known : before.FieldNow domain limit f answer) : after.FieldNow domain limit' f answer := by
  obtain ⟨permitted, same, stamped⟩ := known
  refine ⟨permitted, ?_, ?_⟩
  · rw [advances.values]
    exact same
  · rw [advances.stamps]
    exact Nat.le_trans stamped le

theorem queryNow (advances : before.Advances domain bound after) (consistent : after.Consistent domain)
    {limit limit' : Revision} (le : limit ≤ limit') {q : S.Query} {answer : S.Result q}
    (known : before.QueryNow domain limit q answer) : after.QueryNow domain limit' q answer := by
  obtain ⟨permitted, memo, found, now, same, unchanged⟩ := known
  refine ⟨permitted, memo, advances.current consistent found now, ?_, same,
    Nat.le_trans unchanged le⟩
  rw [advances.revision]
  exact now

/-- A memo stays valid while evaluation goes on. -/
theorem valid (advances : before.Advances domain bound after) {q : S.Query} {memo : Memo S q}
    (valid : memo.Valid domain before) : memo.Valid domain after where
  ordered := valid.ordered
  verified := by
    rw [advances.revision]
    exact valid.verified
  permitted := valid.permitted
  justified := valid.justified.imp (fun _ _ _ => advances.fieldThen)
    (fun _ _ _ _ => advances.queryThen)

end Store.Advances

namespace Store.Consistent

variable {larger : Domain rules} {store : Store S}

/-- What a memo that was found valid now remembers is like what a plain run gives, and was made from
what a plain run reads. -/
theorem replayed (consistent : store.Consistent domain) {q : S.Query} {memo : Memo S q}
    (found : store.memo? q = some memo) (now : memo.verifiedAt = store.revision) :
    memo.dependencies = (rules.program q).dependencies store.values (rules.evaluate store.values) ∧
      domain.alike q memo.value (rules.evaluate store.values q) := by
  have valid := consistent.valid q memo found
  have plain := (rules.program q).reads_run store.values (rules.evaluate store.values)
  -- No stamp is later than now, so every answer that was given now holds still.
  have met := (domain.similar q).meet (fun _ => False) valid.justified plain
    (by
      intro f value value' known known'
      have unchanged : store.stamps f ≤ memo.verifiedAt := by
        rw [now]
        exact consistent.stamped f
      exact Or.inr ((known.2 unchanged).symm.trans known'))
    (by
      rintro asked lower value _ ⟨_, earlier, foundEarlier, verified, same⟩ rfl
      have validEarlier := consistent.valid asked earlier foundEarlier
      have nowEarlier : earlier.verifiedAt = store.revision :=
        Nat.le_antisymm validEarlier.verified (now ▸ verified)
      have unchanged : earlier.changedAt ≤ memo.verifiedAt := by
        rw [now, ← nowEarlier]
        exact validEarlier.ordered
      have remembered := (domain.equivalence asked).symm (same unchanged)
      exact Or.inr ((domain.equivalence asked).trans remembered
        (consistent.replayed foundEarlier nowEarlier).2))
  rcases met with ⟨read, alike⟩ | ⟨_, _, parted⟩
  · rw [Rules.evaluate]
    exact ⟨read.symm, alike⟩
  · exact parted.elim
termination_by S.rank q
decreasing_by exact lower

/-- What is consistent stays so when more may be named. -/
theorem extend (consistent : store.Consistent domain) (extends_ : larger.Extends domain)
    (permitted : ∀ f, larger.field f → larger.value f (store.values f)) :
    store.Consistent larger where
  stamped := consistent.stamped
  permitted := permitted
  valid q memo found := by
    have valid := consistent.valid q memo found
    refine { valid with permitted := extends_.result q _ valid.permitted, justified := ?_ }
    apply valid.justified.imp
    · exact fun f _ _ known => ⟨extends_.field f known.1, known.2⟩
    · rintro asked _ _ _ ⟨named, earlier, foundEarlier, verified, same⟩
      exact ⟨extends_.query asked named, earlier, foundEarlier, verified,
        fun unchanged => extends_.alike asked _ _ (same unchanged)⟩

/-- Nothing can be wrong where nothing is remembered. -/
theorem of_empty (domain : Domain rules) (empty : store.memos = [])
    (stamped : ∀ f, store.stamps f ≤ store.revision)
    (permitted : ∀ f, domain.field f → domain.value f (store.values f)) :
    store.Consistent domain where
  stamped := stamped
  permitted := permitted
  valid q memo found := by
    simp [Store.memo?, empty, Store.find?] at found

variable [DecidableEq S.Field]

/-- Setting a field begins a revision in which everything that read it is out of date. -/
theorem set (consistent : store.Consistent domain) (f : S.Field) (value : S.Value f)
    (permitted : domain.value f value) : (store.set f value).Consistent domain where
  stamped other := by
    simp only [Store.set, Store.place]
    split
    · exact Nat.le_refl _
    · exact Nat.le_succ_of_le (consistent.stamped other)
  permitted other own := by
    simp only [Store.set, Store.place]
    split
    · rename_i same
      subst same
      exact permitted
    · exact consistent.permitted other own
  valid q memo found := by
    have valid := consistent.valid q memo found
    have verified := valid.verified
    refine { valid with verified := Nat.le_succ_of_le verified, justified := ?_ }
    apply valid.justified.imp
    · rintro other answer _ ⟨own, same⟩
      refine ⟨own, ?_⟩
      simp only [Store.set, Store.place]
      intro unchanged
      split at unchanged
      · exact absurd (Nat.le_trans unchanged verified) (Nat.not_succ_le_self _)
      · rename_i different
        simpa [different] using same unchanged
    · exact fun _ _ _ _ known => known

/-- A field that nothing can have read yet may be given a value within a revision. -/
theorem create (consistent : store.Consistent domain) (f : S.Field) (value : S.Value f)
    (unread : ¬ domain.field f) : (store.create f value).Consistent domain where
  stamped other := by
    simp only [Store.create, Store.place]
    split
    · exact Nat.le_refl _
    · exact consistent.stamped other
  permitted other own := by
    have different : other ≠ f := by
      rintro rfl
      exact unread own
    simpa [Store.create, Store.place, different] using consistent.permitted other own
  valid q memo found := by
    have valid := consistent.valid q memo found
    refine { valid with justified := ?_ }
    apply valid.justified.imp
    · rintro other answer _ ⟨own, same⟩
      have different : other ≠ f := by
        rintro rfl
        exact unread own
      refine ⟨own, ?_⟩
      simpa [Store.create, Store.place, different] using same
    · exact fun _ _ _ _ known => known

end Store.Consistent
end TermBind.Incremental

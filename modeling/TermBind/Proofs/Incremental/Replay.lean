import TermBind.Incremental.Engine
import TermBind.Proofs.Incremental.Program

/-! What a program reads on the way to its result, given the answers it gets. -/
namespace TermBind.Incremental

variable {S : Signature} {bound : Nat} {α β : Type}

/-- A program comes to a result by answers that its fields and queries may give, naming its
dependencies in the order of reading. -/
inductive Program.Reads (field : (f : S.Field) → S.Value f → Prop)
    (query : (q : S.Query) → S.Result q → Prop) :
    Program S bound α → List (Dependency S bound) → α → Prop where
  | done (value : α) : Reads field query (.done value) [] value
  | read {asked : S.Field} {next : S.Value asked → Program S bound α}
      {answer : S.Value asked} {dependencies : List (Dependency S bound)} {result : α}
      (answered : field asked answer)
      (rest : Reads field query (next answer) dependencies result) :
      Reads field query (.read asked next) (.field asked :: dependencies) result
  | ask {asked : S.Query} {lower : S.rank asked < bound}
      {next : S.Result asked → Program S bound α} {answer : S.Result asked}
      {dependencies : List (Dependency S bound)} {result : α}
      (answered : query asked answer)
      (rest : Reads field query (next answer) dependencies result) :
      Reads field query (.ask asked lower next) (.query asked lower :: dependencies) result

namespace Program.Reads

variable {field field' : (f : S.Field) → S.Value f → Prop}
variable {query query' : (q : S.Query) → S.Result q → Prop}
variable {program : Program S bound α} {dependencies dependencies' : List (Dependency S bound)}
variable {result result' : α}

/-- The same answers may be had for other reasons, which only matter where they were read. -/
theorem imp (reads : program.Reads field query dependencies result)
    (fields : ∀ f value, .field f ∈ dependencies → field f value → field' f value)
    (queries : ∀ q lower value, .query q lower ∈ dependencies → query q value → query' q value) :
    program.Reads field' query' dependencies result := by
  induction reads with
  | done value => exact .done value
  | read answered rest ih =>
    apply Reads.read (fields _ _ (List.mem_cons_self ..) answered)
    exact ih (fun f value member => fields f value (List.mem_cons_of_mem _ member))
      (fun q lower value member => queries q lower value (List.mem_cons_of_mem _ member))
  | ask answered rest ih =>
    apply Reads.ask (queries _ _ _ (List.mem_cons_self ..) answered)
    exact ih (fun f value member => fields f value (List.mem_cons_of_mem _ member))
      (fun q lower value member => queries q lower value (List.mem_cons_of_mem _ member))

theorem field_of_mem (reads : program.Reads field query dependencies result) {f : S.Field}
    (member : .field f ∈ dependencies) : ∃ value, field f value := by
  induction reads with
  | done => cases member
  | read answered rest ih =>
    rcases List.mem_cons.mp member with same | later
    · cases same
      exact ⟨_, answered⟩
    · exact ih later
  | ask answered rest ih =>
    rcases List.mem_cons.mp member with same | later
    · cases same
    · exact ih later

theorem query_of_mem (reads : program.Reads field query dependencies result) {q : S.Query}
    {lower : S.rank q < bound} (member : .query q lower ∈ dependencies) :
    ∃ value, query q value := by
  induction reads with
  | done => cases member
  | read answered rest ih =>
    rcases List.mem_cons.mp member with same | later
    · cases same
    · exact ih later
  | ask answered rest ih =>
    rcases List.mem_cons.mp member with same | later
    · cases same
      exact ⟨_, answered⟩
    · exact ih later

end Program.Reads

/-- Two programs read and ask the same as long as they get alike answers, and then come to related
results. -/
inductive Program.Similar (alike : (q : S.Query) → S.Result q → S.Result q → Prop)
    (post : α → α → Prop) : Program S bound α → Program S bound α → Prop where
  | done {left right : α} (related : post left right) :
      Similar alike post (.done left) (.done right)
  | read {f : S.Field} {next next' : S.Value f → Program S bound α}
      (rest : ∀ answer, Similar alike post (next answer) (next' answer)) :
      Similar alike post (.read f next) (.read f next')
  | ask {q : S.Query} {lower : S.rank q < bound} {next next' : S.Result q → Program S bound α}
      (rest : ∀ answer answer', alike q answer answer' →
        Similar alike post (next answer) (next' answer')) :
      Similar alike post (.ask q lower next) (.ask q lower next')

namespace Program.Similar

variable {alike : (q : S.Query) → S.Result q → S.Result q → Prop}

theorem bind {middle : α → α → Prop} {post : β → β → Prop} {program program' : Program S bound α}
    {next next' : α → Program S bound β} (first : program.Similar alike middle program')
    (second : ∀ left right, middle left right → (next left).Similar alike post (next' right)) :
    (program >>= next).Similar alike post (program' >>= next') := by
  induction first with
  | done related => exact second _ _ related
  | read _ ih => exact .read ih
  | ask _ ih => exact .ask ih

theorem imp {post post' : α → α → Prop} {program program' : Program S bound α}
    (similar : program.Similar alike post program')
    (weaker : ∀ left right, post left right → post' left right) :
    program.Similar alike post' program' := by
  induction similar with
  | done related => exact .done (weaker _ _ related)
  | read _ ih => exact .read ih
  | ask _ ih => exact .ask ih

theorem mapM {items : List α} {f : α → Program S bound β}
    (each : ∀ item ∈ items, (f item).Similar alike Eq (f item)) :
    (items.mapM f).Similar alike Eq (items.mapM f) := by
  induction items with
  | nil => exact .done rfl
  | cons head rest ih =>
    rw [List.mapM_cons]
    apply bind (each head (List.mem_cons_self ..))
    rintro outcome _ rfl
    apply bind (ih fun item member => each item (List.mem_cons_of_mem _ member))
    rintro outcomes _ rfl
    exact .done rfl

/-- A program that can ask nothing is similar to itself. -/
theorem of_zero (program : Program S 0 α) : program.Similar alike Eq program := by
  induction program with
  | done value => exact .done rfl
  | read f next ih => exact .read ih
  | ask q lower next => exact absurd lower (Nat.not_lt_zero _)

/-- Where only equal answers are alike, a program is similar to itself. -/
theorem refl (equal : ∀ q answer answer', alike q answer answer' → answer = answer')
    (program : Program S bound α) : program.Similar alike Eq program := by
  induction program with
  | done value => exact .done rfl
  | read f next ih => exact .read ih
  | ask q lower next ih =>
    apply Similar.ask
    intro answer answer' same
    obtain rfl := equal q answer answer' same
    exact ih answer

variable {field field' : (f : S.Field) → S.Value f → Prop}
variable {query query' : (q : S.Query) → S.Result q → Prop}
variable {program program' : Program S bound α}
variable {dependencies dependencies' : List (Dependency S bound)}
variable {result result' : α} {post : α → α → Prop}

/-- Runs of similar programs part only at something that both have read. -/
theorem meet (similar : program.Similar alike post program') (changed : Dependency S bound → Prop)
    (reads : program.Reads field query dependencies result)
    (reads' : program'.Reads field' query' dependencies' result')
    (fields : ∀ f value value', field f value → field' f value' →
      changed (.field f) ∨ value = value')
    (queries : ∀ q lower value value', query q value → query' q value' →
      changed (.query q lower) ∨ alike q value value') :
    dependencies' = dependencies ∧ post result result' ∨
      ∃ dependency, dependency ∈ dependencies' ∧ changed dependency := by
  induction similar generalizing dependencies dependencies' result result' with
  | done related =>
    cases reads
    cases reads'
    exact Or.inl ⟨rfl, related⟩
  | read _ ih =>
    cases reads with
    | read answered rest =>
      cases reads' with
      | read answered' rest' =>
        rcases fields _ _ _ answered answered' with parted | same
        · exact Or.inr ⟨_, List.mem_cons_self .., parted⟩
        · subst same
          rcases ih _ rest rest' with ⟨equal, related⟩ | ⟨dependency, member, parted⟩
          · exact Or.inl ⟨by rw [equal], related⟩
          · exact Or.inr ⟨dependency, List.mem_cons_of_mem _ member, parted⟩
  | ask _ ih =>
    cases reads with
    | ask answered rest =>
      cases reads' with
      | ask answered' rest' =>
        rcases queries _ _ _ _ answered answered' with parted | same
        · exact Or.inr ⟨_, List.mem_cons_self .., parted⟩
        · rcases ih _ _ same rest rest' with ⟨equal, related⟩ | ⟨dependency, member, parted⟩
          · exact Or.inl ⟨by rw [equal], related⟩
          · exact Or.inr ⟨dependency, List.mem_cons_of_mem _ member, parted⟩

end Program.Similar

/-- What a program reads when it is run with given inputs and results. -/
def Program.dependencies (values : (f : S.Field) → S.Value f) (results : (q : S.Query) → S.Result q) :
    Program S bound α → List (Dependency S bound)
  | .done _ => []
  | .read f next => .field f :: (next (values f)).dependencies values results
  | .ask q lower next => .query q lower :: (next (results q)).dependencies values results

/-- A dependency of whatever rank. -/
inductive Input (S : Signature) where
  | field (field : S.Field)
  | query (query : S.Query)

def Dependency.input : Dependency S bound → Input S
  | .field f => .field f
  | .query q _ => .query q

namespace Program

variable (values : (f : S.Field) → S.Value f) (results : (q : S.Query) → S.Result q)

/-- What a plain run reads, of whatever rank. -/
def inputs (program : Program S bound α) : List (Input S) :=
  (program.dependencies values results).map Dependency.input

/-- A plain run reads what the inputs hold and what the queries give. -/
theorem reads_run (program : Program S bound α) :
    program.Reads (fun f value => values f = value) (fun q value => results q = value)
      (program.dependencies values results) (program.run values fun q _ => results q) := by
  induction program with
  | done value => exact .done value
  | read f next ih => exact .read rfl (ih _)
  | ask q lower next ih => exact .ask rfl (ih _)

@[simp] theorem dependencies_pure (value : α) :
    (pure value : Program S bound α).dependencies values results = [] := rfl

@[simp] theorem dependencies_bind (program : Program S bound α) (next : α → Program S bound β) :
    (program >>= next).dependencies values results = program.dependencies values results ++
      (next (program.run values fun q _ => results q)).dependencies values results := by
  induction program with
  | done value => rfl
  | read f rest ih => exact congrArg (Dependency.field f :: ·) (ih _)
  | ask q lower rest ih => exact congrArg (Dependency.query q lower :: ·) (ih _)

@[simp] theorem dependencies_map (f : α → β) (program : Program S bound α) :
    (f <$> program).dependencies values results = program.dependencies values results := by
  rw [map_eq_pure_bind, dependencies_bind]
  exact List.append_nil _

@[simp] theorem dependencies_mapM (items : List α) (f : α → Program S bound β) :
    (items.mapM f).dependencies values results =
      items.flatMap fun item => (f item).dependencies values results := by
  induction items with
  | nil => rfl
  | cons head rest ih => simp [List.mapM_cons, ih]

@[simp] theorem inputs_done (value : α) :
    (done value : Program S bound α).inputs values results = [] := rfl

@[simp] theorem inputs_read (f : S.Field) (next : S.Value f → Program S bound α) :
    (read f next).inputs values results = .field f :: (next (values f)).inputs values results := rfl

@[simp] theorem inputs_ask (q : S.Query) (lower : S.rank q < bound)
    (next : S.Result q → Program S bound α) :
    (ask q lower next).inputs values results =
      .query q :: (next (results q)).inputs values results := rfl

@[simp] theorem inputs_pure (value : α) :
    (pure value : Program S bound α).inputs values results = [] := rfl

@[simp] theorem inputs_bind (program : Program S bound α) (next : α → Program S bound β) :
    (program >>= next).inputs values results = program.inputs values results ++
      (next (program.run values fun q _ => results q)).inputs values results := by
  simp [inputs]

@[simp] theorem inputs_map (f : α → β) (program : Program S bound α) :
    (f <$> program).inputs values results = program.inputs values results := by
  simp [inputs]

@[simp] theorem inputs_mapM (items : List α) (f : α → Program S bound β) :
    (items.mapM f).inputs values results =
      items.flatMap fun item => (f item).inputs values results := by
  simp [inputs, List.map_flatMap]

theorem query_mem_inputs {program : Program S bound α} {q : S.Query} :
    .query q ∈ program.inputs values results ↔
      ∃ lower, .query q lower ∈ program.dependencies values results := by
  constructor
  · intro member
    obtain ⟨f | ⟨asked, lower⟩, listed, same⟩ := List.mem_map.mp member
    · cases same
    · cases same
      exact ⟨lower, listed⟩
  · rintro ⟨lower, listed⟩
    exact List.mem_map.mpr ⟨_, listed, rfl⟩

end Program
end TermBind.Incremental

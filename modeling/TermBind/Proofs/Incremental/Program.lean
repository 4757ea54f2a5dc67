import TermBind.Incremental.Program

/-! Laws of programs: how sequences of programs run, and what programs name. -/
namespace TermBind.Incremental

variable {S : Signature} {bound : Nat} {α β : Type}

namespace Program

theorem id_map (program : Program S bound α) : id <$> program = program := by
  induction program with
  | done value => rfl
  | read f next ih => exact congrArg (Program.read f) (funext ih)
  | ask q lower next ih => exact congrArg (Program.ask q lower) (funext ih)

theorem bind_assoc {γ : Type} (program : Program S bound α) (next : α → Program S bound β)
    (last : β → Program S bound γ) :
    program >>= next >>= last = program >>= fun value => next value >>= last := by
  induction program with
  | done value => rfl
  | read f rest ih => exact congrArg (Program.read f) (funext ih)
  | ask q lower rest ih => exact congrArg (Program.ask q lower) (funext ih)

instance : LawfulMonad (Program S bound) :=
  LawfulMonad.mk' (Program S bound) id_map (fun _ _ => rfl) bind_assoc

section Run

variable (values : (f : S.Field) → S.Value f)
variable (results : (q : S.Query) → S.rank q < bound → S.Result q)

@[simp] theorem run_pure (value : α) :
    (pure value : Program S bound α).run values results = value := rfl

@[simp] theorem run_bind (program : Program S bound α) (next : α → Program S bound β) :
    (program >>= next).run values results =
      (next (program.run values results)).run values results :=
  run_andThen values results program next

@[simp] theorem run_map (f : α → β) (program : Program S bound α) :
    (f <$> program).run values results = f (program.run values results) :=
  run_andThen values results program _

@[simp] theorem run_mapM (items : List α) (f : α → Program S bound β) :
    (items.mapM f).run values results = items.map fun item => (f item).run values results := by
  induction items with
  | nil => rfl
  | cons head rest ih => simp [List.mapM_cons, ih]

end Run

/-- A program names only permitted fields and queries as long as their answers are permitted, and
then comes to a result of a kind. -/
def Within (field : S.Field → Prop) (value : (f : S.Field) → S.Value f → Prop)
    (query : S.Query → Prop) (result : (q : S.Query) → S.Result q → Prop) (post : α → Prop) :
    Program S bound α → Prop
  | .done outcome => post outcome
  | .read f next => field f ∧ ∀ answer, value f answer →
      (next answer).Within field value query result post
  | .ask q _ next => query q ∧ ∀ answer, result q answer →
      (next answer).Within field value query result post

namespace Within

variable {field : S.Field → Prop} {value : (f : S.Field) → S.Value f → Prop}
variable {query : S.Query → Prop} {result : (q : S.Query) → S.Result q → Prop}

theorem bind {middle : α → Prop} {post : β → Prop} {program : Program S bound α}
    {next : α → Program S bound β} (first : program.Within field value query result middle)
    (second : ∀ outcome, middle outcome → (next outcome).Within field value query result post) :
    (program >>= next).Within field value query result post := by
  induction program with
  | done outcome => exact second outcome first
  | read f rest ih => exact ⟨first.1, fun answer permitted => ih answer (first.2 answer permitted)⟩
  | ask q lower rest ih =>
    exact ⟨first.1, fun answer permitted => ih answer (first.2 answer permitted)⟩

theorem imp {post post' : α → Prop} {program : Program S bound α}
    (within : program.Within field value query result post)
    (weaker : ∀ outcome, post outcome → post' outcome) :
    program.Within field value query result post' := by
  induction program with
  | done outcome => exact weaker outcome within
  | read f rest ih => exact ⟨within.1, fun answer permitted => ih answer (within.2 answer permitted)⟩
  | ask q lower rest ih =>
    exact ⟨within.1, fun answer permitted => ih answer (within.2 answer permitted)⟩

theorem mapM {post : β → Prop} {items : List α} {f : α → Program S bound β}
    (each : ∀ item ∈ items, (f item).Within field value query result post) :
    (items.mapM f).Within field value query result fun outcomes =>
      ∀ outcome ∈ outcomes, post outcome := by
  induction items with
  | nil => exact fun _ member => absurd member List.not_mem_nil
  | cons head rest ih =>
    rw [List.mapM_cons]
    apply bind (each head (List.mem_cons_self ..))
    intro outcome good
    apply bind (ih fun item member => each item (List.mem_cons_of_mem _ member))
    intro outcomes others other member
    rcases List.mem_cons.mp member with rfl | later
    · exact good
    · exact others other later

/-- A program that gets the answers it runs with comes to what it runs to. -/
theorem of_run (values : (f : S.Field) → S.Value f)
    (results : (q : S.Query) → S.Result q) (program : Program S bound α) :
    program.Within (fun _ => True) (fun f value => value = values f) (fun _ => True)
      (fun q value => value = results q)
      (fun outcome => outcome = program.run values fun q _ => results q) := by
  induction program with
  | done value => rfl
  | read f next ih =>
    refine ⟨trivial, ?_⟩
    rintro _ rfl
    exact ih _
  | ask q lower next ih =>
    refine ⟨trivial, ?_⟩
    rintro _ rfl
    exact ih _

end Within
end Program
end TermBind.Incremental

import TermBind.Outcome

/-! Steps taken on an outcome one after another. A failure lasts to the end: nothing more is called, and
its diagnostics stay in the order in which they came. -/
namespace TermBind.Outcome

/-- A step on an outcome. Asking for the value is a step that leaves the outcome as it is. -/
inductive Step : Type → Type → Type 1
  | map {α β : Type} (change : α → β) : Step α β
  | andThen {α β : Type} (further : α → Outcome β) : Step α β
  | push {α : Type} (diagnostic : Diagnostic) : Step α α
  | mapDiagnostics {α : Type} (rewrite : Diagnostic → Diagnostic) : Step α α
  | intoValue {α : Type} : Step α α

/-- What a step does besides: it calls its continuation with the value, or tells the value that it is
asked for. -/
inductive Event : Type 1
  | called {α : Type} (value : α)
  | answered {α : Type} (answer : Except InvalidState α)

/-- No value is told. -/
inductive Event.IsRefusal : Event → Prop
  | refused {α : Type} (state : InvalidState) :
    IsRefusal (.answered (.error state : Except InvalidState α))

variable {α β γ : Type}

namespace Step

def apply : Step α β → Outcome α → Outcome β
  | .map change, outcome => outcome.map change
  | .andThen further, outcome => outcome.andThen further
  | .push diagnostic, outcome => outcome.push diagnostic
  | .mapDiagnostics rewrite, outcome => outcome.mapDiagnostics rewrite
  | .intoValue, outcome => outcome

/-- A continuation is called just where a mark in its place comes out. -/
def events : Step α β → Outcome α → List Event
  | .map _, outcome => (outcome.map Event.called).value?.toList
  | .andThen _, outcome => (outcome.andThen fun value => .ok (Event.called value)).value?.toList
  | .intoValue, outcome => [.answered outcome.intoValue]
  | .push _, _ | .mapDiagnostics _, _ => []

/-- What a diagnostic becomes in a step. -/
def rewriting : Step α β → Diagnostic → Diagnostic
  | .mapDiagnostics rewrite => rewrite
  | .map _ | .andThen _ | .push _ | .intoValue => id

/-- The diagnostics that arrive in a step. -/
def arrivals : Step α β → List Diagnostic
  | .push diagnostic => [diagnostic]
  | .map _ | .andThen _ | .mapDiagnostics _ | .intoValue => []

theorem apply_failed (step : Step α β) (diagnostics : Diagnostics) :
    ∃ after, step.apply (.failed diagnostics) = .failed after ∧
      after.toList = diagnostics.toList.map step.rewriting ++ step.arrivals := by
  cases step with
  | map | andThen | intoValue => exact ⟨diagnostics, rfl, by simp [rewriting, arrivals]⟩
  | push diagnostic => exact ⟨diagnostics.push diagnostic, rfl, by simp [rewriting, arrivals]⟩
  | mapDiagnostics rewrite => exact ⟨diagnostics.map rewrite, rfl, by simp [rewriting, arrivals]⟩

theorem events_failed (step : Step α β) (diagnostics : Diagnostics) :
    ∀ event ∈ step.events (.failed diagnostics), event.IsRefusal := by
  cases step with
  | map | andThen | push | mapDiagnostics => exact List.forall_mem_nil _
  | intoValue =>
    intro event member
    rw [List.mem_singleton.mp member]
    exact .refused _

end Step

/-- Steps in a row, from values of one type to values of another. -/
inductive Steps : Type → Type → Type 1
  | done {α : Type} : Steps α α
  | next {α β γ : Type} (step : Step α β) (rest : Steps β γ) : Steps α γ

namespace Steps

def append : {α β γ : Type} → Steps α β → Steps β γ → Steps α γ
  | _, _, _, .done, after => after
  | _, _, _, .next step rest, after => .next step (rest.append after)

def run : {α β : Type} → Steps α β → Outcome α → Outcome β
  | _, _, .done, outcome => outcome
  | _, _, .next step rest, outcome => rest.run (step.apply outcome)

def events : {α β : Type} → Steps α β → Outcome α → List Event
  | _, _, .done, _ => []
  | _, _, .next step rest, outcome => step.events outcome ++ rest.events (step.apply outcome)

/-- What becomes of a diagnostic in all of the steps. -/
def rewriting : {α β : Type} → Steps α β → Diagnostic → Diagnostic
  | _, _, .done => id
  | _, _, .next step rest => rest.rewriting ∘ step.rewriting

/-- The diagnostics that arrive, each as the steps after its arrival rewrite it. -/
def arrivals : {α β : Type} → Steps α β → List Diagnostic
  | _, _, .done => []
  | _, _, .next step rest => step.arrivals.map rest.rewriting ++ rest.arrivals

/-- The steps that have a continuation. -/
def continuations : {α β : Type} → Steps α β → Steps α β
  | _, _, .done => .done
  | _, _, .next (.map change) rest => .next (.map change) rest.continuations
  | _, _, .next (.andThen further) rest => .next (.andThen further) rest.continuations
  | _, _, .next (.push _) rest | _, _, .next (.mapDiagnostics _) rest
  | _, _, .next .intoValue rest => rest.continuations

theorem run_append (before : Steps α β) (after : Steps β γ) (outcome : Outcome α) :
    (before.append after).run outcome = after.run (before.run outcome) := by
  induction before with
  | done => rfl
  | next step rest ih => exact ih after (step.apply outcome)

theorem events_append (before : Steps α β) (after : Steps β γ) (outcome : Outcome α) :
    (before.append after).events outcome =
      before.events outcome ++ after.events (before.run outcome) := by
  induction before with
  | done => rfl
  | next step rest ih =>
    rw [append, events, events, run, ih, List.append_assoc]

theorem run_failed (steps : Steps α β) (diagnostics : Diagnostics) :
    ∃ settled, steps.run (.failed diagnostics) = .failed settled ∧
      settled.toList = diagnostics.toList.map steps.rewriting ++ steps.arrivals := by
  induction steps generalizing diagnostics with
  | done => exact ⟨diagnostics, rfl, by simp [rewriting, arrivals]⟩
  | next step rest ih =>
    obtain ⟨after, applied, listed⟩ := step.apply_failed diagnostics
    obtain ⟨settled, ran, kept⟩ := ih after
    refine ⟨settled, by rw [run, applied, ran], ?_⟩
    rw [kept, listed, rewriting, arrivals, List.map_append, List.map_map, List.append_assoc]

theorem events_failed (steps : Steps α β) (diagnostics : Diagnostics) :
    ∀ event ∈ steps.events (.failed diagnostics), event.IsRefusal := by
  induction steps generalizing diagnostics with
  | done => exact List.forall_mem_nil _
  | next step rest ih =>
    obtain ⟨after, applied, -⟩ := step.apply_failed diagnostics
    intro event member
    rw [events, applied] at member
    rcases List.mem_append.mp member with now | later
    · exact step.events_failed diagnostics event now
    · exact ih after event later

theorem value?_run_failed (steps : Steps α β) (diagnostics : Diagnostics) :
    (steps.run (.failed diagnostics)).value? = none := by
  obtain ⟨settled, ran, -⟩ := steps.run_failed diagnostics
  rw [ran]
  rfl

theorem value?_run (steps : Steps α β) (outcome : Outcome α) :
    (steps.run outcome).value? = (steps.continuations.run outcome).value? := by
  induction steps with
  | done => rfl
  | next step rest ih =>
    cases step with
    | map change => exact ih (outcome.map change)
    | andThen further => exact ih (outcome.andThen further)
    | intoValue => exact ih outcome
    | push | mapDiagnostics =>
      -- These steps leave a value as it is, and a failure has none with or without them.
      cases outcome with
      | ok value => exact ih (.ok value)
      | failed => rw [value?_run_failed, value?_run_failed]

end Steps

/-- A value and no diagnostics, or diagnostics, which have a first, and no value. The value is refused
only where there is none. -/
inductive IsWhole (outcome : Outcome α) : Prop
  | succeeded (value : α) (held : outcome.value? = some value) (clean : outcome.diagnostics = [])
    (none : outcome.first? = none) (told : outcome.intoValue = .ok value)
  | failed (first : Diagnostic) (others : List Diagnostic) (empty : outcome.value? = none)
    (listed : outcome.diagnostics = first :: others) (known : outcome.first? = some first)
    (refused : outcome.intoValue = .error { count := (first :: others).length, first })

theorem isWhole (outcome : Outcome α) : outcome.IsWhole := by
  cases outcome with
  | ok value => exact .succeeded value rfl rfl rfl rfl
  | failed diagnostics => exact .failed diagnostics.first diagnostics.others rfl rfl rfl rfl

/-- What an outcome is begun with. -/
inductive Start (α : Type)
  | ok (value : α)
  | fail (diagnostic : Diagnostic)
  | ofList (diagnostics : List Diagnostic)

namespace Start

def outcome? : Start α → Option (Outcome α)
  | .ok value => some (.ok value)
  | .fail diagnostic => some (.fail diagnostic)
  | .ofList diagnostics => (Diagnostics.ofList? diagnostics).map .failed

def value? : Start α → Option α
  | .ok value => some value
  | .fail _ | .ofList _ => none

def diagnostics : Start α → List Diagnostic
  | .ok _ => []
  | .fail diagnostic => [diagnostic]
  | .ofList listed => listed

end Start

/-- What holds at a point of a run from an outcome, with some steps taken and others to come. A value
comes of the steps with a continuation alone. A failure lasts without a further call, and what arrives
later stands after its diagnostics. Asking for the value changes nothing. -/
structure IsKept (outcome : Outcome α) (before : Steps α β) (after : Steps β γ) : Prop where
  whole : (before.run outcome).IsWhole
  value : (before.run outcome).value? = (before.continuations.run outcome).value?
  failed diagnostics : before.run outcome = .failed diagnostics →
    (∃ settled, (before.append after).run outcome = .failed settled ∧
      settled.toList = diagnostics.toList.map after.rewriting ++ after.arrivals) ∧
    ∃ later, (before.append after).events outcome = before.events outcome ++ later ∧
      ∀ event ∈ later, event.IsRefusal
  asked : (before.append (.next .intoValue after)).run outcome = (before.append after).run outcome ∧
    (before.append (.next .intoValue after)).events outcome =
      before.events outcome ++ .answered (before.run outcome).intoValue ::
        after.events (before.run outcome)

theorem isKept (outcome : Outcome α) (before : Steps α β) (after : Steps β γ) :
    outcome.IsKept before after where
  whole := isWhole _
  value := before.value?_run outcome
  failed diagnostics reached := by
    rw [Steps.run_append, Steps.events_append, reached]
    exact ⟨after.run_failed diagnostics, _, rfl, after.events_failed diagnostics⟩
  asked := by
    rw [Steps.run_append, Steps.run_append, Steps.events_append]
    exact ⟨rfl, rfl⟩

/-- Only an empty list begins no outcome. Any other outcome has the value or the diagnostics that it is
begun with, and keeps to its kind in every run. -/
theorem isKept_start (start : Start α) :
    match start.outcome? with
    | none => start = .ofList []
    | some outcome => outcome.value? = start.value? ∧ outcome.diagnostics = start.diagnostics ∧
        ∀ {β γ : Type} (before : Steps α β) (after : Steps β γ), outcome.IsKept before after := by
  cases start with
  | ok value => exact ⟨rfl, rfl, isKept _⟩
  | fail diagnostic => exact ⟨rfl, rfl, isKept _⟩
  | ofList diagnostics =>
    cases diagnostics with
    | nil => rfl
    | cons first others => exact ⟨rfl, rfl, isKept _⟩

/-- Nothing is called after the failure, and the second diagnostic comes too late to be rewritten. -/
example (first second : Diagnostic) (rewrite : Diagnostic → Diagnostic) :
    let steps : Steps Nat Nat :=
      .next (.map (· + 1)) <| .next (.andThen fun _ => .fail first) <| .next (.mapDiagnostics rewrite) <|
        .next (.push second) <| .next (.map (· + 1)) <| .next .intoValue .done
    steps.events (.ok 0) = [.called 0, .called 1,
      .answered (.error ⟨2, rewrite first⟩ : Except InvalidState Nat)] ∧
      (steps.run (.ok 0)).diagnostics = [rewrite first, second] :=
  ⟨rfl, rfl⟩

end TermBind.Outcome

import TermBind.Output
import TermBind.Proofs.Output

/-! Emitting an output: a sink is asked for everything, whatever fails on the way, and the first failure is
what is told. A sink that keeps sources in memory has one entry for each name, in a place that stays. -/
namespace TermBind

namespace Sink

/-- What a sink is asked to do. -/
inductive Call where
  | report (diagnostic : Diagnostic)
  | add (name text : String)
deriving DecidableEq, Repr

namespace Call

@[simp] def source? : Call → Option (String × String)
  | .report _ => none
  | .add name text => some (name, text)

@[simp] def diagnostic? : Call → Option Diagnostic
  | .report diagnostic => some diagnostic
  | .add _ _ => none

end Call

/-- Only storing a source can fail. -/
def perform {m : Type → Type} [Monad m] {ε : Type} (sink : Sink m ε) : Call → m (Option ε)
  | .report diagnostic => do
    sink.report diagnostic
    return none
  | .add name text => sink.add name text

/-- A call, the failure that it ended in, if any, and the states before and after it. -/
structure Step (σ ε : Type) where
  call : Call
  failure : Option ε
  before : σ
  after : σ

variable {σ ε : Type}

/-- The step that a machine takes when it is called. -/
def Step.of (answer : Call → σ → Option ε × σ) (call : Call) (state : σ) : Step σ ε :=
  let (failure, after) := answer call state
  { call, failure, before := state, after }

/-- The steps of a machine that is called again and again, and the state that it ends in. -/
def record (answer : Call → σ → Option ε × σ) : List Call → σ → List (Step σ ε) × σ
  | [], state => ([], state)
  | call :: rest, state =>
    let step := Step.of answer call state
    let (steps, last) := record answer rest step.after
    (step :: steps, last)

/-- A sink with a state of its own as a machine. -/
def answer (sink : Sink (StateM σ) ε) (call : Call) (state : σ) : Option ε × σ :=
  (sink.perform call).run state

section Record

variable {answer : Call → σ → Option ε × σ}

theorem record_cons (call : Call) (rest : List Call) (state : σ) :
    record answer (call :: rest) state =
      let step := Step.of answer call state
      let later := record answer rest step.after
      (step :: later.1, later.2) := rfl

theorem record_append (calls others : List Call) (state : σ) :
    record answer (calls ++ others) state =
      let first := record answer calls state
      let second := record answer others first.2
      (first.1 ++ second.1, second.2) := by
  induction calls generalizing state with
  | nil => rfl
  | cons call rest ih =>
    have later := ih (Step.of answer call state).after
    rw [List.cons_append, record_cons]
    dsimp only
    rw [later]
    rfl

theorem calls_record (calls : List Call) (state : σ) :
    (record answer calls state).1.map Step.call = calls := by
  induction calls generalizing state with
  | nil => rfl
  | cons call rest ih => exact congrArg (call :: ·) (ih _)

/-- What follows a step is the run from the state that it ended in. -/
theorem record_after {calls : List Call} {state : σ} {earlier later : List (Step σ ε)} {step : Step σ ε}
    (split : (record answer calls state).1 = earlier ++ step :: later) :
    record answer (later.map Step.call) step.after = (later, (record answer calls state).2) := by
  induction earlier generalizing calls state with
  | nil =>
    cases calls with
    | nil => cases split
    | cons call rest =>
      rw [record_cons] at split
      obtain ⟨rfl, rfl⟩ := List.cons.inj split
      rw [calls_record]
      rfl
  | cons first earlier ih =>
    cases calls with
    | nil => cases split
    | cons call rest =>
      rw [record_cons] at split
      have later := ih (List.cons.inj split).2
      exact later

theorem firstFailure_cons (step : Step σ ε) (steps : List (Step σ ε)) :
    (step :: steps).findSome? Step.failure = step.failure.or (steps.findSome? Step.failure) := by
  rw [List.findSome?_cons]
  cases step.failure <;> rfl

end Record

end Sink

namespace Output

open Sink

variable {σ ε : Type} (sink : Sink (StateM σ) ε)

/-- The names and texts that an output offers. -/
def sources (output : Output) : List (String × String) :=
  output.artifacts.map fun entry => (entry.2.name, entry.2.text)

/-- What is asked of a sink when an output is emitted. -/
def calls (output : Output) : List Call :=
  output.diagnostics.map .report ++ output.sources.map fun source => .add source.1 source.2

theorem sources_calls (output : Output) : output.calls.filterMap Call.source? = output.sources := by
  simp [calls, List.filterMap_map, Function.comp_def]

theorem diagnostics_calls (output : Output) :
    output.calls.filterMap Call.diagnostic? = output.diagnostics := by
  simp [calls, List.filterMap_map, Function.comp_def]

theorem run_reportAll (diagnostics : List Diagnostic) (state : σ) :
    (reportAll sink diagnostics).run state =
      (⟨⟩, (record sink.answer (diagnostics.map .report) state).2) ∧
    (record sink.answer (diagnostics.map .report) state).1.findSome? Step.failure = none := by
  induction diagnostics generalizing state with
  | nil => exact ⟨rfl, rfl⟩
  | cons diagnostic rest ih =>
    obtain ⟨reached, quiet⟩ := ih ((sink.report diagnostic).run state).2
    exact ⟨reached, quiet⟩

theorem run_offer (artifacts : List (String × Artifact)) (state : σ) :
    (offer sink artifacts).run state =
      let run := record sink.answer (artifacts.map fun entry => .add entry.2.name entry.2.text) state
      (run.1.findSome? Step.failure, run.2) := by
  induction artifacts generalizing state with
  | nil => rfl
  | cons entry rest ih =>
    have later := ih ((sink.add entry.2.name entry.2.text).run state).2
    change (((sink.add entry.2.name entry.2.text).run state).1.or
      ((offer sink rest).run ((sink.add entry.2.name entry.2.text).run state).2).1,
        ((offer sink rest).run ((sink.add entry.2.name entry.2.text).run state).2).2) = _
    rw [later, List.map_cons, record_cons]
    dsimp only
    rw [firstFailure_cons]
    rfl

theorem run_emit (output : Output) (state : σ) : (output.emit sink).run state =
    let run := record sink.answer output.calls state
    (run.1.findSome? Step.failure, run.2) := by
  obtain ⟨reported, quiet⟩ := run_reportAll sink output.diagnostics state
  change (offer sink output.artifacts).run ((reportAll sink output.diagnostics).run state).2 = _
  rw [reported, run_offer, calls, record_append, sources, List.map_map]
  dsimp only
  rw [List.findSome?_append, quiet, Option.none_or]
  rfl

/-- Artifacts stand under their own names, in ascending order. -/
structure IsKeyed (output : Output) : Prop where
  own : ∀ entry ∈ output.artifacts, entry.2.name = entry.1
  ascending : (output.artifacts.map Prod.fst).Pairwise fun left right => compare left right = .lt

/-- What an evaluation puts together is kept by name. -/
theorem isKeyed_assemble (overrides : SeverityOverrides) (first : List Diagnostic)
    (outcomes : List (Outcome Product)) : (assemble overrides first outcomes).IsKeyed where
  own entry member := by
    obtain ⟨location, alone⟩ := (mem_artifacts_assemble overrides first outcomes).mp member
    have produced : (⟨entry.2, location⟩ : Product) ∈
        producers (outcomes.filterMap Outcome.value?) entry.1 := by simp [alone]
    exact producers_name produced
  ascending := pairwise_artifacts ..

namespace IsKeyed

variable {output : Output} (keyed : output.IsKeyed)
include keyed

theorem sources_eq : output.sources = output.artifacts.map fun entry => (entry.1, entry.2.text) :=
  List.map_congr_left fun entry member => by rw [keyed.own entry member]

theorem names_sources : output.sources.map Prod.fst = output.artifacts.map Prod.fst := by
  rw [keyed.sources_eq, List.map_map]
  rfl

theorem mem_sources {name text : String} : (name, text) ∈ output.sources ↔
    ∃ artifact, (name, artifact) ∈ output.artifacts ∧ artifact.text = text := by
  rw [keyed.sources_eq, List.mem_map]
  constructor
  · rintro ⟨⟨_, artifact⟩, member, same⟩
    obtain ⟨rfl, shown⟩ := Prod.mk.inj same
    exact ⟨artifact, member, shown⟩
  · rintro ⟨artifact, member, rfl⟩
    exact ⟨_, member, rfl⟩

theorem pairwise_sources : output.sources.Pairwise fun left right => compare left.1 right.1 = .lt := by
  have names := keyed.ascending
  rw [← keyed.names_sources] at names
  exact List.pairwise_map.mp names

theorem nodup_names_sources : (output.sources.map Prod.fst).Nodup := by
  rw [keyed.names_sources]
  exact Collection.nodup_of_pairwise_lt keyed.ascending

end IsKeyed
end Output

namespace MemorySink

section Store

variable {name text : String} {sources : List (String × String)}

theorem names_store (name text : String) (sources : List (String × String)) :
    (store name text sources).map Prod.fst =
      if name ∈ sources.map Prod.fst then sources.map Prod.fst else sources.map Prod.fst ++ [name] := by
  induction sources with
  | nil => simp [store]
  | cons entry rest ih =>
    by_cases own : entry.1 = name
    · simp [store, own]
    · have other : ¬ name = entry.1 := fun same => own same.symm
      simp only [store, beq_iff_eq, own, if_false, List.map_cons, ih, List.mem_cons, other, false_or]
      split <;> rfl

theorem nodup_store (distinct : (sources.map Prod.fst).Nodup) :
    ((store name text sources).map Prod.fst).Nodup := by
  rw [names_store]
  split
  · exact distinct
  · rename_i fresh
    refine List.nodup_append.mpr ⟨distinct, by simp, ?_⟩
    rintro known member last added rfl
    exact fresh (List.mem_singleton.mp added ▸ member)

theorem prefix_names_store : sources.map Prod.fst <+: (store name text sources).map Prod.fst := by
  rw [names_store]
  split
  · exact List.prefix_rfl
  · exact List.prefix_append ..

theorem lookup_store_self : (store name text sources).lookup name = some text := by
  induction sources with
  | nil => simp [store]
  | cons entry rest ih =>
    obtain ⟨key, value⟩ := entry
    by_cases own : key = name
    · simp [store, own]
    · have other : (name == key) = false := by simpa using fun same => own same.symm
      simp [store, own, List.lookup_cons, other, ih]

theorem lookup_store_of_ne {other : String} (different : other ≠ name) :
    (store name text sources).lookup other = sources.lookup other := by
  have unlike : (other == name) = false := by simpa using different
  induction sources with
  | nil => simp [store, List.lookup_cons, unlike]
  | cons entry rest ih =>
    obtain ⟨key, value⟩ := entry
    by_cases own : key = name
    · simp [store, own, List.lookup_cons, unlike]
    · simp [store, own, List.lookup_cons, ih]

/-- A text that is held already stays where it is. -/
theorem store_eq_self (held : sources.lookup name = some text) : store name text sources = sources := by
  induction sources with
  | nil => cases held
  | cons entry rest ih =>
    obtain ⟨key, value⟩ := entry
    by_cases own : key = name
    · subst own
      simp_all [store]
    · have other : (name == key) = false := by simpa using fun same => own same.symm
      rw [List.lookup_cons, other] at held
      simp [store, own, ih held]

/-- An entry of another name keeps its place. -/
theorem getElem?_store {index : Nat} {entry : String × String} (different : entry.1 ≠ name) :
    (store name text sources)[index]? = some entry ↔ sources[index]? = some entry := by
  have unlike : (name, text) ≠ entry := by
    rintro rfl
    exact different rfl
  induction sources generalizing index with
  | nil => cases index <;> simp [store, unlike]
  | cons first rest ih =>
    by_cases own : first.1 = name
    · have unlike' : first ≠ entry := by
        rintro rfl
        exact different own
      cases index <;> simp [store, own, unlike, unlike']
    · cases index <;> simp [store, own, ih]

end Store

/-- Store sources in order. -/
def storeAll (offers sources : List (String × String)) : List (String × String) :=
  offers.foldl (fun sources offer => store offer.1 offer.2 sources) sources

section StoreAll

variable {offers sources : List (String × String)}

theorem nodup_storeAll (distinct : (sources.map Prod.fst).Nodup) :
    ((storeAll offers sources).map Prod.fst).Nodup := by
  induction offers generalizing sources with
  | nil => exact distinct
  | cons offer rest ih => exact ih (nodup_store distinct)

theorem prefix_names_storeAll : sources.map Prod.fst <+: (storeAll offers sources).map Prod.fst := by
  induction offers generalizing sources with
  | nil => exact List.prefix_rfl
  | cons offer rest ih => exact prefix_names_store.trans ih

theorem lookup_storeAll_of_ne {name : String} (absent : name ∉ offers.map Prod.fst) :
    (storeAll offers sources).lookup name = sources.lookup name := by
  induction offers generalizing sources with
  | nil => rfl
  | cons offer rest ih =>
    obtain ⟨different, absent'⟩ := not_or.mp (mt List.mem_cons.mpr absent)
    exact (ih absent').trans (lookup_store_of_ne different)

theorem lookup_storeAll (distinct : (offers.map Prod.fst).Nodup) {offer : String × String}
    (member : offer ∈ offers) : (storeAll offers sources).lookup offer.1 = some offer.2 := by
  induction offers generalizing sources with
  | nil => cases member
  | cons first rest ih =>
    obtain ⟨absent, distinct'⟩ := List.nodup_cons.mp distinct
    rcases List.mem_cons.mp member with rfl | later
    · exact (lookup_storeAll_of_ne absent).trans lookup_store_self
    · exact ih distinct' later

theorem storeAll_eq_self (held : ∀ offer ∈ offers, sources.lookup offer.1 = some offer.2) :
    storeAll offers sources = sources := by
  induction offers with
  | nil => rfl
  | cons offer rest ih =>
    rw [storeAll, List.foldl_cons, store_eq_self (held offer (by simp))]
    exact ih fun other member => held other (List.mem_cons_of_mem _ member)

theorem getElem?_storeAll {index : Nat} {entry : String × String}
    (absent : entry.1 ∉ offers.map Prod.fst) :
    (storeAll offers sources)[index]? = some entry ↔ sources[index]? = some entry := by
  induction offers generalizing sources with
  | nil => rfl
  | cons offer rest ih =>
    obtain ⟨different, absent'⟩ := not_or.mp (mt List.mem_cons.mpr absent)
    exact (ih absent').trans (getElem?_store different)

end StoreAll

open Sink

variable {ε : Type}

/-- Whatever it is asked for, it fails at nothing. -/
theorem record_answer (calls : List Call) (memory : MemorySink) :
    let run := record (sink (ε := ε)).answer calls memory
    (∀ step ∈ run.1, step.failure = none) ∧
      run.2 = { sources := storeAll (calls.filterMap Call.source?) memory.sources,
                diagnostics := memory.diagnostics ++ calls.filterMap Call.diagnostic? } := by
  induction calls generalizing memory with
  | nil => exact ⟨by simp [record], by simp [record, storeAll]⟩
  | cons call rest ih =>
    rw [record_cons]
    cases call with
    | report diagnostic =>
      obtain ⟨quiet, reached⟩ := ih (memory.report diagnostic)
      refine ⟨List.forall_mem_cons.mpr ⟨rfl, quiet⟩, reached.trans ?_⟩
      simp [report, List.filterMap_cons]
    | add name text =>
      obtain ⟨quiet, reached⟩ := ih (memory.add name text)
      exact ⟨List.forall_mem_cons.mpr ⟨rfl, quiet⟩, reached⟩

theorem run_emit (output : Output) (memory : MemorySink) :
    (output.emit (sink (ε := ε))).run memory =
      (none, { sources := storeAll output.sources memory.sources,
               diagnostics := memory.diagnostics ++ output.diagnostics }) := by
  obtain ⟨quiet, reached⟩ := record_answer (ε := ε) output.calls memory
  rw [Output.run_emit]
  dsimp only
  rw [List.findSome?_eq_none_iff.mpr quiet, reached, Output.sources_calls, Output.diagnostics_calls]

/-- What a sink in memory has taken of an output: its texts under their names, and nothing else. -/
structure Takes (output : Output) (before after : MemorySink) : Prop where
  distinct : (after.sources.map Prod.fst).Nodup
  own : ∀ name artifact, (name, artifact) ∈ output.artifacts → after.source? name = some artifact.text
  others : ∀ (index : Nat) (entry : String × String), entry.1 ∉ output.artifacts.map Prod.fst →
    (after.sources[index]? = some entry ↔ before.sources[index]? = some entry)
  kept : before.sources.map Prod.fst <+: after.sources.map Prod.fst
  reported : after.diagnostics = before.diagnostics ++ output.diagnostics

theorem takes_of_isKeyed {output : Output} (keyed : output.IsKeyed) {memory : MemorySink}
    (distinct : (memory.sources.map Prod.fst).Nodup) :
    Takes output memory { sources := storeAll output.sources memory.sources,
                          diagnostics := memory.diagnostics ++ output.diagnostics } where
  distinct := nodup_storeAll distinct
  own _ artifact member :=
    lookup_storeAll keyed.nodup_names_sources (keyed.mem_sources.mpr ⟨artifact, member, rfl⟩)
  others _ _ foreign := getElem?_storeAll (keyed.names_sources ▸ foreign)
  kept := prefix_names_storeAll
  reported := rfl

end MemorySink

namespace Output

open Sink

/-- Emitting offers everything: the diagnostics in order, then each artifact once, in ascending order of
the names, whatever fails; the first failure is the result. A sink in memory takes all of it, and takes
nothing more when it is emitted again. -/
theorem emit_offers_everything {output : Output} (keyed : output.IsKeyed) :
    (∃ offers : List (String × String),
      offers.Pairwise (fun left right => compare left.1 right.1 = .lt) ∧
      (∀ name text, (name, text) ∈ offers ↔
        ∃ artifact, (name, artifact) ∈ output.artifacts ∧ artifact.text = text) ∧
      ∀ {σ ε : Type} (sink : Sink (StateM σ) ε) (state : σ),
        let run := record sink.answer (output.diagnostics.map .report ++
          offers.map fun offer => .add offer.1 offer.2) state
        (output.emit sink).run state = (run.1.findSome? Step.failure, run.2)) ∧
    ∀ {ε : Type} (memory : MemorySink), (memory.sources.map Prod.fst).Nodup →
      ∃ after, (output.emit (MemorySink.sink (ε := ε))).run memory = (none, after) ∧
        MemorySink.Takes output memory after ∧
        ((output.emit (MemorySink.sink (ε := ε))).run after).2.sources = after.sources := by
  constructor
  · exact ⟨output.sources, keyed.pairwise_sources, fun _ _ => keyed.mem_sources,
      fun sink state => run_emit sink output state⟩
  · intro ε memory distinct
    refine ⟨_, MemorySink.run_emit output memory, MemorySink.takes_of_isKeyed keyed distinct, ?_⟩
    rw [MemorySink.run_emit]
    exact MemorySink.storeAll_eq_self fun offer member =>
      MemorySink.lookup_storeAll keyed.nodup_names_sources member

/-- A sink with a place for one source. It notes every name that it is offered. -/
def onePlace : Sink (StateM (List String)) String where
  add name _ := modifyGet fun seen => (if seen.isEmpty then none else some name, seen ++ [name])
  report _ := return ()

/-- Three artifacts, and a declaration that failed. -/
def shelf : Output := assemble {} []
  [.ok ⟨⟨"c.rs", "C", default⟩, none⟩, .failed ⟨Diagnostic.of .notADeclaration [], []⟩,
    .ok ⟨⟨"a.rs", "A", default⟩, none⟩, .ok ⟨⟨"b.rs", "B", default⟩, none⟩]

def oldSources : MemorySink where
  sources := [("z.rs", "Z"), ("b.rs", "old")]

theorem emit_offers_everything_shelf :
    shelf.IsKeyed ∧ (oldSources.sources.map Prod.fst).Nodup ∧
    (∃ offers : List (String × String),
      (∀ name text, (name, text) ∈ offers ↔
        ∃ artifact, (name, artifact) ∈ shelf.artifacts ∧ artifact.text = text) ∧
      let run := record onePlace.answer (shelf.diagnostics.map .report ++
        offers.map fun offer => .add offer.1 offer.2) []
      (shelf.emit onePlace).run [] = (run.1.findSome? Step.failure, run.2)) ∧
    (shelf.emit onePlace).run [] = (some "b.rs", ["a.rs", "b.rs", "c.rs"]) ∧
    ∃ after, (shelf.emit (MemorySink.sink (ε := String))).run oldSources = (none, after) ∧
      MemorySink.Takes shelf oldSources after ∧
      after.sources = [("z.rs", "Z"), ("b.rs", "B"), ("a.rs", "A"), ("c.rs", "C")] ∧
      ((shelf.emit (MemorySink.sink (ε := String))).run after).2.sources = after.sources := by
  have keyed : shelf.IsKeyed := isKeyed_assemble ..
  have distinct : (oldSources.sources.map Prod.fst).Nodup := by decide
  obtain ⟨⟨offers, _, offered, emitted⟩, inMemory⟩ := emit_offers_everything keyed
  obtain ⟨after, taken, takes, again⟩ := inMemory (ε := String) oldSources distinct
  have refused : (shelf.emit onePlace).run [] = (some "b.rs", ["a.rs", "b.rs", "c.rs"]) := by
    change @Eq (Option String × List String) _ _
    decide +kernel
  refine ⟨keyed, distinct, ⟨offers, offered, emitted onePlace []⟩, refused, after, taken, takes, ?_,
    again⟩
  have stored : ((shelf.emit (MemorySink.sink (ε := String))).run oldSources).2.sources =
      [("z.rs", "Z"), ("b.rs", "B"), ("a.rs", "A"), ("c.rs", "C")] := by decide +kernel
  rwa [taken] at stored

end Output
end TermBind

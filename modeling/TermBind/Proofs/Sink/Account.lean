import TermBind.Proofs.Sink.Emission
import TermBind.Proofs.Storage

/-! What a sink of a directory says that it did is what was done: it lists the files that were changed,
counts the sources that were there already, and takes no note of those that could not be stored. -/
namespace TermBind

open File

namespace File.Disk

/-- Two disks have the same files. -/
def SameFiles (before after : Disk) : Prop :=
  ∀ place content,
    after.tree.at? place = some (.file content) ↔ before.tree.at? place = some (.file content)

theorem sameFiles_of_createDirectories {disk made : Disk} {path : Path} {isPresent : Bool}
    (created : disk.createDirectories path = (made, isPresent)) : disk.SameFiles made :=
  fun _ _ => (grows_createDirectories created).1.file_iff

end File.Disk

namespace Sink

variable {σ ε : Type}

/-- A source is stored by a step, and none is offered under its name later. -/
def IsLastStored (source : String × String) (steps : List (Step σ ε)) : Prop :=
  ∃ earlier step later, steps = earlier ++ step :: later ∧ step.call = .add source.1 source.2 ∧
    step.failure = none ∧ ∀ other ∈ later, ∀ text, other.call ≠ .add source.1 text

theorem isLastStored_append {answer : Call → σ → Option ε × σ} {state : σ} {source : String × String}
    {earlier later : List Call}
    (done : (Step.of answer (.add source.1 source.2) (record answer earlier state).2).failure = none)
    (others : ∀ text, .add source.1 text ∉ later) :
    IsLastStored source (record answer (earlier ++ .add source.1 source.2 :: later) state).1 := by
  rw [record_append]
  refine ⟨_, _, _, rfl, rfl, done, fun other member text same => others text ?_⟩
  have offered := List.mem_map_of_mem (f := Step.call) member
  rwa [calls_record, same] at offered

end Sink

namespace DirectorySink

open Sink

section Files

variable {root : Path} {source other : String × String} {disk after : Disk} {storage : Storage}

/-- The file of a source holds its text. -/
def IsHeld (root : Path) (source : String × String) (disk : Disk) : Prop :=
  (disk.read? (root.join ⟨source.1⟩)).bind String.fromUTF8? = some source.2

instance (root : Path) (source : String × String) (disk : Disk) : Decidable (IsHeld root source disk) :=
  inferInstanceAs (Decidable (_ = some source.2))

/-- A text stands in the file of a name, and no other file was changed. -/
def Puts (root : Path) (source : String × String) (before after : Disk) : Prop :=
  ∃ above, after.locate (root.join ⟨source.1⟩) = .ok (above ++ [source.1]) ∧
    after.tree.at? (above ++ [source.1]) = some (.file source.2.toUTF8) ∧
    ∀ place, place ≠ above ++ [source.1] → ∀ content,
      after.tree.at? place = some (.file content) ↔ before.tree.at? place = some (.file content)

theorem Stores.puts (named : Path.IsName source.1) (stores : Stores root source disk storage after)
    (isStored : storage.isStored = true) : Puts root source disk after := by
  cases stores with
  | held read =>
    obtain ⟨_, place, located, here⟩ := Disk.read?_eq_some_iff.mp read
    obtain ⟨above, _, rfl⟩ := Disk.exists_above named located
    exact ⟨above, located, here, fun _ _ _ => Iff.rfl⟩
  | written _ created done =>
    obtain ⟨_, place, located, notDirectory, put, _⟩ := Disk.exists_write done
    obtain ⟨above, _, rfl⟩ := Disk.exists_above named located
    refine ⟨above, (Disk.locate_of_write done).mpr located, Tree.at?_written put, ?_⟩
    intro other different content
    exact (Tree.at?_written_file_iff put notDirectory different).trans
      (Disk.sameFiles_of_createDirectories created other content)
  | unmade => cases isStored
  | refused => cases isStored

theorem Stores.sameFiles (stores : Stores root source disk storage after)
    (notWritten : storage ≠ .written) : disk.SameFiles after := by
  cases stores with
  | held => exact fun _ _ => Iff.rfl
  | unmade _ failed => exact Disk.sameFiles_of_createDirectories failed
  | refused _ created _ => exact Disk.sameFiles_of_createDirectories created
  | written => exact absurd rfl notWritten

/-- A source that is stored changes the disk if its file does not hold it already. -/
theorem Stores.ne_iff (stores : Stores root source disk storage after) (isStored : storage.isStored = true) :
    after ≠ disk ↔ ¬ IsHeld root source disk := by
  cases stores with
  | held read => exact iff_of_false (by simp) (not_not_intro (holds_iff.mpr read))
  | written stale _ done =>
    refine iff_of_true ?_ (mt holds_iff.mp stale)
    rintro rfl
    exact stale (Disk.read?_of_write done)
  | unmade => cases isStored
  | refused => cases isStored

/-- A file is read as before when a source of another name is stored. -/
theorem Stores.read?_other (named : Path.IsName source.1) (named' : Path.IsName other.1)
    (different : other.1 ≠ source.1) (stores : Stores root other disk storage after) {bytes : ByteArray}
    (read : disk.read? (root.join ⟨source.1⟩) = some bytes) :
    after.read? (root.join ⟨source.1⟩) = some bytes := by
  have made : ∀ {made : Disk} {isPresent : Bool}, disk.createDirectories root = (made, isPresent) →
      made.read? (root.join ⟨source.1⟩) = some bytes := by
    intro made isPresent created
    obtain ⟨fits, place, located, here⟩ := Disk.read?_eq_some_iff.mp read
    exact Disk.read?_eq_some_iff.mpr ⟨fits, place, (Disk.keeps_createDirectories created).locate located,
      (Disk.sameFiles_of_createDirectories created place bytes).mpr here⟩
  cases stores with
  | held => exact read
  | unmade _ failed => exact made failed
  | refused _ created _ => exact made created
  | written _ created done => exact (read?_of_write_other named named' different done).mpr (made created)

end Files

/-- The sink on a disk as a machine: its state is what it has noted, and the disk. -/
def answer (call : Call) (state : DirectorySink × Disk) :
    Option StorageProblem × (DirectorySink × Disk) :=
  let ((failure, noted), disk) := (((sink Disk.host).perform call).run state.1).run state.2
  (failure, noted, disk)

theorem answer_add (name text : String) (state : DirectorySink × Disk) :
    answer (.add name text) state =
      let (storage, after) := stored state.1.root (name, text) state.2
      (storage.problem? state.1.root name, state.1.noted name storage, after) := by
  have done := run_add state.1 (name, text) state.2
  have asked : (sink Disk.host).perform (.add name text) = add Disk.host name text := rfl
  rw [answer, asked, done]

section Steps

/-- The path of a source that was stored where its file did not hold it. -/
def wrote? (root : Path) (step : Step (DirectorySink × Disk) StorageProblem) : Option Path :=
  match step.call, step.failure with
  | .add name text, none =>
    if IsHeld root (name, text) step.before.2 then none else some (root.join ⟨name⟩)
  | _, _ => none

/-- A source was stored, and its file held it already. -/
def found (root : Path) (step : Step (DirectorySink × Disk) StorageProblem) : Bool :=
  match step.call, step.failure with
  | .add name text, none => IsHeld root (name, text) step.before.2
  | _, _ => false

/-- What a call comes to: a diagnostic is noted, or a source stands in its file, or it cannot be stored and
no file is changed. -/
def IsOrderly (root : Path) : Step (DirectorySink × Disk) StorageProblem → Prop
  | ⟨.report diagnostic, failure, before, after⟩ => failure = none ∧
    after = ({ before.1 with diagnostics := before.1.diagnostics ++ [diagnostic] }, before.2)
  | ⟨.add name text, none, before, after⟩ => Puts root (name, text) before.2 after.2 ∧
    (after.2 ≠ before.2 ↔ ¬ IsHeld root (name, text) before.2)
  | ⟨.add _ _, some _, before, after⟩ => after.1 = before.1 ∧ before.2.SameFiles after.2

variable (call : Call) (state : DirectorySink × Disk)

theorem isOrderly_of (named : ∀ name text, call = .add name text → Path.IsName name) :
    IsOrderly state.1.root (.of answer call state) := by
  cases call with
  | report diagnostic => exact ⟨rfl, rfl⟩
  | add name text =>
    have own : Path.IsName name := named name text rfl
    have stores := stores_stored state.1.root (name, text) state.2
    rw [Step.of, answer_add]
    generalize stored state.1.root (name, text) state.2 = result at stores
    obtain ⟨storage, after⟩ := result
    cases storage with
    | held => exact ⟨stores.puts own rfl, stores.ne_iff rfl⟩
    | written => exact ⟨stores.puts own rfl, stores.ne_iff rfl⟩
    | unmade => exact ⟨rfl, stores.sameFiles (by simp)⟩
    | refused => exact ⟨rfl, stores.sameFiles (by simp)⟩

/-- What the sink notes of a call. -/
theorem noted_of : (Step.of answer call state).after.1 =
    { root := state.1.root
      written := state.1.written ++ (wrote? state.1.root (.of answer call state)).toList
      unchanged := state.1.unchanged + if found state.1.root (.of answer call state) then 1 else 0
      diagnostics := state.1.diagnostics ++ call.diagnostic?.toList } := by
  cases call with
  | report diagnostic =>
    have reported : (Step.of answer (.report diagnostic) state).after.1 =
      { state.1 with diagnostics := state.1.diagnostics ++ [diagnostic] } := rfl
    rw [reported]
    simp [wrote?, found, Step.of]
  | add name text =>
    have stores := stores_stored state.1.root (name, text) state.2
    rw [Step.of, answer_add]
    generalize stored state.1.root (name, text) state.2 = result at stores
    obtain ⟨storage, after⟩ := result
    cases stores with
    | held read =>
      have current : IsHeld state.1.root (name, text) state.2 := holds_iff.mpr read
      simp [wrote?, found, Storage.problem?, noted, current]
    | unmade => simp [wrote?, found, Storage.problem?, noted]
    | refused => simp [wrote?, found, Storage.problem?, noted]
    | written stale =>
      have changed : ¬ IsHeld state.1.root (name, text) state.2 := mt holds_iff.mp stale
      simp [wrote?, found, Storage.problem?, noted, changed]

theorem root_of : (Step.of answer call state).after.1.root = state.1.root := by
  rw [noted_of]

/-- The file of a source stays as it is when a source of another name is stored. -/
theorem read?_of {source : String × String} (own : Path.IsName source.1)
    (named : ∀ name text, call = .add name text → Path.IsName name ∧ name ≠ source.1)
    {bytes : ByteArray} (read : state.2.read? (state.1.root.join ⟨source.1⟩) = some bytes) :
    (Step.of answer call state).after.2.read? (state.1.root.join ⟨source.1⟩) = some bytes := by
  cases call with
  | report diagnostic => exact read
  | add name text =>
    obtain ⟨named', different⟩ := named name text rfl
    have stores := stores_stored state.1.root (name, text) state.2
    rw [Step.of, answer_add]
    exact stores.read?_other own named' different read

end Steps

section Runs

variable {calls : List Call} (state : DirectorySink × Disk)

theorem root_record : ∀ step ∈ (record answer calls state).1, step.after.1.root = state.1.root := by
  induction calls generalizing state with
  | nil => simp [record]
  | cons call rest ih =>
    have later := ih (Step.of answer call state).after
    rw [root_of] at later
    exact List.forall_mem_cons.mpr ⟨root_of call state, later⟩

theorem isOrderly_record (named : ∀ name text, .add name text ∈ calls → Path.IsName name) :
    ∀ step ∈ (record answer calls state).1, IsOrderly state.1.root step := by
  induction calls generalizing state with
  | nil => simp [record]
  | cons call rest ih =>
    have first : IsOrderly state.1.root (.of answer call state) :=
      isOrderly_of call state fun name text same => named name text (by simp [same])
    have later := ih (Step.of answer call state).after
      fun name text member => named name text (List.mem_cons_of_mem _ member)
    rw [root_of] at later
    exact List.forall_mem_cons.mpr ⟨first, later⟩

theorem noted_record : (record answer calls state).2.1 =
    { root := state.1.root
      written := state.1.written ++ (record answer calls state).1.filterMap (wrote? state.1.root)
      unchanged := state.1.unchanged + (record answer calls state).1.countP (found state.1.root)
      diagnostics := state.1.diagnostics ++ calls.filterMap Call.diagnostic? } := by
  induction calls generalizing state with
  | nil => simp [record]
  | cons call rest ih =>
    have first := noted_of call state
    have later := ih (Step.of answer call state).after
    rw [record_cons]
    dsimp only
    rw [later, first]
    simp [List.filterMap_eq_flatMap_toList, List.countP_cons]
    omega

theorem read?_record {source : String × String} (own : Path.IsName source.1)
    (named : ∀ name text, .add name text ∈ calls → Path.IsName name ∧ name ≠ source.1)
    {bytes : ByteArray} (read : state.2.read? (state.1.root.join ⟨source.1⟩) = some bytes) :
    (record answer calls state).2.2.read? (state.1.root.join ⟨source.1⟩) = some bytes := by
  induction calls generalizing state with
  | nil => exact read
  | cons call rest ih =>
    have first := read?_of call state own (fun name text same => named name text (by simp [same])) read
    have later := ih (Step.of answer call state).after
      fun name text member => named name text (List.mem_cons_of_mem _ member)
    rw [root_of] at later
    exact later first

/-- The file of the last source of its name holds its text when the run has ended. -/
theorem read?_of_isLastStored {source : String × String}
    (named : ∀ name text, .add name text ∈ calls → Path.IsName name)
    (last : IsLastStored source (record answer calls state).1) :
    (record answer calls state).2.2.read? (state.1.root.join ⟨source.1⟩) = some source.2.toUTF8 := by
  obtain ⟨earlier, step, later, split, called, done, others⟩ := last
  have offered : calls = earlier.map Step.call ++ .add source.1 source.2 :: later.map Step.call := by
    have all : (record answer calls state).1.map Step.call = calls := calls_record calls state
    rw [split, List.map_append, List.map_cons, called] at all
    exact all.symm
  have member : step ∈ (record answer calls state).1 := by simp [split]
  have own : Path.IsName source.1 := named source.1 source.2 (by simp [offered])
  have orderly := isOrderly_record state named step member
  have rooted := root_record state step member
  have apart : ∀ name text, .add name text ∈ later.map Step.call →
      Path.IsName name ∧ name ≠ source.1 := by
    intro name text listed
    refine ⟨named name text ?_, ?_⟩
    · rw [offered]
      exact List.mem_append_right _ (List.mem_cons_of_mem _ listed)
    · rintro rfl
      obtain ⟨other, member, same⟩ := List.mem_map.mp listed
      exact others other member text same
  have read : step.after.2.read? (step.after.1.root.join ⟨source.1⟩) = some source.2.toUTF8 := by
    rw [rooted]
    obtain ⟨call, failure, before, after⟩ := step
    cases called
    cases done
    obtain ⟨⟨above, located, here, _⟩, _⟩ := orderly
    exact Disk.read?_eq_some_iff.mpr ⟨Disk.namesDirectory_join own, _, located, here⟩
  have stays := read?_record step.after own apart read
  rwa [record_after split, rooted] at stays

theorem answer_held {source : String × String}
    (read : state.2.read? (state.1.root.join ⟨source.1⟩) = some source.2.toUTF8) :
    answer (.add source.1 source.2) state =
      (none, { state.1 with unchanged := state.1.unchanged + 1 }, state.2) := by
  rw [answer_add, stores_iff.mp (.held read)]
  rfl

/-- Sources that their files hold already are found there, and nothing else is done. -/
theorem record_held {again : List (String × String)}
    (held : ∀ source ∈ again, state.2.read? (state.1.root.join ⟨source.1⟩) = some source.2.toUTF8) :
    let run := record answer (again.map fun source => .add source.1 source.2) state
    (∀ step ∈ run.1, step.failure = none) ∧
      run.2 = ({ state.1 with unchanged := state.1.unchanged + again.length }, state.2) := by
  induction again generalizing state with
  | nil => exact ⟨by simp [record], rfl⟩
  | cons source rest ih =>
    obtain ⟨own, others⟩ := List.forall_mem_cons.mp held
    obtain ⟨quiet, reached⟩ := ih ({ state.1 with unchanged := state.1.unchanged + 1 }, state.2) others
    rw [List.map_cons, record_cons, Step.of, answer_held state own]
    refine ⟨List.forall_mem_cons.mpr ⟨rfl, quiet⟩, reached.trans ?_⟩
    simp [Nat.add_assoc, Nat.add_comm 1]

end Runs

/-- The account of a sink of a directory, whatever it is asked for and whatever is on the disk. Each call is
orderly. The files listed as written are those of the sources that were stored where their files did not
hold them, in order, and the other sources that were stored are counted. When sources that were the last
stored under their names are given to a fresh sink, nothing is written. -/
theorem account_is_exact (root : Path) (disk : Disk) {calls : List Call}
    (named : ∀ name text, .add name text ∈ calls → Path.IsName name) :
    let run := record answer calls ({ root }, disk)
    (∀ step ∈ run.1, IsOrderly root step) ∧
      run.2.1.written = run.1.filterMap (wrote? root) ∧
      run.2.1.unchanged = run.1.countP (found root) ∧
      run.2.1.diagnostics = calls.filterMap Call.diagnostic? ∧
      ∀ again : List (String × String), (∀ source ∈ again, IsLastStored source run.1) →
        let second := record answer (again.map fun source => .add source.1 source.2) ({ root }, run.2.2)
        (∀ step ∈ second.1, step.failure = none) ∧
          second.2 = ({ root, unchanged := again.length }, run.2.2) := by
  intro run
  have noted : run.2.1 = _ := noted_record ({ root }, disk)
  refine ⟨isOrderly_record ({ root }, disk) named, by simp [noted, run], by simp [noted, run],
    by simp [noted], fun again last => ?_⟩
  have held : ∀ source ∈ again, run.2.2.read? (root.join ⟨source.1⟩) = some source.2.toUTF8 :=
    fun source member => read?_of_isLastStored ({ root }, disk) named (last source member)
  simpa using record_held ({ root }, run.2.2) held

/-- A directory in which one name is taken by a directory. -/
def outputDisk : Disk where
  tree := .directory [("out", .directory [("b.rs", .directory []), ("c.rs", .file "C".toUTF8)])]

/-- A name that comes with two texts, one that cannot be stored, and texts that are there already. -/
def outputCalls : List Call :=
  [.add "a.rs" "A", .report (Diagnostic.of .notADeclaration []), .add "b.rs" "B", .add "c.rs" "C",
    .add "a.rs" "changed", .add "a.rs" "changed"]

theorem account_is_exact_output :
    let run := record answer outputCalls ({ root := ⟨"out"⟩ }, outputDisk)
    let again := [("a.rs", "changed"), ("c.rs", "C")]
    let second := record answer (again.map fun source => .add source.1 source.2)
      ({ root := ⟨"out"⟩ }, run.2.2)
    (∀ name text, .add name text ∈ outputCalls → Path.IsName name) ∧
      (∀ source ∈ again, IsLastStored source run.1) ∧
      (∀ step ∈ run.1, IsOrderly ⟨"out"⟩ step) ∧
      run.1.map Step.failure = [none, none, some ⟨"b.rs", "cannot write out/b.rs"⟩, none, none, none] ∧
      run.2.1.written = [⟨"out/a.rs"⟩, ⟨"out/a.rs"⟩] ∧ run.2.1.unchanged = 2 ∧
      run.2.1.diagnostics = [Diagnostic.of .notADeclaration []] ∧
      (∀ step ∈ second.1, step.failure = none) ∧
      second.2 = ({ root := ⟨"out"⟩, unchanged := 2 }, run.2.2) := by
  have named : ∀ name text, .add name text ∈ outputCalls → Path.IsName name := by
    have names : ∀ source ∈ outputCalls.filterMap Call.source?, Path.IsName source.1 := by decide +kernel
    intro name text member
    exact names (name, text) (List.mem_filterMap.mpr ⟨_, member, rfl⟩)
  have last : ∀ source ∈ [("a.rs", "changed"), ("c.rs", "C")],
      IsLastStored source (record answer outputCalls ({ root := ⟨"out"⟩ }, outputDisk)).1 := by
    have changed : IsLastStored ("a.rs", "changed") (record answer
        (outputCalls.take 5 ++ [.add "a.rs" "changed"]) ({ root := ⟨"out"⟩ }, outputDisk)).1 :=
      isLastStored_append (by decide +kernel) (by simp)
    have kept : IsLastStored ("c.rs", "C") (record answer
        (outputCalls.take 3 ++ .add "c.rs" "C" :: outputCalls.drop 4)
        ({ root := ⟨"out"⟩ }, outputDisk)).1 :=
      isLastStored_append (by decide +kernel) (by simp [outputCalls])
    exact List.forall_mem_cons.mpr ⟨changed, List.forall_mem_singleton.mpr kept⟩
  have reported : outputCalls.filterMap Call.diagnostic? = [Diagnostic.of .notADeclaration []] := rfl
  obtain ⟨orderly, _, _, diagnostics, repeated⟩ := account_is_exact ⟨"out"⟩ outputDisk named
  obtain ⟨quiet, reached⟩ := repeated _ last
  exact ⟨named, last, orderly, by decide +kernel, by decide +kernel, by decide +kernel,
    diagnostics.trans reported, quiet, reached⟩

end DirectorySink
end TermBind

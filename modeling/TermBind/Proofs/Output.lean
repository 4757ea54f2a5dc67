import Mathlib.Data.List.Perm.Basic
import TermBind.Output
import TermBind.Proofs.Diagnostic.Order

/-! What an evaluation puts together. Every product has its artifact under a name of its own or is
reported, never both. -/
namespace TermBind.Output

variable (products : List Product)

/-- The products under a name. -/
def producers (name : String) : List Product :=
  products.filter fun product => product.artifact.name == name

/-- The names of the artifacts, each once. -/
def names : List String := Collection.ascending (products.map fun product => product.artifact.name)

/-- Several products of one name are reported in the same words. -/
def collision (name : String) (rivals : List Product) : Diagnostic :=
  Diagnostic.of .duplicateArtifactName
    [name, ", ".intercalate (Collection.sortOn id
      (rivals.map fun product => product.artifact.binding.qualifiedName.display))]

/-- What is reported of a product, given those of its name. -/
def contention (product : Product) : List Diagnostic :=
  match producers products product.artifact.name with
  | [_] => []
  | rivals => [(collision product.artifact.name rivals).locatedAt product.location]

/-- What is reported of a declaration: why it failed, or that others produce an artifact of its
artifact's name. -/
def reports : Outcome Product → List Diagnostic
  | .failed diagnostics => diagnostics.toList
  | .ok product => contention products product

theorem candidates_eq :
    candidates products = (names products).map fun name => (name, producers products name) :=
  Collection.groups_map ..

theorem nodup_names : (names products).Nodup := Collection.nodup_ascending _

variable {products}

theorem mem_names {name : String} : name ∈ names products ↔ producers products name ≠ [] := by
  rw [names, Collection.mem_ascending, producers, ne_eq, List.filter_eq_nil_iff]
  simp

theorem producers_name {name : String} {product : Product}
    (member : product ∈ producers products name) : product.artifact.name = name := by
  simpa using (List.mem_filter.mp member).2

theorem mem_producers {product : Product} :
    product ∈ producers products product.artifact.name ↔ product ∈ products := by
  simp [producers]

theorem contention_eq_nil {product : Product} (member : product ∈ products) :
    contention products product = [] ↔
      producers products product.artifact.name = [product] := by
  have own : product ∈ producers products product.artifact.name := mem_producers.mpr member
  unfold contention
  cases alone : producers products product.artifact.name with
  | nil =>
    rw [alone] at own
    cases own
  | cons only rest =>
    cases rest with
    | nil =>
      rw [alone] at own
      simp [List.mem_singleton.mp own]
    | cons => simp

/-- The products of a contested name are reported one by one. -/
theorem contested_eq (name : String) :
    contested (name, producers products name) =
      (producers products name).flatMap (contention products) := by
  have each : ∀ product ∈ producers products name, contention products product =
      match producers products name with
      | [_] => []
      | rivals => [(collision name rivals).locatedAt product.location] := by
    intro product member
    rw [contention, producers_name member]
  rw [List.flatMap_congr each]
  unfold contested
  rcases producers products name with _ | ⟨first, _ | ⟨second, rest⟩⟩
  · rfl
  · rfl
  · exact List.map_eq_flatMap ..

/-- The artifact of a name, if one product alone has the name. -/
def artifact? : List Product → Option Artifact
  | [product] => some product.artifact
  | _ => none

theorem artifact?_eq_some {rivals : List Product} {artifact : Artifact} :
    artifact? rivals = some artifact ↔ ∃ location, rivals = [⟨artifact, location⟩] := by
  rcases rivals with _ | ⟨⟨own, location⟩, _ | ⟨second, rest⟩⟩ <;> simp [artifact?]

section Assemble

variable (overrides : SeverityOverrides) (first : List Diagnostic)
  (outcomes : List (Outcome Product))

theorem artifacts_assemble :
    (assemble overrides first outcomes).artifacts =
      (names (outcomes.filterMap Outcome.value?)).filterMap fun name =>
        (artifact? (producers (outcomes.filterMap Outcome.value?) name)).map
          fun artifact => (name, artifact) := by
  change (candidates _).filterMap accepted? = _
  rw [candidates_eq, List.filterMap_map]
  congr 1
  funext name
  simp only [Function.comp_apply, accepted?, artifact?]
  rcases producers _ name with _ | ⟨product, _ | ⟨second, rest⟩⟩ <;> rfl

theorem mem_artifacts_assemble {name : String} {artifact : Artifact} :
    (name, artifact) ∈ (assemble overrides first outcomes).artifacts ↔
      ∃ location, producers (outcomes.filterMap Outcome.value?) name = [⟨artifact, location⟩] := by
  rw [artifacts_assemble, List.mem_filterMap, ← artifact?_eq_some]
  constructor
  · rintro ⟨other, _, found⟩
    obtain ⟨artifact', alone, same⟩ := Option.map_eq_some_iff.mp found
    cases same
    exact alone
  · intro alone
    refine ⟨name, mem_names.mpr ?_, by rw [alone]; rfl⟩
    intro none
    rw [none] at alone
    cases alone

theorem pairwise_artifacts :
    ((assemble overrides first outcomes).artifacts.map Prod.fst).Pairwise
      fun left right => compare left right = .lt := by
  rw [artifacts_assemble]
  exact (Collection.pairwise_ascending _).sublist (Collection.keys_sublist ..)

/-- The diagnostics of an evaluation are those given first and what is reported of each
declaration. -/
theorem problems_perm :
    (problems first outcomes).Perm
      (first ++ outcomes.flatMap (reports (outcomes.filterMap Outcome.value?))) := by
  let products := outcomes.filterMap Outcome.value?
  have contests : ((candidates products).flatMap contested).Perm
      (products.flatMap (contention products)) := by
    rw [candidates_eq, List.flatMap_map, funext contested_eq, ← List.flatMap_assoc]
    apply List.Perm.flatMap_right
    apply Collection.flatMap_filter_perm _ (nodup_names products)
    intro product member
    exact Collection.mem_ascending.mpr (List.mem_map_of_mem member)
  -- A declaration failed or has a product, so one of its two parts is always empty.
  have split : outcomes.flatMap (reports products) = outcomes.flatMap fun outcome =>
      outcome.diagnostics ++ outcome.value?.elim [] (contention products) := by
    apply List.flatMap_congr
    rintro (product | diagnostics) _
    · rfl
    · exact (List.append_nil _).symm
  rw [Collection.flatMap_filterMap] at contests
  rw [problems, List.append_assoc, split]
  apply List.Perm.append_left
  exact (contests.append_left _).trans (List.flatMap_append_perm ..)

end Assemble

section Reordering

variable {left right : List Product}

theorem producers_perm (perm : left.Perm right) (name : String) :
    (producers left name).Perm (producers right name) := perm.filter _

theorem names_eq_of_perm (perm : left.Perm right) : names left = names right :=
  Collection.ascending_congr fun _ => (perm.map _).mem_iff

theorem artifact?_eq_of_perm (perm : left.Perm right) : artifact? left = artifact? right := by
  rcases Collection.eq_or_several_of_perm perm with rfl | ⟨⟨_, _, _, rfl⟩, _, _, _, rfl⟩
  · rfl
  · rfl

theorem collision_eq_of_perm (perm : left.Perm right) (name : String) :
    collision name left = collision name right := by
  unfold collision
  rw [Collection.sortOn_eq_of_perm id (perm.map _)]
  exact fun _ _ _ _ level => Std.LawfulEqOrd.eq_of_compare level

theorem contested_eq_ite (name : String) (rivals : List Product) :
    contested (name, rivals) = if rivals.length = 1 then [] else
      rivals.map fun product => (collision name rivals).locatedAt product.location := by
  unfold contested
  rcases rivals with _ | ⟨first, _ | ⟨second, rest⟩⟩ <;> rfl

/-- What comes of a declaration stands in a file: the product, or each of the faults. -/
def StandsIn (file : String) : Outcome Product → Prop
  | .ok product => product.location.map Location.file = some file
  | .failed diagnostics => ∀ diagnostic ∈ diagnostics.toList, diagnostic.StandsIn file

section Files

variable {α : Type} {file : α → String} {outcomes : α → List (Outcome Product)}
  {lefts rights : List α} (perm : lefts.Perm rights) (distinct : (lefts.map file).Nodup)
  (placed : ∀ item ∈ lefts, ∀ outcome ∈ outcomes item, StandsIn (file item) outcome)

include perm distinct placed

theorem filter_failures_eq_of_perm (at_ : Diagnostic.SortKey) :
    ((lefts.flatMap outcomes).flatMap Outcome.diagnostics).filter
        (fun diagnostic => compare diagnostic.sortKey at_ == .eq) =
      ((rights.flatMap outcomes).flatMap Outcome.diagnostics).filter
        fun diagnostic => compare diagnostic.sortKey at_ == .eq := by
  rw [List.flatMap_assoc, List.flatMap_assoc]
  apply Diagnostic.filter_flatMap_eq_of_perm perm distinct
  intro item known diagnostic member
  obtain ⟨outcome, listed, reported⟩ := List.mem_flatMap.mp member
  have stands := placed item known outcome listed
  cases outcome with
  | ok product => cases reported
  | failed diagnostics => exact stands diagnostic reported

theorem filter_contested_eq_of_perm (name : String) (at_ : Diagnostic.SortKey) :
    (contested (name, producers ((lefts.flatMap outcomes).filterMap Outcome.value?) name)).filter
        (fun diagnostic => compare diagnostic.sortKey at_ == .eq) =
      (contested (name, producers ((rights.flatMap outcomes).filterMap Outcome.value?) name)).filter
        fun diagnostic => compare diagnostic.sortKey at_ == .eq := by
  have rivals := producers_perm ((perm.flatMap_right outcomes).filterMap Outcome.value?) name
  rw [contested_eq_ite, contested_eq_ite, rivals.length_eq, collision_eq_of_perm rivals]
  split
  · rfl
  have split : ∀ items : List α,
      producers ((items.flatMap outcomes).filterMap Outcome.value?) name =
        items.flatMap fun item => producers ((outcomes item).filterMap Outcome.value?) name := by
    intro items
    simp [producers, List.filterMap_flatMap, List.filter_flatMap]
  -- Both orders are reported in the same words; what is left to compare is where.
  generalize made : collision name _ = reported
  have unlocated : reported.location = none := made ▸ rfl
  rw [split, split, List.map_flatMap, List.map_flatMap]
  apply Diagnostic.filter_flatMap_eq_of_perm perm distinct
  intro item known diagnostic member
  obtain ⟨product, produced, rfl⟩ := List.mem_map.mp member
  obtain ⟨outcome, listed, value⟩ := List.mem_filterMap.mp (List.mem_filter.mp produced).1
  have stands := placed item known outcome listed
  cases outcome with
  | ok own =>
    cases value
    exact Diagnostic.standsIn_locatedAt unlocated stands
  | failed diagnostics => cases value

theorem assemble_eq_of_perm (overrides : SeverityOverrides) (first : List Diagnostic) :
    assemble overrides first (lefts.flatMap outcomes) =
      assemble overrides first (rights.flatMap outcomes) := by
  have products := (perm.flatMap_right outcomes).filterMap Outcome.value?
  have artifacts : (assemble overrides first (lefts.flatMap outcomes)).artifacts =
      (assemble overrides first (rights.flatMap outcomes)).artifacts := by
    rw [artifacts_assemble, artifacts_assemble, names_eq_of_perm products]
    congr 1
    funext name
    rw [artifact?_eq_of_perm (producers_perm products name)]
  have diagnostics : (assemble overrides first (lefts.flatMap outcomes)).diagnostics =
      (assemble overrides first (rights.flatMap outcomes)).diagnostics := by
    apply Diagnostic.sortOn_apply_congr
    intro at_
    simp only [problems, List.filter_append]
    rw [filter_failures_eq_of_perm perm distinct placed, candidates_eq, candidates_eq,
      names_eq_of_perm products]
    congr 1
    simp only [List.flatMap_map, List.filter_flatMap]
    apply List.flatMap_congr
    intro name _
    exact filter_contested_eq_of_perm perm distinct placed name at_
  exact Output.mk.injEq .. ▸ ⟨artifacts, diagnostics⟩

end Files
end Reordering

/-- That one of some names has several artifacts is reported. -/
def contends (names : List String) (diagnostic : Diagnostic) : Bool :=
  diagnostic.code == .duplicateArtifactName && diagnostic.arguments.head?.any fun name => name ∈ names

theorem contends_collision {names : List String} {name : String} {rivals : List Product}
    {location : Option Location} :
    contends names ((collision name rivals).locatedAt location) = decide (name ∈ names) := by
  simp [contends, collision, Diagnostic.of, Diagnostic.locatedAt]

/-- Whatever is reported of a product says that its name has several artifacts. -/
theorem contends_of_mem_contention {products : List Product} {product : Product}
    {diagnostic : Diagnostic} (member : diagnostic ∈ contention products product)
    {names : List String} :
    contends names diagnostic = decide (product.artifact.name ∈ names) := by
  unfold contention at member
  split at member
  · cases member
  · rw [List.mem_singleton.mp member]
    exact contends_collision

theorem contention_eq_of_perm {left right : List Product} {product : Product}
    (perm : (producers left product.artifact.name).Perm (producers right product.artifact.name)) :
    contention left product = contention right product := by
  have reported := collision_eq_of_perm perm product.artifact.name
  unfold contention
  generalize producers left product.artifact.name = rivals at perm reported
  generalize producers right product.artifact.name = rivals' at perm reported
  rcases Collection.eq_or_several_of_perm perm with rfl | ⟨⟨_, _, _, rfl⟩, _, _, _, rfl⟩
  · rfl
  · simp only [reported]

section Adding

variable {all others own : List (Outcome Product)} (perm : all.Perm (others ++ own))

/-- The names of what some declarations produce. -/
def ownNames (own : List (Outcome Product)) : List String :=
  (own.filterMap Outcome.value?).map fun product => product.artifact.name

theorem producers_eq_nil {name : String} {products : List Product}
    (foreign : name ∉ products.map fun product => product.artifact.name) :
    producers products name = [] := by
  rw [producers, List.filter_eq_nil_iff]
  intro product member same
  exact foreign (List.mem_map.mpr ⟨product, member, by simpa using same⟩)

include perm

theorem producers_added (name : String) :
    (producers (all.filterMap Outcome.value?) name).Perm
      (producers (others.filterMap Outcome.value?) name ++
        producers (own.filterMap Outcome.value?) name) := by
  have products := producers_perm (perm.filterMap Outcome.value?) name
  rwa [List.filterMap_append, producers, producers, List.filter_append] at products

/-- Added declarations leave the names that they do not produce as they are. -/
theorem producers_unrelated {name : String} (foreign : name ∉ ownNames own) :
    (producers (all.filterMap Outcome.value?) name).Perm
      (producers (others.filterMap Outcome.value?) name) := by
  have added := producers_added perm name
  rwa [producers_eq_nil foreign, List.append_nil] at added

variable (overrides : SeverityOverrides) (first : List Diagnostic)

theorem mem_artifacts_unrelated {name : String} (foreign : name ∉ ownNames own)
    {artifact : Artifact} :
    (name, artifact) ∈ (assemble overrides first all).artifacts ↔
      (name, artifact) ∈ (assemble overrides first others).artifacts := by
  rw [mem_artifacts_assemble, mem_artifacts_assemble, ← artifact?_eq_some, ← artifact?_eq_some,
    artifact?_eq_of_perm (producers_unrelated perm foreign)]

/-- A name that added declarations produce has its artifact if they alone produce it, and once. -/
theorem mem_artifacts_own {name : String} (produced : name ∈ ownNames own) {artifact : Artifact} :
    (name, artifact) ∈ (assemble overrides first all).artifacts ↔
      (∃ location, producers (own.filterMap Outcome.value?) name = [⟨artifact, location⟩]) ∧
        producers (others.filterMap Outcome.value?) name = [] := by
  obtain ⟨product, member, named⟩ := List.mem_map.mp produced
  have present : producers (own.filterMap Outcome.value?) name ≠ [] :=
    List.ne_nil_of_mem (named ▸ mem_producers.mpr member)
  rw [mem_artifacts_assemble]
  constructor
  · rintro ⟨location, alone⟩
    have added := producers_added perm name
    rw [alone, List.singleton_perm] at added
    rcases List.append_eq_singleton_iff.mp added.symm with ⟨none, only⟩ | ⟨_, none⟩
    · exact ⟨⟨location, only⟩, none⟩
    · exact absurd none present
  · rintro ⟨⟨location, only⟩, none⟩
    have added := producers_added perm name
    rw [only, none, List.nil_append, List.perm_singleton] at added
    exact ⟨location, added⟩

/-- What is reported of other declarations stays, but for the names that the added ones produce. -/
theorem filter_reports_unrelated (outcome : Outcome Product) :
    (reports (all.filterMap Outcome.value?) outcome).filter (!contends (ownNames own) ·) =
      (reports (others.filterMap Outcome.value?) outcome).filter (!contends (ownNames own) ·) := by
  cases outcome with
  | failed diagnostics => rfl
  | ok product =>
    by_cases produced : product.artifact.name ∈ ownNames own
    · have hidden : ∀ products : List Product,
          (contention products product).filter (!contends (ownNames own) ·) = [] := by
        intro products
        rw [List.filter_eq_nil_iff]
        intro diagnostic member
        simp [contends_of_mem_contention member, produced]
      exact (hidden _).trans (hidden _).symm
    · exact congrArg _ (contention_eq_of_perm (producers_unrelated perm produced))

omit perm in
/-- Of the added declarations themselves, only the failures are left. -/
theorem filter_reports_own {outcome : Outcome Product} (listed : outcome ∈ own)
    (plain : ∀ diagnostic ∈ outcome.diagnostics, diagnostic.code ≠ .duplicateArtifactName)
    (products : List Product) :
    (reports products outcome).filter (!contends (ownNames own) ·) = outcome.diagnostics := by
  cases outcome with
  | failed diagnostics =>
    refine List.filter_eq_self.mpr fun diagnostic member => ?_
    simp [contends, plain diagnostic member]
  | ok product =>
    have produced : product.artifact.name ∈ ownNames own :=
      List.mem_map_of_mem (List.mem_filterMap.mpr ⟨_, listed, rfl⟩)
    rw [Outcome.diagnostics, List.filter_eq_nil_iff]
    intro diagnostic member
    simp [contends_of_mem_contention member, produced]

theorem filter_problems_added
    (plain : ∀ outcome ∈ own, ∀ diagnostic ∈ outcome.diagnostics,
      diagnostic.code ≠ .duplicateArtifactName) :
    ((problems first all).filter (!contends (ownNames own) ·)).Perm
      ((problems first others).filter (!contends (ownNames own) ·) ++
        own.flatMap Outcome.diagnostics) := by
  let keep := fun diagnostic => !contends (ownNames own) diagnostic
  let products := all.filterMap Outcome.value?
  have failures : (own.flatMap (reports products)).filter keep = own.flatMap Outcome.diagnostics := by
    rw [List.filter_flatMap]
    exact List.flatMap_congr fun outcome listed =>
      filter_reports_own listed (plain outcome listed) products
  have unrelated : (others.flatMap (reports products)).filter keep =
      (others.flatMap (reports (others.filterMap Outcome.value?))).filter keep := by
    rw [List.filter_flatMap, List.filter_flatMap]
    exact List.flatMap_congr fun outcome _ => filter_reports_unrelated perm outcome
  calc List.Perm ((problems first all).filter keep)
        ((first ++ all.flatMap (reports products)).filter keep) := (problems_perm ..).filter _
    List.Perm _ ((first ++ (others ++ own).flatMap (reports products)).filter keep) :=
      ((perm.flatMap_right _).append_left first).filter _
    _ = (first ++ others.flatMap (reports (others.filterMap Outcome.value?))).filter keep ++
        own.flatMap Outcome.diagnostics := by
      rw [List.flatMap_append, ← List.append_assoc, List.filter_append, failures,
        List.filter_append, unrelated, ← List.filter_append]
    List.Perm _ ((problems first others).filter keep ++ own.flatMap Outcome.diagnostics) :=
      ((problems_perm ..).symm.filter _).append_right _

/-- The diagnostics of an evaluation with added declarations, but for the names that these produce,
are those without them and the failures among them. -/
theorem filter_diagnostics_added
    (plain : ∀ outcome ∈ own, ∀ diagnostic ∈ outcome.diagnostics,
      diagnostic.code ≠ .duplicateArtifactName) :
    ((assemble overrides first all).diagnostics.filter (!contends (ownNames own) ·)).Perm
      ((assemble overrides first others).diagnostics.filter (!contends (ownNames own) ·) ++
        (own.flatMap Outcome.diagnostics).map overrides.apply) := by
  have shown : ∀ outcomes : List (Outcome Product),
      ((assemble overrides first outcomes).diagnostics.filter (!contends (ownNames own) ·)).Perm
        (((problems first outcomes).filter (!contends (ownNames own) ·)).map overrides.apply) := by
    intro outcomes
    have sorted := (Collection.sortOn_perm Diagnostic.sortKey
      ((problems first outcomes).map overrides.apply)).filter (!contends (ownNames own) ·)
    -- Settings change severities only, so it is the same to filter before they are applied.
    rw [List.filter_map] at sorted
    exact sorted
  have added := (filter_problems_added perm first plain).map overrides.apply
  rw [List.map_append] at added
  exact (shown all).trans (added.trans ((shown others).symm.append_right _))

end Adding
end TermBind.Output

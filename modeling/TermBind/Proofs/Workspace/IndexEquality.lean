import TermBind.Proofs.Path.Spelling
import TermBind.Proofs.Workspace.Contents

/-! When equal indexes are reported alike. Indexes are compared by the places that their paths name,
and reports show how the paths are written. -/
namespace TermBind.Workspace.SchemaIndex

/-- Lists are equal if what is the same about them tells their entries apart. -/
theorem eq_of_map_eq {α : Type u} {β : Type v} {f : α → β} {lefts rights : List α}
    (same : lefts.map f = rights.map f)
    (apart : ∀ left ∈ lefts, ∀ right ∈ rights, f left = f right → left = right) :
    lefts = rights := by
  induction lefts generalizing rights with
  | nil => exact (List.map_eq_nil_iff.mp same.symm).symm
  | cons left rest ih =>
    cases rights with
    | nil => cases same
    | cons right others =>
      obtain ⟨head, tail⟩ := List.cons.inj same
      rw [apart left (List.mem_cons_self ..) right (List.mem_cons_self ..) head]
      congr 1
      apply ih tail
      intro left' later right' later'
      exact apart left' (List.mem_cons_of_mem _ later) right' (List.mem_cons_of_mem _ later')

/-- A key with the places that its paths name. -/
def places (entry : String × List Path) : String × List (List Component) :=
  (entry.1, entry.2.map Path.components)

/-- A key that several files provide, as it is reported. -/
def problem (entry : String × List Path) : Diagnostic :=
  Diagnostic.of .duplicateSchemaKey [entry.1, ", ".intercalate (entry.2.map Path.text)]

theorem samePaths_iff {lefts rights : List Path} :
    samePaths lefts rights = true ↔ lefts.map Path.components = rights.map Path.components := by
  induction lefts generalizing rights with
  | nil => cases rights <;> simp [samePaths]
  | cons left rest ih =>
    cases rights with
    | nil => simp [samePaths]
    | cons right others => simp [samePaths, ih, Path.same_iff]

theorem sameDuplicates_iff {lefts rights : List (String × List Path)} :
    sameDuplicates lefts rights = true ↔ lefts.map places = rights.map places := by
  induction lefts generalizing rights with
  | nil => cases rights <;> simp [sameDuplicates]
  | cons left rest ih =>
    cases rights with
    | nil => simp [sameDuplicates]
    | cons right others => simp [sameDuplicates, ih, samePaths_iff, places]

variable {left right : SchemaIndex}

theorem same_iff :
    left.same right = true ↔
      left.documents = right.documents ∧ left.duplicates.map places = right.duplicates.map places := by
  simp [same, sameDuplicates_iff]

theorem lookup_places (entries : List (String × List Path)) (key : String) :
    (entries.map places).lookup key = (entries.lookup key).map fun paths => paths.map Path.components := by
  induction entries with
  | nil => rfl
  | cons entry rest ih =>
    obtain ⟨other, paths⟩ := entry
    simp only [List.map_cons, places, List.lookup_cons]
    split
    · rfl
    · exact ih

/-- Indexes that count as the same send every key to the same file. -/
theorem find_eq_of_same (same : left.same right = true) (key : String) :
    left.find key = right.find key := by
  obtain ⟨documents, duplicates⟩ := same_iff.mp same
  have contested : (left.duplicates.lookup key).isSome = (right.duplicates.lookup key).isSome := by
    have located := congrArg (fun entries => (entries.lookup key).isSome) duplicates
    simpa only [lookup_places, Option.isSome_map] using located
  rw [find, find, documents, contested]

/-- Every path of an index that is reported. -/
def shownPaths (index : SchemaIndex) : List Path := index.duplicates.flatMap Prod.snd

theorem mem_shownPaths {index : SchemaIndex} {entry : String × List Path} {path : Path}
    (listed : entry ∈ index.duplicates) (member : path ∈ entry.2) : path ∈ index.shownPaths :=
  List.mem_flatMap.mpr ⟨entry, listed, member⟩

theorem eq_of_duplicates_eq (documents : left.documents = right.documents)
    (duplicates : left.duplicates = right.duplicates) : left = right := by
  cases left
  cases right
  cases documents
  cases duplicates
  rfl

/-- Indexes that count as the same are equal where no place is written in two ways. -/
theorem eq_of_same {paths : List Path} (alike : Path.SpelledAlike paths)
    (shown : left.shownPaths ⊆ paths) (shown' : right.shownPaths ⊆ paths)
    (same : left.same right = true) : left = right := by
  obtain ⟨documents, duplicates⟩ := same_iff.mp same
  refine eq_of_duplicates_eq documents (eq_of_map_eq duplicates ?_)
  rintro ⟨key, lefts⟩ listed ⟨key', rights⟩ listed' equal
  obtain ⟨rfl, located⟩ := Prod.mk.inj equal
  congr 1
  apply eq_of_map_eq located
  intro path member path' member' place
  exact alike path (shown (mem_shownPaths listed member)) path'
    (shown' (mem_shownPaths listed' member')) (Path.same_iff.mpr place)

/-- A report shows how the paths of each key are written, given the places that they name. -/
theorem entry_eq_of_problem_eq {entry entry' : String × List Path}
    (located : places entry = places entry') (reported : problem entry = problem entry') :
    entry = entry' := by
  obtain ⟨key, lefts⟩ := entry
  obtain ⟨key', rights⟩ := entry'
  obtain ⟨rfl, components⟩ := Prod.mk.inj located
  have arguments := congrArg Diagnostic.arguments reported
  simp only [problem, Diagnostic.of, List.cons.injEq, and_true, true_and] at arguments
  congr 1
  apply Path.eq_of_joined_eq _ arguments
  have commas : ∀ paths : List Path, paths.map Path.commas =
      (paths.map Path.components).map fun found => (found.flatMap Path.letters).count ',' := by
    intro paths
    simp [Path.commas_eq, Function.comp_def]
  rw [commas, commas]
  exact congrArg _ components

theorem duplicates_eq_of_problems_eq (same : left.same right = true)
    (reported : left.problems = right.problems) : left.duplicates = right.duplicates := by
  obtain ⟨_, located⟩ := same_iff.mp same
  have listed : left.duplicates.map problem = right.duplicates.map problem := reported
  have both : (left.duplicates.map places).zip (left.duplicates.map problem) =
      (right.duplicates.map places).zip (right.duplicates.map problem) := by rw [located, listed]
  rw [List.zip_map', List.zip_map'] at both
  apply eq_of_map_eq both
  intro entry _ entry' _ equal
  obtain ⟨places, problems⟩ := Prod.mk.inj equal
  exact entry_eq_of_problem_eq places problems

/-- The index of files reports only paths of the files. -/
theorem shownPaths_ofFiles (extension : String) (files : List (FileId × Path)) :
    (ofFiles extension files).shownPaths ⊆ files.map Prod.snd := by
  intro path shown
  obtain ⟨entry, listed, member⟩ := List.mem_flatMap.mp shown
  rw [duplicates_ofFiles] at listed
  obtain ⟨key, _, found⟩ := List.mem_filterMap.mp listed
  obtain ⟨paths, clashing, rfl⟩ := Option.map_eq_some_iff.mp found
  unfold clashing? at clashing
  split at clashing
  · cases clashing
  · cases clashing
    have held := (Collection.sortOn_perm id _).mem_iff.mp member
    obtain ⟨file, known, rfl⟩ := List.mem_map.mp held
    exact List.mem_map_of_mem (List.mem_filter.mp known).1

/-- The index of two files that one key cannot tell apart. -/
theorem ofFiles_pair {extension key : String} {files : List (FileId × Path)}
    {first second : FileId × Path} (grouped : keyed extension files = [(key, [first, second])])
    (sorted : (compare first.2 second.2).isLE = true) :
    ofFiles extension files = { duplicates := [(key, [first.2, second.2])] } := by
  have ordered : Collection.sortOn id [first.2, second.2] = [first.2, second.2] :=
    List.mergeSort_of_pairwise (by simpa using sorted)
  simp [ofFiles, grouped, document?, duplicate?, ordered]

/-- A file in a folder `a`, and one of the same name in a folder `b`. -/
def inTwoFolders (path : Path) : List (FileId × Path) := [(0, path), (1, ⟨"b/x.ttl"⟩)]

theorem ofFiles_inTwoFolders (path : Path) (known : path ∈ [⟨"a/x.ttl"⟩, (⟨"a//x.ttl"⟩ : Path)]) :
    ofFiles "ttl" (inTwoFolders path) = { duplicates := [("x.ttl", [path, ⟨"b/x.ttl"⟩])] } := by
  have grouped : ∀ path ∈ [⟨"a/x.ttl"⟩, (⟨"a//x.ttl"⟩ : Path)], keyed "ttl" (inTwoFolders path) =
      [("x.ttl", [(0, path), (1, ⟨"b/x.ttl"⟩)])] := by decide +kernel
  have sorted : ∀ path ∈ [⟨"a/x.ttl"⟩, (⟨"a//x.ttl"⟩ : Path)],
      (compare path ⟨"b/x.ttl"⟩).isLE = true := by decide +kernel
  exact ofFiles_pair (grouped path known) (sorted path known)

theorem same_respelled :
    (ofFiles "ttl" (inTwoFolders ⟨"a/x.ttl"⟩)).same (ofFiles "ttl" (inTwoFolders ⟨"a//x.ttl"⟩)) =
      true := by
  rw [ofFiles_inTwoFolders _ (by simp), ofFiles_inTwoFolders _ (by simp)]
  decide +kernel

/-- Indexes of files that count as the same are reported alike exactly if the paths that they show
are written alike. They are if no place is written in two ways among the files. -/
theorem problems_eq_iff_of_same (extension : String) (before after : List (FileId × Path))
    (same : (ofFiles extension before).same (ofFiles extension after) = true) :
    ((ofFiles extension before).problems = (ofFiles extension after).problems ↔
      (ofFiles extension before).duplicates = (ofFiles extension after).duplicates) ∧
    (Path.SpelledAlike ((before ++ after).map Prod.snd) →
      (ofFiles extension before).problems = (ofFiles extension after).problems) := by
  refine ⟨⟨duplicates_eq_of_problems_eq same, ?_⟩, ?_⟩
  · intro duplicates
    rw [problems, problems, duplicates]
  · intro alike
    rw [List.map_append] at alike
    have shown : (ofFiles extension before).shownPaths ⊆ _ := fun _ member =>
      List.mem_append_left (after.map Prod.snd) (shownPaths_ofFiles extension before member)
    have shown' : (ofFiles extension after).shownPaths ⊆ _ := fun _ member =>
      List.mem_append_right (before.map Prod.snd) (shownPaths_ofFiles extension after member)
    rw [eq_of_same alike shown shown' same]

theorem problems_eq_iff_of_respelled :
    (ofFiles "ttl" (inTwoFolders ⟨"a/x.ttl"⟩)).same (ofFiles "ttl" (inTwoFolders ⟨"a//x.ttl"⟩)) =
      true ∧
    ((ofFiles "ttl" (inTwoFolders ⟨"a/x.ttl"⟩)).problems =
        (ofFiles "ttl" (inTwoFolders ⟨"a//x.ttl"⟩)).problems ↔
      (ofFiles "ttl" (inTwoFolders ⟨"a/x.ttl"⟩)).duplicates =
        (ofFiles "ttl" (inTwoFolders ⟨"a//x.ttl"⟩)).duplicates) :=
  ⟨same_respelled, (problems_eq_iff_of_same "ttl" _ _ same_respelled).1⟩

/-- One place in two spellings is enough for equal indexes to be reported differently. -/
theorem same_respelled_and_problems_ne :
    (ofFiles "ttl" (inTwoFolders ⟨"a/x.ttl"⟩)).same (ofFiles "ttl" (inTwoFolders ⟨"a//x.ttl"⟩)) =
      true ∧
    (ofFiles "ttl" (inTwoFolders ⟨"a/x.ttl"⟩)).problems ≠
      (ofFiles "ttl" (inTwoFolders ⟨"a//x.ttl"⟩)).problems := by
  refine ⟨same_respelled, ?_⟩
  rw [ofFiles_inTwoFolders _ (by simp), ofFiles_inTwoFolders _ (by simp)]
  decide +kernel

end TermBind.Workspace.SchemaIndex

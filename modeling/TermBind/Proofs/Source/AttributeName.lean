import TermBind.Proofs.Source.Imports
import TermBind.Scan.File

/-! The names of attributes. A double colon in front of a path makes no difference to the name, so imports
can also rename what is written as absolute. -/
namespace TermBind.Source

/-- The name of an attribute as it is written. -/
def Attribute.written (held : Attribute) : String := "::".intercalate held.path

/-- Imports keep a path if the last one of its first segment stands for just this segment and, when there
is none and the path is a single segment, no path is the only one of which everything is imported. -/
structure Keeps (leaves : List Leaf) (path : List String) : Prop where
  named first target : path.head? = some first →
    (leaves.filterMap (·.pathOf? first)).getLast? = some target → target = [first]
  everything first target : path = [first] → leaves.filterMap (·.pathOf? first) = [] →
    leaves.filterMap Leaf.glob? = [target] → target = []

theorem not_mem_colon {text : List Char} (plain : IsPlain text) : ':' ∉ text :=
  not_mem_of_isPlain (by decide +kernel) (by decide +kernel) plain

/-- Joining several segments, or none, gives no word. -/
theorem intercalate_eq_word_iff {segments : List String} {name : String} (plain : IsPlain name.toList) :
    "::".intercalate segments = name ↔ segments = [name] := by
  constructor
  · intro joined
    match segments, joined with
    | [], joined =>
      subst joined
      exact plain.elim
    | [segment], joined => rw [← joined, String.intercalate_singleton]
    | segment :: next :: others, joined =>
      refine absurd ?_ (not_mem_colon plain)
      simp [← joined, String.intercalate_cons_cons]
  · rintro rfl
    exact String.intercalate_singleton

theorem length_intercalate_append {segments rest : List String} (some : segments ≠ []) (more : rest ≠ []) :
    ("::".intercalate rest).length < ("::".intercalate (segments ++ rest)).length := by
  have mark : "::".length = 2 := rfl
  rw [String.intercalate_append_of_ne_nil some more, String.length_append, String.length_append, mark]
  omega

theorem intercalate_append_eq_iff {segments rest : List String} {first : String}
    (plain : IsPlain first.toList) :
    "::".intercalate (segments ++ rest) = "::".intercalate (first :: rest) ↔ segments = [first] := by
  by_cases none : rest = []
  · rw [none, List.append_nil, String.intercalate_singleton]
    exact intercalate_eq_word_iff plain
  have whole := List.singleton_append (x := first) (l := rest)
  by_cases empty : segments = []
  · have longer := length_intercalate_append (List.cons_ne_nil first []) none
    rw [empty, ← whole]
    exact ⟨fun same => absurd (congrArg String.length same) (Nat.ne_of_lt longer), nofun⟩
  · rw [← whole, String.intercalate_append_of_ne_nil empty none,
      String.intercalate_append_of_ne_nil (List.cons_ne_nil first []) none, String.append_left_inj,
      String.append_left_inj, String.intercalate_singleton]
    exact intercalate_eq_word_iff plain

theorem intercalate_append_eq_rest_iff {segments rest : List String} (more : rest ≠ []) :
    "::".intercalate (segments ++ rest) = "::".intercalate rest ↔ segments = [] := by
  constructor
  · intro same
    refine Decidable.byContradiction fun some => ?_
    exact absurd (congrArg String.length same) (Nat.ne_of_gt (length_intercalate_append some more))
  · rintro rfl
    rfl

variable {leaves : List Leaf} {first : String} {rest : List String}

theorem keeps_iff_of_last {target : List String}
    (last : (leaves.filterMap (·.pathOf? first)).getLast? = some target) :
    Keeps leaves (first :: rest) ↔ target = [first] := by
  constructor
  · exact fun keeps => keeps.named first target rfl last
  · intro same
    refine ⟨?_, ?_⟩
    · rintro _ found ⟨⟩ last'
      rw [← same]
      exact Option.some.inj (last'.symm.trans last)
    · rintro _ found ⟨⟩ none
      simp [none] at last

theorem keeps_iff_of_none (none : leaves.filterMap (·.pathOf? first) = []) :
    Keeps leaves (first :: rest) ↔
      ∀ target, rest = [] → leaves.filterMap Leaf.glob? = [target] → target = [] := by
  constructor
  · rintro keeps target rfl only
    exact keeps.everything first target rfl none only
  · intro kept
    refine ⟨?_, ?_⟩
    · rintro _ target ⟨⟩ last
      simp [none] at last
    · rintro _ target ⟨⟩ _ only
      exact kept target rfl only

/-- The name of an attribute, with a double colon in front or without, is the written one exactly if the
imports of its module keep the path. -/
theorem name_annotationUse_iff (heading : Heading) (module : Option (List String)) (items : List Item)
    (held : Attribute) :
    (Declared.annotationUse { heading, module, scope := .ofItems items } held).name = held.written ↔
      Keeps (importedLeaves items) held.path := by
  obtain ⟨some, spelled⟩ := held.isSpelled
  obtain ⟨first, rest, path⟩ := List.exists_cons_of_ne_nil some
  have plain : IsPlain first.toList := spelled first (path ▸ List.mem_cons_self ..)
  rw [Declared.annotationUse, Attribute.written, Scope.resolve_ofItems, path]
  cases last : ((importedLeaves items).filterMap (·.pathOf? first)).getLast? with
  | some target =>
    simp only [keeps_iff_of_last last, resolved, last]
    exact intercalate_append_eq_iff plain
  | none =>
    simp only [keeps_iff_of_none (List.getLast?_eq_none_iff.mp last), resolved, last]
    rcases rest with _ | ⟨next, others⟩
    · rcases globs : (importedLeaves items).filterMap Leaf.glob? with _ | ⟨target, _ | ⟨other, more⟩⟩
      · simp
      · simpa using intercalate_append_eq_rest_iff (List.cons_ne_nil first [])
      · simp
    · simp

/-- A path that begins at another crate is recognised once everything of the crate looked for is imported. -/
example : (Scope.ofItems [.imports [] (.path "ttlgen" .glob)]).resolve ["from_ttl"] =
    ["ttlgen", "from_ttl"] := by decide

/-- A file in which another crate is imported under the name of the one that an attribute begins at. -/
def renamingText : String :=
  "use other as ttlgen;\n#[::ttlgen::from_ttl(\"a.ttl\", \"a\", \"http://a/\")]\npub struct A;"

section

open scoped Wording

/-- The attribute, although it is absolute, gets a name at the other crate, and the type is not bound. -/
theorem name_annotationUse_renamed :
    (∃ found, declarations ⟨"src/lib.rs"⟩ renamingText ⟨"src"⟩ = .ok found ∧
      ∃ declared ∈ found, ∃ held ∈ declared.heading.attributes, held.isAbsolute = true ∧
        held.written = "ttlgen::from_ttl" ∧ (declared.annotationUse held).name = "other::from_ttl") ∧
    Scan.uninterrupted (Scan.file (pure ()) "ttlgen::from_ttl" ⟨"src/lib.rs"⟩ renamingText ⟨"src"⟩) =
      [] := by
  refine ⟨?_, by decide +kernel⟩
  have renamed : (declarations ⟨"src/lib.rs"⟩ renamingText ⟨"src"⟩).value?.any (fun found =>
      found.any fun declared => declared.heading.attributes.any fun held =>
        held.isAbsolute && held.written == "ttlgen::from_ttl" &&
          (declared.annotationUse held).name == "other::from_ttl") = true := by decide +kernel
  cases read : declarations ⟨"src/lib.rs"⟩ renamingText ⟨"src"⟩ with
  | ok found =>
    rw [read] at renamed
    simpa [Outcome.value?, and_assoc] using renamed
  | failed _ =>
    rw [read] at renamed
    cases renamed

end

end TermBind.Source

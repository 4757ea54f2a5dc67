import TermBind.Proofs.Source.AttributeName
import TermBind.Proofs.Source.Identifier
import TermBind.Proofs.Source.Module

/-! The module of a file and its place: which files have a module, what it tells of where they are, and
that a namespace is taken apart into the segments it was made of. -/
namespace TermBind.Source

open TermBind.Path

/-- The parts of a text between double colons, the first of which counts where three stand together. -/
def splitColons : List Char → List (List Char)
  | [] => [[]]
  | ':' :: ':' :: rest => [] :: splitColons rest
  | c :: rest =>
    match splitColons rest with
    | [] => [[c]]
    | part :: others => (c :: part) :: others

/-- The segments of a namespace. -/
def namespaceParts (scope : String) : List String := (splitColons scope.toList).map String.ofList

theorem splitColons_cons {c : Char} (other : c ≠ ':') (rest : List Char) {part : List Char}
    {others : List (List Char)} (split : splitColons rest = part :: others) :
    splitColons (c :: rest) = (c :: part) :: others := by
  rw [splitColons.eq_3 _ _ fun _ same => absurd same other, split]

theorem splitColons_of_not_mem {text : List Char} (free : ':' ∉ text) : splitColons text = [text] := by
  induction text with
  | nil => rfl
  | cons c rest ih =>
    simp only [List.mem_cons, not_or] at free
    exact splitColons_cons (Ne.symm free.1) rest (ih free.2)

theorem splitColons_append {text : List Char} (free : ':' ∉ text) (rest : List Char) :
    splitColons (text ++ ':' :: ':' :: rest) = text :: splitColons rest := by
  induction text with
  | nil => rfl
  | cons c others ih =>
    simp only [List.mem_cons, not_or] at free
    exact splitColons_cons (Ne.symm free.1) _ (ih free.2)

/-- Joined segments are taken apart again, since no colon is in any of them. -/
theorem namespaceParts_intercalate {segments : List String} (filled : segments ≠ [])
    (free : ∀ segment ∈ segments, ':' ∉ segment.toList) :
    namespaceParts ("::".intercalate segments) = segments := by
  induction segments with
  | nil => exact absurd rfl filled
  | cons first rest ih =>
    obtain ⟨own, later⟩ := List.forall_mem_cons.mp free
    cases rest with
    | nil => simp [namespaceParts, splitColons_of_not_mem own]
    | cons second rest =>
      have spelled : ("::".intercalate (first :: second :: rest)).toList =
          first.toList ++ ':' :: ':' :: ("::".intercalate (second :: rest)).toList := by
        simp [String.intercalate_cons_cons]
      rw [namespaceParts, spelled, splitColons_append own, List.map_cons, String.ofList_toList]
      exact congrArg (first :: ·) (ih (List.cons_ne_nil second rest) later)

/-- A segment that holds an identifier has no colon. -/
theorem colon_not_mem_of_holds {segment token : String} (named : IsIdentifierToken token)
    (holds : Holds segment token) : ':' ∉ segment.toList := by
  obtain ⟨mark, before, after, spelled, marked, first, last⟩ := holds
  have unmarked : ':' ∉ mark := by
    rcases marked with rfl | rfl <;> simp
  rw [spelled]
  simp only [List.mem_append, not_or]
  exact ⟨unmarked, fun member => absurd (first _ member) (by decide),
    Lexer.not_mem_of_isWritten (by decide) (by decide) (by decide) named.1,
    fun member => absurd (last _ member) (by decide)⟩

theorem splitName_subset (name : String) : (splitName name).1.toList ⊆ name.toList := by
  simp only [splitName]
  split
  · exact List.Subset.refl _
  · exact List.Subset.refl _
  · rename_i dot stem _ spelled
    intro c member
    rw [String.toList_ofList, List.mem_reverse] at member
    have within := (List.dropWhile_suffix (· ≠ '.') (l := name.toList.reverse)).mem (a := c)
    rw [spelled, List.mem_reverse] at within
    exact within (List.mem_cons_of_mem dot member)

/-- What a file's place makes of the directories it is in and the stem of its name. -/
inductive Shape (directories : List String) (stem : String) : List String → Prop
  | directory (own : stem = "mod") : Shape directories stem directories
  | crate (top : directories = []) (own : stem = "lib" ∨ stem = "main") : Shape directories stem []
  | file (other : stem ≠ "mod") (below : directories = [] → stem ≠ "lib" ∧ stem ≠ "main") :
    Shape directories stem (directories ++ [stem])

theorem shape_iff {directories segments : List String} {stem : String} :
    Shape directories stem segments ↔ moduleOf directories stem = segments := by
  constructor
  · rintro (own | ⟨top, own⟩ | ⟨other, below⟩)
    · simp [moduleOf, own]
    · subst top
      rcases own with rfl | rfl <;> simp [moduleOf]
    · rw [moduleOf, if_neg]
      rintro (own | ⟨top, own⟩)
      · exact other own
      · exact own.elim (below top).1 (below top).2
  · rintro rfl
    by_cases own : stem = "mod"
    · simpa [moduleOf, own] using Shape.directory own
    by_cases top : directories = [] ∧ (stem = "lib" ∨ stem = "main")
    · simpa [moduleOf, top] using Shape.crate top.1 top.2
    · rw [moduleOf, if_neg (not_or.mpr ⟨own, top⟩)]
      exact .file own fun empty => by simpa [empty] using top

theorem Shape.subset {directories segments : List String} {stem : String}
    (shape : Shape directories stem segments) : segments ⊆ directories ++ [stem] := by
  cases shape with
  | directory own => exact List.subset_append_left ..
  | crate top own => exact List.nil_subset _
  | file other below => exact List.Subset.refl _

theorem eq_map_of_mapM_name? {components : List Component} {names : List String}
    (named : components.mapM Component.name? = some names) : components = names.map .normal := by
  induction components generalizing names with
  | nil =>
    cases named
    rfl
  | cons component rest ih =>
    rw [List.mapM_cons] at named
    obtain ⟨name, own, named⟩ := Option.bind_eq_some_iff.mp named
    obtain ⟨later, found, same⟩ := Option.bind_eq_some_iff.mp named
    cases same
    rw [ih found]
    cases component <;> cases own
    rfl

theorem components_of_fileName? {path : Path} {name : String} (named : path.fileName? = some name) :
    ∃ upper, path.components = upper ++ [.normal name] := by
  obtain ⟨last, ended, named⟩ := Option.bind_eq_some_iff.mp named
  obtain ⟨upper, spelled⟩ := List.getLast?_eq_some_iff.mp ended
  cases last <;> cases named
  exact ⟨upper, spelled⟩

theorem exists_components_of_moduleSegments? {rest : Path} {segments : List String}
    (found : moduleSegments? rest = some segments) : ∃ directories name,
      rest.components = (directories ++ [name]).map .normal ∧
        Shape directories (splitName name).1 segments := by
  have named := found
  unfold moduleSegments? at named
  cases stemmed : rest.fileStem? with
  | none =>
    simp only [stemmed] at named
    cases parented : rest.parent? <;> simp [parented] at named
  | some stem =>
    obtain ⟨name, own, rfl⟩ := Option.map_eq_some_iff.mp stemmed
    obtain ⟨upper, spelled⟩ := components_of_fileName? own
    obtain ⟨parent, parented, rfl⟩ := exists_parent spelled
    simp only [parented, stemmed] at named
    obtain ⟨directories, directed, _⟩ := Option.bind_eq_some_iff.mp named
    have below : rest.components = (directories ++ [name]).map .normal := by
      rw [spelled, eq_map_of_mapM_name? directed, List.map_append, List.map_singleton]
    have known := moduleSegments?_of_components below (Prod.eta (splitName name)).symm
    exact ⟨directories, name, below, shape_iff.mpr (Option.some.inj (known.symm.trans found))⟩

/-- Where a file is that has a module: below the root by directories and its own name, and the segments
hold identifiers. -/
structure IsModuleOf (path root : Path) (segments : List String) : Prop where
  placed : ∃ directories name,
    path.components = root.components ++ (directories ++ [name]).map .normal ∧
      Shape directories (splitName name).1 segments
  named : ∀ segment ∈ segments, ∃ token, IsIdentifierToken token ∧ Holds segment token

theorem slash_not_mem_of_placed {path root : Path} {directories segments : List String} {name : String}
    (placed : path.components = root.components ++ (directories ++ [name]).map .normal)
    (shape : Shape directories (splitName name).1 segments) :
    ∀ segment ∈ segments, '/' ∉ segment.toList := by
  have slashless : ∀ other ∈ directories ++ [name], '/' ∉ other.toList := by
    intro other member
    have known : .normal other ∈ path.components := by
      rw [placed]
      exact List.mem_append_right _ (List.mem_map_of_mem member)
    exact (isName_of_mem known).slashFree
  intro segment member
  rcases List.mem_append.mp (shape.subset member) with directory | stem
  · exact slashless segment (List.mem_append_left _ directory)
  · rw [List.mem_singleton.mp stem]
    exact fun slash => slashless name (by simp) (splitName_subset name slash)

/-- A file has a module exactly if it is in its place below the root and the segments hold identifiers. -/
theorem modulePath?_eq_some_iff {path root : Path} {segments : List String} :
    modulePath? path root = some segments ↔ IsModuleOf path root segments := by
  constructor
  · intro found
    obtain ⟨rest, stripped, found⟩ := Option.bind_eq_some_iff.mp found
    obtain ⟨segments', known, found⟩ := Option.bind_eq_some_iff.mp found
    split at found
    · rename_i admitted
      cases found
      obtain ⟨directories, name, below, shape⟩ := exists_components_of_moduleSegments? known
      have placed := below ▸ components_stripPrefix? stripped
      refine ⟨⟨directories, name, placed, shape⟩, fun segment member => ?_⟩
      exact (isIdentifier_iff (slash_not_mem_of_placed placed shape segment member)).mp
        (List.all_eq_true.mp admitted segment member)
    · cases found
  · rintro ⟨⟨directories, name, placed, shape⟩, named⟩
    have slashless := slash_not_mem_of_placed placed shape
    have module := shape_iff.mp shape
    have admitted : segments.all isIdentifier = true :=
      List.all_eq_true.mpr fun segment member =>
        (isIdentifier_iff (slashless segment member)).mpr (named segment member)
    rw [modulePath?_of_components placed (Prod.eta (splitName name)).symm, module,
      if_pos admitted]

/-- What the segments of a module say. Each is an identifier as one token exactly if no blank and no byte
order mark stands around it; the file is where they lead; and a namespace is taken apart into them. -/
structure Reflects (path root : Path) (segments : List String) : Prop where
  placed : ∃ directories name,
    path.components = root.components ++ (directories ++ [name]).map .normal ∧
      ((splitName name).1 = "mod" ∧ segments = directories ∨
        segments = directories ++ [(splitName name).1] ∨
        segments = [] ∧ directories = [] ∧ ((splitName name).1 = "lib" ∨ (splitName name).1 = "main"))
  held : ∀ segment ∈ segments, ∃ token, IsIdentifierToken token ∧ Holds segment token
  token : ∀ segment ∈ segments, IsIdentifierToken segment ↔
    ∀ c ∈ segment.toList, Lexer.isBlank c = false ∧ c ≠ '\ufeff'
  apart : ∀ declared : Declared, declared.module = modulePath? path root →
    declared.qualifiedName?.map (namespaceParts ·.scope) = some ("crate" :: segments)

theorem reflects_modulePath? {path root : Path} {segments : List String}
    (found : modulePath? path root = some segments) : Reflects path root segments := by
  obtain ⟨⟨directories, name, placed, shape⟩, named⟩ := modulePath?_eq_some_iff.mp found
  refine ⟨⟨directories, name, placed, ?_⟩, named, fun segment member => ?_, fun declared own => ?_⟩
  · cases shape with
    | directory own => exact Or.inl ⟨own, rfl⟩
    | crate top own => exact Or.inr (Or.inr ⟨rfl, top, own⟩)
    | file other below => exact Or.inr (Or.inl rfl)
  · obtain ⟨token, isToken, holds⟩ := named segment member
    exact isIdentifierToken_iff isToken holds
  · rw [Declared.qualifiedName?, own, found, Option.map_some, Option.map_some]
    refine congrArg some (namespaceParts_intercalate (List.cons_ne_nil "crate" segments) ?_)
    refine List.forall_mem_cons.mpr ⟨by decide, fun segment member => ?_⟩
    obtain ⟨token, isToken, holds⟩ := named segment member
    exact colon_not_mem_of_holds isToken holds

/-- Below a directory the last segment is the stem of the file. -/
theorem reflects_modulePath?_nested :
    modulePath? ⟨"src/graph/node.rs"⟩ ⟨"src"⟩ = some ["graph", "node"] ∧
      Reflects ⟨"src/graph/node.rs"⟩ ⟨"src"⟩ ["graph", "node"] := by
  have found : modulePath? ⟨"src/graph/node.rs"⟩ ⟨"src"⟩ = some ["graph", "node"] := by decide +kernel
  exact ⟨found, reflects_modulePath? found⟩

/-- The file of a name that begins with a blank has a module, whose segment is no identifier. -/
theorem modulePath?_blank :
    modulePath? ⟨"src/ a.rs"⟩ ⟨"src"⟩ = some [" a"] ∧ ¬ IsIdentifierToken " a" := by
  refine ⟨by decide +kernel, fun token => ?_⟩
  obtain ⟨c, others, spelled, start⟩ := Lexer.exists_start_of_isWritten token.1
  have first : c = ' ' := (List.cons.inj spelled).1.symm
  subst first
  exact absurd start (by decide)

end TermBind.Source

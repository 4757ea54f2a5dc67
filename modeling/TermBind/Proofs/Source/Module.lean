import TermBind.Proofs.Path.Components
import TermBind.Source.Declared

/-! The module of a source file, by the names that lead to it from the source root. -/
namespace TermBind

namespace Path

theorem splitName_eq_some {name stem extension : String}
    (split : splitName name = (stem, some extension)) : name = stem ++ "." ++ extension := by
  have whole := List.takeWhile_append_dropWhile (p := (· ≠ '.')) (l := name.toList.reverse)
  simp only [splitName] at split
  split at split
  · cases split
  · cases split
  · rename_i dot rest _ spelled
    cases split
    have dotted : dot = '.' := by
      have kept := List.head?_dropWhile_not (p := (· ≠ '.')) name.toList.reverse
      rw [spelled] at kept
      simpa using kept
    rw [spelled, dotted] at whole
    rw [← String.toList_inj]
    simpa using (congrArg List.reverse whole).symm

theorem fileName?_of_components {path : Path} {upper : List Component} {name : String}
    (spelled : path.components = upper ++ [.normal name]) : path.fileName? = some name := by
  simp [fileName?, spelled, Component.name?]

/-- Only the path of a start has none above it. -/
theorem steps_eq_nil_of_parent? {path : Path} (top : path.parent? = none) : path.steps = [] := by
  simp only [parent?] at top
  split at top
  · rename_i none
    have empty : trimEnd path.body.2 = [] := by simpa using none
    rw [← filterMap_body, ← filterMap_trimEnd, empty]
    rfl
  · cases top

theorem exists_parent {path : Path} {upper : List Component} {name : String}
    (spelled : path.components = upper ++ [.normal name]) :
    ∃ parent, path.parent? = some parent ∧ parent.components = upper := by
  have above : ∃ parent, path.parent? = some parent := by
    refine Option.ne_none_iff_exists'.mp fun top => ?_
    have own := components_eq path
    rw [steps_eq_nil_of_parent? top, spelled, start] at own
    have last := congrArg List.getLast? own
    split at last
    · simp at last
    · split at last <;> simp at last
  obtain ⟨parent, parented⟩ := above
  exact ⟨parent, parented, by rw [components_parent? parented, spelled, List.dropLast_concat]⟩

end Path

namespace Source

open TermBind.Path

/-- The module of a file by the directories it is in and the stem of its name. -/
def moduleOf (directories : List String) (stem : String) : List String :=
  if stem = "mod" ∨ (directories = [] ∧ (stem = "lib" ∨ stem = "main")) then directories
  else directories ++ [stem]

theorem mapM_name? (names : List String) :
    (names.map Component.normal).mapM Component.name? = some names := by
  induction names with
  | nil => rfl
  | cons name rest ih => simp [Component.name?, ih]

theorem moduleSegments?_of_components {rest : Path} {directories : List String} {name stem : String}
    {extension : Option String} (spelled : rest.components = (directories ++ [name]).map .normal)
    (named : splitName name = (stem, extension)) :
    moduleSegments? rest = some (moduleOf directories stem) := by
  have stemmed : rest.fileStem? = some stem := by
    rw [List.map_append] at spelled
    simp [fileStem?, fileName?_of_components spelled, named]
  obtain ⟨parent, parented, directed⟩ := exists_parent (by simpa using spelled)
  simp only [moduleSegments?, parented, directed, mapM_name?, stemmed]
  by_cases own : stem = "mod" ∨ (directories = [] ∧ (stem = "lib" ∨ stem = "main"))
  · simp [moduleOf, own]
  · simp [moduleOf, own]

/-- A file below a root by names has the module of these names if they are identifiers. -/
theorem modulePath?_of_components {path root : Path} {directories : List String} {name stem : String}
    {extension : Option String}
    (spelled : path.components = root.components ++ (directories ++ [name]).map .normal)
    (named : splitName name = (stem, extension)) :
    modulePath? path root =
      if (moduleOf directories stem).all isIdentifier then some (moduleOf directories stem)
      else none := by
  obtain ⟨rest, stripped⟩ := Option.isSome_iff_exists.mp
    (stripPrefix?_isSome.mpr (spelled ▸ List.prefix_append root.components _))
  have below := components_stripPrefix? stripped
  rw [spelled, List.append_cancel_left_eq] at below
  simp [modulePath?, stripped, moduleSegments?_of_components below.symm named]

theorem modulePath?_eq_none {path root : Path} (outside : ¬ root.components <+: path.components) :
    modulePath? path root = none := by
  have unstripped : path.stripPrefix? root = none := by
    rw [← Option.not_isSome_iff_eq_none, stripPrefix?_isSome]
    exact outside
  simp [modulePath?, unstripped]

theorem module_own {module : Option (List String)} {scope : Scope} {heading : Heading}
    {declared : Declared} (member : declared ∈ Declared.own module scope heading) :
    declared.heading = heading ∧ declared.module = module := by
  unfold Declared.own at member
  split at member
  · cases member
  · rw [List.mem_singleton.mp member]
    exact ⟨rfl, rfl⟩

mutual

theorem isSome_module_item {module : Option (List String)} {scope : Scope} {item : Item}
    {declared : Declared} (member : declared ∈ Declared.ofItem module scope item) :
    declared.module.isSome = module.isSome := by
  cases item with
  | declaration heading =>
    rw [Declared.ofItem] at member
    rw [(module_own member).2]
  | inlineModule heading items =>
    rw [Declared.ofItem] at member
    rcases List.mem_append.mp member with own | inner
    · rw [(module_own own).2]
    · rw [isSome_module inner, Option.isSome_map]
  | imports attributes tree => simp [Declared.ofItem] at member
  | other attributes => simp [Declared.ofItem] at member

theorem isSome_module {module : Option (List String)} {scope : Scope} {items : List Item}
    {declared : Declared} (member : declared ∈ Declared.ofItem.ofItems module scope items) :
    declared.module.isSome = module.isSome := by
  cases items with
  | nil => simp [Declared.ofItem.ofItems] at member
  | cons item rest =>
    rw [Declared.ofItem.ofItems] at member
    rcases List.mem_append.mp member with own | later
    · exact isSome_module_item own
    · exact isSome_module later

end

theorem Declared.isSome_qualifiedName? (declared : Declared) :
    declared.qualifiedName?.isSome = declared.module.isSome := by
  rw [qualifiedName?, Option.isSome_map]

end Source
end TermBind

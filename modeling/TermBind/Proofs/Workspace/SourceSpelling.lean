import Mathlib.Data.List.Forall2
import TermBind.Proofs.Scan.Contribution
import TermBind.Proofs.Source.ModulePath
import TermBind.Proofs.Workspace.Isolation

/-! Source files under absolute and under relative paths. A scan strips another root from each, and finds
the same in both. -/
namespace TermBind

open TermBind.Path

namespace Source

/-- Below a common root, a file has the module that it has without this root. -/
theorem modulePath?_join {path root : Path} (base : Path)
    (named : ∀ component ∈ path.components, component.name?.isSome)
    (rooted : ∀ component ∈ root.components, component.name?.isSome) :
    modulePath? (base.join path) (base.join root) = modulePath? path root := by
  refine Option.ext fun segments => ?_
  have cancel : ∀ names : List String,
      (base.join path).components = (base.join root).components ++ names.map .normal ↔
        path.components = root.components ++ names.map .normal := by
    intro names
    rw [components_join_of_names named, components_join_of_names rooted, List.append_assoc,
      List.append_cancel_left_eq]
  rw [modulePath?_eq_some_iff, modulePath?_eq_some_iff]
  constructor
  · rintro ⟨⟨directories, name, placed, shape⟩, held⟩
    exact ⟨⟨directories, name, (cancel _).mp placed, shape⟩, held⟩
  · rintro ⟨⟨directories, name, placed, shape⟩, held⟩
    exact ⟨⟨directories, name, (cancel _).mpr placed, shape⟩, held⟩

end Source

namespace Scan

/-- Two outcomes of scans that print different paths of the file and are the same otherwise: the path
stands in locations, and in what is reported of a file that cannot be read. -/
inductive AgreesBut (left right : String) : Outcome ScannedBinding → Outcome ScannedBinding → Prop
  | made (binding : Binding) (line column : Nat) :
    AgreesBut left right (.ok ⟨binding, some (.ofPosition left line column)⟩)
      (.ok ⟨binding, some (.ofPosition right line column)⟩)
  | reported {code : Code} (readable : code ≠ .sourceParseError) (arguments : List String)
      (line column : Nat) :
    AgreesBut left right
      (.fail ((Diagnostic.of code arguments).withLocation (.ofPosition left line column)))
      (.fail ((Diagnostic.of code arguments).withLocation (.ofPosition right line column)))
  | unreadable (problem : String) (line column : Nat) :
    AgreesBut left right
      (.fail ((Diagnostic.of .sourceParseError [left, problem]).withLocation
        (.ofPosition left line column)))
      (.fail ((Diagnostic.of .sourceParseError [right, problem]).withLocation
        (.ofPosition right line column)))

variable {name left right : String}

/-- A check reports its own code, which is never that of a file that cannot be read. -/
theorem Check.Reports.exists_of {declaration : Declaration} {check : Check} {diagnostic : Diagnostic}
    (reported : check.Reports name declaration diagnostic) :
    ∃ code arguments, code ≠ .sourceParseError ∧ diagnostic = .of code arguments := by
  cases reported <;> exact ⟨_, _, by decide, rfl⟩

theorem agreesBut_outcome (declared : Source.Declared) :
    AgreesBut left right
      (outcome name (declared.view left) (uses name (declared.view left)))
      (outcome name (declared.view right) (uses name (declared.view right))) := by
  have same : fromAnnotations name (declared.view left) (uses name (declared.view left)) =
      fromAnnotations name (declared.view right) (uses name (declared.view right)) := rfl
  have verdict : Verdict name (declared.view right) _ := verdict_fromAnnotations
  unfold outcome
  rw [same]
  cases result : fromAnnotations name (declared.view right) (uses name (declared.view right)) with
  | ok binding => exact .made binding _ _
  | error diagnostic =>
    rw [result] at verdict
    cases verdict with
    | refused first reported =>
      obtain ⟨code, arguments, readable, rfl⟩ := reported.exists_of
      exact .reported readable arguments _ _

theorem rel_contribution? (placed : Source.Placed) :
    Option.Rel (AgreesBut left right) (contribution? name left placed)
      (contribution? name right placed) := by
  unfold contribution?
  cases placed.declared? with
  | none => exact .none
  | some declared =>
    rw [Option.bind_some, Option.bind_some, uninterrupted_declaration, uninterrupted_declaration]
    have same : uses name (declared.view left) = uses name (declared.view right) := rfl
    rw [same]
    split
    · exact .none
    · exact .some (agreesBut_outcome declared)

variable {path path' root root' : Path}

/-- Files of one text whose paths lead to one module give outcomes that differ in the paths. -/
theorem agreesBut_file [Wording] (module : Source.modulePath? path root = Source.modulePath? path' root')
    (name text : String) :
    List.Forall₂ (AgreesBut path.text path'.text)
      (uninterrupted (Scan.file (pure ()) name path text root))
      (uninterrupted (Scan.file (pure ()) name path' text root')) := by
  cases parsed : Source.items text with
  | ok items =>
    rw [uninterrupted_file parsed, uninterrupted_file parsed, module]
    refine List.rel_filterMap (R := Eq) ?_ (List.forall₂_same.mpr fun _ _ => rfl)
    rintro placed _ rfl
    exact rel_contribution? placed
  | error place =>
    rw [uninterrupted_file_of_error parsed, uninterrupted_file_of_error parsed]
    exact .cons (.unreadable (Wording.ofSource text) place.line place.column) .nil

end Scan

namespace Workspace.Session

open Incremental

/-- Under an absolute root of the project, a source file below it and the same file by its relative path
are scanned alike, wherever they are from the source root: one by one the outcomes differ in nothing but
the path that they print. -/
theorem scans_agreeBut [Wording] {config : Config} (absolute : config.projectRoot.isAbsolute = true)
    (rooted : ∀ component ∈ config.binding.sourceRoot.components, component.name?.isSome) {path : Path}
    (named : ∀ component ∈ path.components, component.name?.isSome) {text : String}
    {sources sources' : List (Path × String)} (schemas schemas' : List (Path × String))
    {file file' : FileId} (listed : sources[file]? = some (config.projectRoot.join path, text))
    (listed' : sources'[file']? = some (path, text)) :
    List.Forall₂ (Scan.AgreesBut (config.projectRoot.join path).text path.text)
      ((ofFiles config sources schemas).fetch (.scanSource file)).1
      ((ofFiles config sources' schemas').fetch (.scanSource file')).1 := by
  have relative : path.isAbsolute = false := isAbsolute_of_start (start_eq_nil named)
  have relative' : config.binding.sourceRoot.isAbsolute = false :=
    isAbsolute_of_start (start_eq_nil rooted)
  have filled : config.projectRoot.text ≠ "" := by
    intro empty
    rw [Path.isAbsolute, empty] at absolute
    cases absolute
  have root : sourceRootFor config (config.projectRoot.join path) =
      config.projectRoot.join config.binding.sourceRoot := by
    rw [sourceRootFor, isAbsolute_join relative filled, absolute, if_pos rfl, Config.resolve, relative']
    rfl
  have root' : sourceRootFor config path = config.binding.sourceRoot := by
    rw [sourceRootFor, relative]
    rfl
  rw [scan_ofFiles config schemas listed, scan_ofFiles config schemas' listed', scanOf, scanOf, root,
    root']
  exact Scan.agreesBut_file (Source.modulePath?_join _ named rooted) _ _

/-- A project under an absolute root. -/
def workProject : Config := { projectRoot := ⟨"/work"⟩ }

/-- A source file with one type that asks for constants. -/
def boundText : String := "#[ttlgen::from_ttl(\"a.ttl\", \"a\", \"http://a/\")]\nstruct A;"

section

open scoped Wording

/-- The type is found in a module, by either path. -/
theorem scans_agreeBut_nested : workProject.projectRoot.isAbsolute = true ∧
    List.Forall₂ (Scan.AgreesBut "/work/src/graph/node.rs" "src/graph/node.rs")
      ((ofFiles workProject [(⟨"/work/src/graph/node.rs"⟩, boundText)] []).fetch (.scanSource 0)).1
      ((ofFiles workProject [(⟨"src/graph/node.rs"⟩, boundText)] []).fetch (.scanSource 0)).1 := by
  have absolute : workProject.projectRoot.isAbsolute = true := by decide
  have rooted : ∀ component ∈ workProject.binding.sourceRoot.components, component.name?.isSome := by
    decide
  have named : ∀ component ∈ (Path.mk "src/graph/node.rs").components, component.name?.isSome := by
    decide
  have joined : workProject.projectRoot.join ⟨"src/graph/node.rs"⟩ = ⟨"/work/src/graph/node.rs"⟩ := by
    decide
  have listed : [(Path.mk "/work/src/graph/node.rs", boundText)][0]? =
      some (workProject.projectRoot.join ⟨"src/graph/node.rs"⟩, boundText) := by rw [joined]; rfl
  exact ⟨absolute, joined ▸ scans_agreeBut absolute rooted named [] [] listed rfl⟩

end

end Workspace.Session
end TermBind

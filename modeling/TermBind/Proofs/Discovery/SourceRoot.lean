import TermBind.Proofs.Discovery.Inputs
import TermBind.Proofs.Scan.Place
import TermBind.Proofs.Source.Module
import TermBind.Workspace.Rules

/-! Where the modules of source files come from. Files are found below the source root of a project, and
scanned against the source root as it was written. A file has its module where the two agree. -/
namespace TermBind

namespace Scan

/-- Only a declaration without a full name is unresolvable. -/
theorem code_ne_of_error {name : String} {declaration : Declaration} {found : List AnnotationUse}
    {diagnostic : Diagnostic} (resolvable : declaration.qualifiedName.isSome)
    (failed : fromAnnotations name declaration found = .error diagnostic) :
    diagnostic.code ≠ .unresolvableDeclaration := by
  obtain ⟨full, known⟩ := Option.isSome_iff_exists.mp resolvable
  have made : ∀ {documentKey prefixLabel prefixUri : String},
      resolved declaration documentKey prefixLabel prefixUri = .error diagnostic →
        diagnostic.code ≠ .unresolvableDeclaration := by
    intro documentKey prefixLabel prefixUri failed
    simp only [resolved, known] at failed
    cases checked : Binding.validated
        { documentKey, scope := full.scope, typeName := full.name, prefixLabel, prefixUri } with
    | ok binding => simp [checked, Except.mapError] at failed
    | error problem =>
      simp only [checked, Except.mapError] at failed
      cases failed
      simp [Diagnostic.of]
  unfold fromAnnotations at failed
  split at failed
  · cases failed
    simp [Diagnostic.of]
  split at failed
  · simp only [fromArguments] at failed
    split at failed
    · cases failed
      simp [Diagnostic.of]
    split at failed
    · cases failed
      simp [Diagnostic.of]
    split at failed
    · exact made failed
    · cases failed
      simp [Diagnostic.of]
  · cases failed
    simp [Diagnostic.of]

variable {name text : String} {path root : Path} {scan : Outcome ScannedBinding}

theorem code_ne_of_module [Wording] (known : (Source.modulePath? path root).isSome)
    (member : scan ∈ uninterrupted (file (pure ()) name path text root)) {diagnostic : Diagnostic}
    (reported : diagnostic ∈ scan.diagnostics) : diagnostic.code ≠ .unresolvableDeclaration := by
  rcases mem_file_declared member with ⟨items, _, declared, listed, found, rfl⟩ | ⟨place, rfl⟩
  · have resolvable : (declared.view path.text).qualifiedName.isSome := by
      rw [Source.Declared.view, declared.isSome_qualifiedName?, Source.isSome_module listed, known]
    unfold outcome at reported
    cases request : fromAnnotations name (declared.view path.text) found with
    | ok binding =>
      rw [request] at reported
      cases reported
    | error fault =>
      rw [request] at reported
      rw [List.mem_singleton.mp reported]
      have differs := code_ne_of_error resolvable request
      exact differs
  · rw [List.mem_singleton.mp reported]
    simp [Source.fault, Diagnostic.of, Diagnostic.withLocation]

theorem value?_eq_none_of_module [Wording] (unknown : Source.modulePath? path root = none)
    (member : scan ∈ uninterrupted (file (pure ()) name path text root)) : scan.value? = none := by
  rcases mem_file_declared member with ⟨items, _, declared, listed, found, rfl⟩ | ⟨place, rfl⟩
  · unfold outcome
    cases request : fromAnnotations name (declared.view path.text) found with
    | ok binding =>
      obtain ⟨_, full, named, _⟩ := fromAnnotations_eq_ok request
      have resolvable := declared.isSome_qualifiedName?
      rw [Source.isSome_module listed, unknown, show declared.qualifiedName? = some full from named]
        at resolvable
      cases resolvable
    | error fault => rfl
  · rfl

end Scan

namespace Discovery

open File TermBind.Path Source Workspace

/-- The path of a found file goes on from the source root as the scan spells it: the root of the project
is written in neither, or in both. A relative source root has no leading dot then. -/
def RootsAgree (config : Config) (found : Path) : Prop :=
  config.projectRoot.text = "" ∨
    if config.binding.sourceRoot.isAbsolute then
      ¬ config.projectRoot.components <+: found.components
    else config.binding.sourceRoot.start = []

section Spelling

variable {config : Config} {found : Path}

variable {names : List String}
  (below : found.components =
    (config.resolve config.binding.sourceRoot).components ++ names.map .normal)
include below

omit below in
theorem resolve_eq_self (agree : config.projectRoot.text = "" ∨
    config.binding.sourceRoot.isAbsolute = true) :
    config.resolve config.binding.sourceRoot = config.binding.sourceRoot := by
  rw [Config.resolve]
  rcases agree with empty | absolute
  · rw [join_empty empty, ite_self]
  · rw [if_pos absolute]

/-- Below the root of the project a file is handed on by the steps of a relative source root. -/
theorem components_relative_steps (filled : config.projectRoot.text ≠ "")
    (unrooted : config.binding.sourceRoot.isAbsolute = false) :
    (relative config found).components = config.binding.sourceRoot.steps ++ names.map .normal := by
  rw [components_resolve_join unrooted filled, List.append_assoc] at below
  have split := components_relative (below ▸ List.prefix_append config.projectRoot.components _)
  exact List.append_cancel_left (split.symm.trans below)

theorem sourceRootFor_relative (filled : config.projectRoot.text ≠ "")
    (unrooted : config.binding.sourceRoot.isAbsolute = false) :
    sourceRootFor config (relative config found) = config.binding.sourceRoot := by
  have handed := components_relative_steps below filled unrooted
  have notAbsolute : (relative config found).isAbsolute = false := by
    rw [Bool.eq_false_iff, ne_eq, isAbsolute_iff, handed]
    intro headed
    rcases List.mem_append.mp (List.mem_of_head? headed) with step | name
    · exact (ne_of_mem_steps step).1 rfl
    · simp at name
  rw [sourceRootFor, notAbsolute]
  rfl

theorem components_handed (agree : RootsAgree config found) :
    (relative config found).components =
      (sourceRootFor config (relative config found)).components ++ names.map .normal := by
  by_cases empty : config.projectRoot.text = ""
  · have resolved := resolve_eq_self (Or.inl empty)
    have bare := components_eq_nil_iff.mpr empty
    have inside : config.projectRoot.components <+: found.components := by simp [bare]
    have handed := components_relative inside
    rw [bare, List.nil_append] at handed
    rw [sourceRootFor, resolved, ite_self, ← handed, below, resolved]
  · have agree' := agree.resolve_left empty
    split at agree'
    · rename_i absolute
      have resolved := resolve_eq_self (Or.inr absolute)
      rw [relative_eq_self agree', sourceRootFor, resolved, ite_self, below, resolved]
    · rename_i relative
      have unrooted := Bool.eq_false_iff.mpr relative
      rw [sourceRootFor_relative below empty unrooted, components_relative_steps below empty unrooted,
        components_eq config.binding.sourceRoot, agree', List.nil_append]

theorem not_prefix_handed (disagree : ¬ RootsAgree config found) :
    ¬ (sourceRootFor config (relative config found)).components <+:
      (relative config found).components := by
  rw [RootsAgree, not_or] at disagree
  obtain ⟨filled, disagree⟩ := disagree
  intro begins
  split at disagree
  · rename_i absolute
    have resolved := resolve_eq_self (Or.inr absolute)
    rw [sourceRootFor, resolved, ite_self] at begins
    have split := components_relative (not_not.mp disagree)
    obtain ⟨first, rest, spelled⟩ := List.exists_cons_of_ne_nil (components_ne_nil filled)
    have rooted : Component.root ∈ (relative config found).components :=
      begins.subset (List.mem_of_head? (isAbsolute_iff.mp absolute))
    have later : Component.root ∈ found.components.tail := by
      rw [split, spelled]
      exact List.mem_append_right rest rooted
    exact (ne_of_mem_tail later).1 rfl
  · rename_i relative
    have unrooted := Bool.eq_false_iff.mpr relative
    rw [sourceRootFor_relative below filled unrooted, components_relative_steps below filled unrooted,
      components_eq config.binding.sourceRoot] at begins
    have current : Component.current ∈ config.binding.sourceRoot.start := by
      rw [start] at disagree ⊢
      simp only [unrooted, Bool.false_eq_true, if_false] at disagree ⊢
      split at disagree
      · simp [*]
      · exact absurd rfl disagree
    rcases List.mem_append.mp (begins.subset (List.mem_append_left _ current)) with step | name
    · exact (ne_of_mem_steps step).2 rfl
    · simp at name

end Spelling

/-- A path that has the extension of source files ends in a name with that extension. -/
theorem exists_stem {path : Path} {upper : List Component} {name : String}
    (spelled : path.components = upper ++ [.normal name]) (source : isSource path = true) :
    ∃ stem, splitName name = (stem, some "rs") ∧ name = stem ++ ".rs" := by
  rw [isSource, extension?, fileName?_of_components spelled, Option.bind_some, beq_iff_eq] at source
  have split : splitName name = ((splitName name).1, some "rs") := Prod.ext rfl source
  have dotted : "." ++ "rs" = ".rs" := by decide
  refine ⟨_, split, ?_⟩
  rw [← dotted, ← String.append_assoc]
  exact splitName_eq_some split

/-- The path at which a source file is found, by its directories and the stem of its name. -/
def sourcePath (config : Config) (directories : List String) (stem : String) : Path :=
  (config.resolve config.binding.sourceRoot).below (directories ++ [stem ++ ".rs"])

/-- There is a source file with a text below the source root. -/
def IsSourceAt (disk : Disk) (config : Config) (directories : List String) (stem text : String) :
    Prop :=
  ∃ place content, disk.locate (config.resolve config.binding.sourceRoot) = .ok place ∧
    disk.tree.at? (place ++ (directories ++ [stem ++ ".rs"])) = some (.file content) ∧
    String.fromUTF8? content = some text

variable {disk : Disk} {config : Config}

/-- Every source file that is found has a place below the source root. -/
theorem exists_place (formed : disk.tree.WellFormed) {files : ProjectFiles}
    (found : discovered disk config = .ok files) {path : Path} {text : String}
    (member : (path, text) ∈ files.sources) :
    ∃ directories stem, IsSourceAt disk config directories stem text ∧
      path = relative config (sourcePath config directories stem) ∧
      (sourcePath config directories stem).components =
        (config.resolve config.binding.sourceRoot).components ++
          (directories ++ [stem ++ ".rs"]).map .normal ∧
      splitName (stem ++ ".rs") = (stem, some "rs") := by
  have read := (collected_of_discovered found).1
  obtain ⟨⟨place', content⟩, known, rfl, decoded⟩ := (mem_texts_iff read).mp member
  obtain ⟨known, source⟩ := List.mem_filter.mp known
  obtain ⟨place, names, located, ⟨entries, here⟩, rfl, stored, _⟩ :=
    (mem_filesAt_iff config formed).mp known
  have named : ∀ name ∈ names, IsName name := fun name known =>
    ((formed.at? stored).2 name (List.mem_append_right _ known)).toIsName
  have spelled := components_below (config.resolve config.binding.sourceRoot) named
  rcases List.eq_nil_or_concat names with rfl | ⟨directories, name, rfl⟩
  · simp [here] at stored
  · rw [List.concat_eq_append] at spelled stored source ⊢
    have spelled' := spelled
    rw [List.map_append, ← List.append_assoc] at spelled'
    obtain ⟨stem, split, rfl⟩ := exists_stem spelled' source
    exact ⟨directories, stem, ⟨place, content, located, stored, decoded⟩, rfl, spelled, split⟩

/-- The scan of a file knows its module, and rejects nothing in the file for want of one. -/
structure KnowsModule [Wording] (config : Config) (path : Path) (text : String)
    (module : List String) : Prop where
  known : modulePath? path (sourceRootFor config path) = some module
  resolvable : ∀ scan ∈ scanOf config path text, ∀ diagnostic ∈ scan.diagnostics,
    diagnostic.code ≠ .unresolvableDeclaration

/-- The scan of a file knows no module, and nothing in the file makes a request. -/
structure LacksModule [Wording] (config : Config) (path : Path) (text : String) : Prop where
  unknown : modulePath? path (sourceRootFor config path) = none
  rejected : ∀ scan ∈ scanOf config path text, scan.value? = none

/-- Where the roots agree, a source file that is found has the module of its position below the source
root if that is made of identifiers. Where they do not, no source file has a module. -/
theorem module_of_discovered [Wording] (formed : disk.tree.WellFormed) {files : ProjectFiles}
    {after : Disk}
    (found : (discover Disk.host config).run.run disk = (.ok files, after)) {path : Path}
    {text : String} (member : (path, text) ∈ files.sources) :
    ∃ directories stem, IsSourceAt disk config directories stem text ∧
      path = relative config (sourcePath config directories stem) ∧
      (RootsAgree config (sourcePath config directories stem) →
        (moduleOf directories stem).all isIdentifier →
          KnowsModule config path text (moduleOf directories stem)) ∧
      (¬ RootsAgree config (sourcePath config directories stem) → LacksModule config path text) := by
  rw [run_discover config formed, Prod.mk.injEq] at found
  obtain ⟨directories, stem, stored, rfl, spelled, split⟩ := exists_place formed found.1 member
  refine ⟨directories, stem, stored, rfl, fun agree identifiers => ?_, fun disagree => ?_⟩
  · have placed := modulePath?_of_components (components_handed spelled agree) split
    rw [if_pos identifiers] at placed
    exact ⟨placed, fun scan member diagnostic => Scan.code_ne_of_module (by simp [placed]) member⟩
  · have unplaced := modulePath?_eq_none (not_prefix_handed spelled disagree)
    exact ⟨unplaced, fun scan => Scan.value?_eq_none_of_module unplaced⟩

/-- A project in a directory of its own, with an annotated type at the root of its crate. -/
def crateText : String := "#[ttlgen::from_ttl(\"a.ttl\", \"a\", \"http://a/\")]\nstruct A;"

def crateDisk : Disk where
  tree := .directory [("p", .directory [("src", .directory [("lib.rs", .file crateText.toUTF8)])])]

def crateConfig (sourceRoot : Path) : Config := { binding := { sourceRoot }, projectRoot := ⟨"p"⟩ }

def crateFiles : ProjectFiles := { sources := [(⟨"src/lib.rs"⟩, crateText)] }

section

open scoped Wording

theorem module_of_crateFiles : crateDisk.tree.WellFormed ∧
    (discover Disk.host (crateConfig ⟨"src"⟩)).run.run crateDisk = (.ok crateFiles, crateDisk) ∧
    (⟨"src/lib.rs"⟩, crateText) ∈ crateFiles.sources ∧
    ∃ directories stem, IsSourceAt crateDisk (crateConfig ⟨"src"⟩) directories stem crateText ∧
      RootsAgree (crateConfig ⟨"src"⟩) (sourcePath (crateConfig ⟨"src"⟩) directories stem) ∧
      ((moduleOf directories stem).all isIdentifier →
        KnowsModule (crateConfig ⟨"src"⟩) ⟨"src/lib.rs"⟩ crateText (moduleOf directories stem)) := by
  have formed : crateDisk.tree.WellFormed := Tree.wellFormed_of_isWellFormed (by decide +kernel)
  have found : (discover Disk.host (crateConfig ⟨"src"⟩)).run.run crateDisk =
      (.ok crateFiles, crateDisk) := by
    rw [run_discover _ formed]
    rfl
  have member : (⟨"src/lib.rs"⟩, crateText) ∈ crateFiles.sources := by decide
  obtain ⟨directories, stem, stored, _, known, _⟩ := module_of_discovered formed found member
  have agree : RootsAgree (crateConfig ⟨"src"⟩)
      (sourcePath (crateConfig ⟨"src"⟩) directories stem) := by
    refine Or.inr ?_
    rw [if_neg (by decide)]
    decide
  exact ⟨formed, found, member, directories, stem, stored, agree, known agree⟩

/-- With a leading dot in the source root, discovery finds the file at the root of the crate, and the
scan rejects the type in it. -/
theorem unresolvable_below_dotted_root :
    (discover Disk.host (crateConfig ⟨"./src"⟩)).run.run crateDisk = (.ok crateFiles, crateDisk) ∧
    IsSourceAt crateDisk (crateConfig ⟨"./src"⟩) [] "lib" crateText ∧
    modulePath? ⟨"src/lib.rs"⟩ (sourceRootFor (crateConfig ⟨"./src"⟩) ⟨"src/lib.rs"⟩) ≠
      some (moduleOf [] "lib") ∧
    ((scanOf (crateConfig ⟨"./src"⟩) ⟨"src/lib.rs"⟩ crateText).flatMap Outcome.diagnostics).map
      (·.code) = [.unresolvableDeclaration] := by
  have formed : crateDisk.tree.WellFormed := Tree.wellFormed_of_isWellFormed (by decide +kernel)
  refine ⟨?_, ⟨["p", "src"], crateText.toUTF8, rfl, rfl, rfl⟩, by decide +kernel, by decide +kernel⟩
  rw [run_discover _ formed]
  rfl

end

end Discovery
end TermBind

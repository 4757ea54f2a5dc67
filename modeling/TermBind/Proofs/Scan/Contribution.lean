import TermBind.Proofs.Scan.Checks
import TermBind.Proofs.Source.Placed
import TermBind.Scan.File

/-! What each item of a file contributes to its scan. An annotation on an item without a heading is passed
over: on an import, on a crate or a foreign block, on a macro. -/
namespace TermBind

namespace Source.Placed

/-- The full names of the attributes of an item, by the imports beside it. -/
def names (placed : Placed) : List String :=
  placed.item.attributes.map fun held =>
    "::".intercalate ((Scope.ofItems placed.beside).resolve held.path)

theorem names_eq {placed : Placed} {heading : Heading} (headed : placed.item.heading? = some heading)
    (file : String) :
    placed.names = (({ heading, module := placed.module, scope := .ofItems placed.beside } :
      Declared).view file).annotations.map AnnotationUse.name := by
  have same : placed.item.attributes = heading.attributes := by
    cases item : placed.item <;> simp_all [Item.heading?, Item.attributes]
  simp [names, same, Declared.view, Declared.annotationUse]

end Source.Placed

namespace Scan

open Source

variable (name file : String)

/-- What an item contributes to the scan of its file. -/
def contribution? (placed : Placed) : Option (Outcome ScannedBinding) :=
  placed.declared?.bind fun declared =>
    uninterrupted (Scan.declaration (pure ()) name (declared.view file))

/-- An item contributes once if it has a heading and carries the annotation, and else nothing. What is not
a type is reported where it stands. -/
structure Contributes (placed : Placed) (scanned : Option (Outcome ScannedBinding)) : Prop where
  once : scanned.isSome ↔ name ∈ placed.names ∧ placed.item.heading?.isSome
  misplaced heading : placed.item.heading? = some heading → name ∈ placed.names →
    heading.kind.isType = false → scanned = some (.fail
      ((Diagnostic.of .notADeclaration [heading.name]).withLocation
        (.ofPosition file heading.place.line heading.place.column)))

variable {name file}

theorem isSome_declaration_iff {declaration : Declaration} :
    (uninterrupted (Scan.declaration (pure ()) name declaration)).isSome ↔
      name ∈ declaration.annotations.map AnnotationUse.name := by
  have unused := (isDecided_declaration name declaration).unused
  rw [← Option.ne_none_iff_isSome, Ne, unused]
  simp

theorem outcome_misplaced {declaration : Declaration} (found : List AnnotationUse)
    (other : declaration.isType = false) :
    outcome name declaration found =
      .fail ((Diagnostic.of .notADeclaration [declaration.shownName]).locatedAt declaration.location) :=
  outcome_eq_fail_iff.mpr ⟨_, by simp [fromAnnotations, other], rfl⟩

theorem contribution?_eq {placed : Placed} {heading : Heading}
    (headed : placed.item.heading? = some heading) :
    contribution? name file placed = uninterrupted (Scan.declaration (pure ()) name
      (Declared.view file { heading, module := placed.module, scope := .ofItems placed.beside })) := by
  simp only [contribution?, Placed.declared?, headed]
  cases attributes : heading.attributes with
  | nil => simp [uninterrupted_declaration, uses, Declared.view, attributes]
  | cons first rest => rfl

theorem contributes (name file : String) (placed : Placed) :
    Contributes name file placed (contribution? name file placed) := by
  cases headed : placed.item.heading? with
  | none =>
    have nothing : contribution? name file placed = none := by
      simp [contribution?, Placed.declared?, headed]
    refine ⟨by simp [nothing, headed], ?_⟩
    rintro heading found
    cases headed.symm.trans found
  | some heading =>
    refine ⟨?_, ?_⟩
    · rw [contribution?_eq headed, isSome_declaration_iff, Placed.names_eq headed file, headed]
      simp
    · rintro _ found carried other
      cases headed.symm.trans found
      rw [Placed.names_eq headed file, ← isSome_declaration_iff, ← contribution?_eq headed] at carried
      rw [contribution?_eq headed, uninterrupted_declaration] at carried ⊢
      split
      · rename_i unused
        simp [unused] at carried
      · exact congrArg some (outcome_misplaced _ other)

theorem uninterrupted_declarations (scanned : List Declaration) :
    uninterrupted (declarations (pure ()) name scanned) =
      scanned.filterMap fun declaration =>
        uninterrupted (Scan.declaration (pure ()) name declaration) := by
  rw [List.filterMap_eq_flatMap_toList]
  induction scanned with
  | nil => rfl
  | cons first rest ih =>
    rw [List.flatMap_cons, ← ih]
    rfl

theorem uninterrupted_file [Wording] {path root : Path} {text : String} {items : List Item}
    (parsed : Source.items text = .ok items) :
    uninterrupted (Scan.file (pure ()) name path text root) =
      (Placed.ofFile (modulePath? path root) items).filterMap (contribution? name path.text) := by
  rw [Scan.file, Placed.declarations_eq parsed]
  refine (uninterrupted_declarations _).trans ?_
  rw [List.filterMap_map, List.filterMap_filterMap]
  rfl

/-- Every item of a file that can be read, at file level or inside inline modules, contributes as its
heading and its annotations have it. Together and in source order that is what comes of the file. -/
theorem contributes_file [Wording] (name : String) {path root : Path} {text : String} {items : List Item}
    (parsed : Source.items text = .ok items) :
    uninterrupted (Scan.file (pure ()) name path text root) =
        (Placed.ofFile (modulePath? path root) items).filterMap (contribution? name path.text) ∧
      ∀ placed,
        (placed ∈ Placed.ofFile (modulePath? path root) items ↔
          Placed.StandsIn (modulePath? path root) items placed) ∧
        Contributes name path.text placed (contribution? name path.text placed) :=
  ⟨uninterrupted_file parsed, fun placed => ⟨Placed.mem_ofFile_iff, contributes name path.text placed⟩⟩

/-- A type at file level, and a function in an inline module that carries the annotation as well. -/
def misplacedText : String :=
  "use ttlgen::from_ttl as bound;\n#[bound(\"a.ttl\", \"a\", \"http://a/\")]\nstruct A;\n" ++
    "mod m \x7b\n    #[ttlgen::from_ttl]\n    fn f() \x7b\x7d\n\x7d\n"

section

open scoped Wording

theorem contributes_file_misplaced : ∃ items, Source.items misplacedText = .ok items ∧
    uninterrupted (Scan.file (pure ()) "ttlgen::from_ttl" ⟨"src/lib.rs"⟩ misplacedText ⟨"src"⟩) =
        (Placed.ofFile (modulePath? ⟨"src/lib.rs"⟩ ⟨"src"⟩) items).filterMap
          (contribution? "ttlgen::from_ttl" "src/lib.rs") ∧
      ∀ placed,
        (placed ∈ Placed.ofFile (modulePath? ⟨"src/lib.rs"⟩ ⟨"src"⟩) items ↔
          Placed.StandsIn (modulePath? ⟨"src/lib.rs"⟩ ⟨"src"⟩) items placed) ∧
        Contributes "ttlgen::from_ttl" "src/lib.rs" placed
          (contribution? "ttlgen::from_ttl" "src/lib.rs" placed) := by
  have readable : (Source.items misplacedText).isOk = true := by decide +kernel
  cases parsed : Source.items misplacedText with
  | ok items => exact ⟨items, rfl, contributes_file "ttlgen::from_ttl" parsed⟩
  | error place =>
    rw [parsed] at readable
    cases readable

/-- The annotation on an import. -/
def importText : String := "#[ttlgen::from_ttl(\"a.ttl\", \"a\", \"http://a/\")]\nuse std::fmt;"

/-- An import that stands at file level and carries the annotation contributes nothing. -/
theorem uninterrupted_file_import : ∃ items, Source.items importText = .ok items ∧
    (∃ placed, Placed.StandsIn (modulePath? ⟨"src/lib.rs"⟩ ⟨"src"⟩) items placed ∧
      "ttlgen::from_ttl" ∈ placed.names) ∧
    uninterrupted (Scan.file (pure ()) "ttlgen::from_ttl" ⟨"src/lib.rs"⟩ importText ⟨"src"⟩) = [] := by
  have carried : (Source.items importText).toOption.any (fun items =>
      (Placed.ofFile (modulePath? ⟨"src/lib.rs"⟩ ⟨"src"⟩) items).any fun placed =>
        placed.names.contains "ttlgen::from_ttl") = true := by decide +kernel
  cases parsed : Source.items importText with
  | ok items =>
    rw [parsed] at carried
    obtain ⟨placed, listed, named⟩ := List.any_eq_true.mp carried
    exact ⟨items, rfl, ⟨placed, Placed.mem_ofFile_iff.mp listed, by simpa using named⟩, by decide +kernel⟩
  | error place =>
    rw [parsed] at carried
    cases carried

end

end Scan
end TermBind

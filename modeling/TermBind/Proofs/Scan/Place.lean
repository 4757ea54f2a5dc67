import TermBind.Proofs.Diagnostic.Order
import TermBind.Scan.File

/-! Whatever comes of scanning a file stands in that file, and is wrong in one of a few ways. -/
namespace TermBind

/-- The fault of a file shows where it is and what is said of the text. -/
theorem Source.fault_eq_iff [Wording] (file : String) {text text' : String} {place place' : Position} :
    fault file text place = fault file text' place' ↔
      place = place' ∧ Wording.ofSource text = Wording.ofSource text' := by
  constructor
  · intro same
    obtain ⟨line, column⟩ := place
    obtain ⟨line', column'⟩ := place'
    have said : [file, Wording.ofSource text] = [file, Wording.ofSource text'] :=
      congrArg Diagnostic.arguments same
    have located : some (Location.ofPosition file line column) =
        some (Location.ofPosition file line' column') := congrArg Diagnostic.location same
    obtain ⟨rfl, rfl⟩ : line = line' ∧ column = column' := by
      simpa [Location.ofPosition] using located
    exact ⟨rfl, by simpa using said⟩
  · rintro ⟨rfl, said⟩
    rw [fault, fault, said]

namespace Scan

/-- What comes of a declaration stands in a file: the request, or each of its faults. -/
def StandsIn (file : String) : Outcome ScannedBinding → Prop
  | .ok scanned => scanned.location.map Location.file = some file
  | .failed diagnostics => ∀ diagnostic ∈ diagnostics.toList, diagnostic.StandsIn file

/-- What can be wrong with the request of a declaration. -/
def requestCodes : List Code :=
  [.notADeclaration, .incorrectArgumentCount, .unresolvableDeclaration, .nonLiteralArgument,
    .invalidBindingArgument]

theorem isMade_resolved {declaration : Declaration} {documentKey prefixLabel prefixUri : String}
    {diagnostic : Diagnostic}
    (failed : resolved declaration documentKey prefixLabel prefixUri = .error diagnostic) :
    diagnostic.IsMade requestCodes := by
  unfold resolved at failed
  split at failed
  · cases failed
    exact ⟨_, by simp [requestCodes], _, rfl⟩
  · rename_i name _
    cases checked : Binding.validated
        { documentKey, scope := name.scope, typeName := name.name, prefixLabel, prefixUri } with
    | ok binding =>
      simp [checked, Except.mapError] at failed
    | error problem =>
      simp only [checked, Except.mapError] at failed
      cases failed
      exact ⟨_, by simp [requestCodes], _, rfl⟩

theorem isMade_fromArguments {declaration : Declaration} {arguments : List Argument}
    {diagnostic : Diagnostic} (failed : fromArguments declaration arguments = .error diagnostic) :
    diagnostic.IsMade requestCodes := by
  simp only [fromArguments] at failed
  split at failed
  · cases failed
    exact ⟨_, by simp [requestCodes], _, rfl⟩
  split at failed
  · cases failed
    exact ⟨_, by simp [requestCodes], _, rfl⟩
  split at failed
  · exact isMade_resolved failed
  · cases failed
    exact ⟨_, by simp [requestCodes], _, rfl⟩

/-- The faults of a declaration have no place of their own. -/
theorem isMade_fromAnnotations {name : String} {declaration : Declaration}
    {found : List AnnotationUse} {diagnostic : Diagnostic}
    (failed : fromAnnotations name declaration found = .error diagnostic) :
    diagnostic.IsMade requestCodes := by
  unfold fromAnnotations at failed
  split at failed
  · cases failed
    exact ⟨_, by simp [requestCodes], _, rfl⟩
  split at failed
  · exact isMade_fromArguments failed
  · cases failed
    exact ⟨_, by simp [requestCodes], _, rfl⟩

/-- Only a type that has a full name makes a request. It is made for that name, and checked. -/
theorem validated_of_fromAnnotations {name : String} {declaration : Declaration}
    {found : List AnnotationUse} {binding : Binding}
    (made : fromAnnotations name declaration found = .ok binding) :
    declaration.isType = true ∧ ∃ full, declaration.qualifiedName = some full ∧
      ∃ documentKey prefixLabel prefixUri, Binding.validated
        { documentKey, scope := full.scope, typeName := full.name, prefixLabel, prefixUri } =
          .ok binding := by
  unfold fromAnnotations at made
  split at made
  · cases made
  rename_i isType
  refine ⟨by simpa using isType, ?_⟩
  split at made
  · simp only [fromArguments] at made
    split at made
    · cases made
    split at made
    · cases made
    split at made
    · unfold resolved at made
      split at made
      · cases made
      · rename_i documentKey prefixLabel prefixUri _ _ full known
        refine ⟨full, known, documentKey, prefixLabel, prefixUri, ?_⟩
        cases checked : Binding.validated
            { documentKey, scope := full.scope, typeName := full.name, prefixLabel, prefixUri } with
        | ok valid => simpa [checked, Except.mapError] using made
        | error problem => simp [checked, Except.mapError] at made
    · cases made
  · cases made

theorem fromAnnotations_eq_ok {name : String} {declaration : Declaration}
    {found : List AnnotationUse} {binding : Binding}
    (made : fromAnnotations name declaration found = .ok binding) :
    declaration.isType = true ∧ ∃ full, declaration.qualifiedName = some full ∧
      binding.typeName = full.name := by
  obtain ⟨isType, full, known, _, _, _, checked⟩ := validated_of_fromAnnotations made
  exact ⟨isType, full, known, (Binding.validated_eq_ok checked).1 ▸ rfl⟩

theorem standsIn_outcome {file : String} {declaration : Declaration}
    (placed : declaration.location.map Location.file = some file) (name : String)
    (found : List AnnotationUse) : StandsIn file (outcome name declaration found) := by
  unfold outcome
  cases request : fromAnnotations name declaration found with
  | ok binding => exact placed
  | error diagnostic =>
    intro located member
    rw [List.mem_singleton.mp member]
    exact Diagnostic.standsIn_locatedAt (isMade_fromAnnotations request).unlocated placed

theorem code_outcome {name : String} {declaration : Declaration} {found : List AnnotationUse}
    {diagnostic : Diagnostic} (member : diagnostic ∈ (outcome name declaration found).diagnostics) :
    diagnostic.code ∈ requestCodes := by
  unfold outcome at member
  cases request : fromAnnotations name declaration found with
  | ok binding =>
    rw [request] at member
    cases member
  | error fault =>
    rw [request] at member
    rw [List.mem_singleton.mp member]
    exact (isMade_fromAnnotations request).code_mem

theorem mem_declaration {name : String} {first : Declaration} {scan : Outcome ScannedBinding}
    (member : scan ∈ uninterrupted (declaration (pure ()) name first)) :
    ∃ found, scan = outcome name first found := by
  let found := uninterrupted (matching (pure ()) name first.annotations)
  change scan ∈ if found.isEmpty then none else some (outcome name first found) at member
  split at member
  · cases member
  · exact ⟨found, (Option.mem_some.mp member).symm⟩

/-- Every outcome of a scan is that of a declaration. -/
theorem mem_declarations {name : String} {scanned : List Declaration}
    {scan : Outcome ScannedBinding}
    (member : scan ∈ uninterrupted (declarations (pure ()) name scanned)) :
    ∃ declaration ∈ scanned, ∃ found, scan = outcome name declaration found := by
  induction scanned with
  | nil => cases member
  | cons first rest ih =>
    change scan ∈ (uninterrupted (declaration (pure ()) name first)).toList ++
      uninterrupted (declarations (pure ()) name rest) at member
    rcases List.mem_append.mp member with own | later
    · exact ⟨first, List.mem_cons_self .., mem_declaration (Option.mem_toList.mp own)⟩
    · obtain ⟨declaration, known, same⟩ := ih later
      exact ⟨declaration, List.mem_cons_of_mem _ known, same⟩

section File

variable [Wording]

/-- What comes of a file: one outcome for each of its declarations, or that it cannot be read. -/
theorem mem_file_declared {name text : String} {path root : Path} {scan : Outcome ScannedBinding}
    (member : scan ∈ uninterrupted (file (pure ()) name path text root)) :
    (∃ items, Source.items text = .ok items ∧ ∃ declared ∈ Source.Declared.ofItem.ofItems
      (Source.modulePath? path root) (Source.Scope.ofItems items) items,
      ∃ found, scan = outcome name (declared.view path.text) found) ∨
    ∃ place, scan = .fail (Source.fault path.text text place) := by
  unfold file at member
  cases source : Source.declarations path text root with
  | ok declared =>
    rw [source] at member
    obtain ⟨declaration, known, found, rfl⟩ := mem_declarations member
    obtain ⟨declared, listed, rfl⟩ := List.mem_map.mp known
    unfold Source.declarations at source
    split at source
    · cases source
      exact Or.inl ⟨_, ‹_›, declared, listed, found, rfl⟩
    · cases source
  | failed diagnostics =>
    rw [source] at member
    rw [List.mem_singleton.mp member]
    unfold Source.declarations at source
    split at source
    · cases source
    · cases source
      exact Or.inr ⟨_, rfl⟩

/-- One fault is all that comes of a file that cannot be read. -/
theorem uninterrupted_file_of_error {text : String} {place : Source.Position}
    (unreadable : Source.items text = .error place) (name : String) (path root : Path) :
    uninterrupted (file (pure ()) name path text root) =
      [.fail (Source.fault path.text text place)] := by
  rw [file, Source.declarations, unreadable]
  rfl

theorem mem_file {name text : String} {path root : Path} {scan : Outcome ScannedBinding}
    (member : scan ∈ uninterrupted (file (pure ()) name path text root)) :
    (∃ declaration found, declaration.location.map Location.file = some path.text ∧
      scan = outcome name declaration found) ∨
    ∃ place, scan = .fail (Source.fault path.text text place) := by
  rcases mem_file_declared member with ⟨items, _, declared, _, found, rfl⟩ | fault
  · exact Or.inl ⟨_, found, rfl, rfl⟩
  · exact Or.inr fault

theorem standsIn_file {name text : String} {path root : Path} {scan : Outcome ScannedBinding}
    (member : scan ∈ uninterrupted (file (pure ()) name path text root)) :
    StandsIn path.text scan := by
  rcases mem_file member with ⟨declaration, found, placed, rfl⟩ | ⟨place, rfl⟩
  · exact standsIn_outcome placed name found
  · intro diagnostic fault
    rw [List.mem_singleton.mp fault]
    rfl

theorem code_file {name text : String} {path root : Path} {scan : Outcome ScannedBinding}
    (member : scan ∈ uninterrupted (file (pure ()) name path text root)) {diagnostic : Diagnostic}
    (reported : diagnostic ∈ scan.diagnostics) :
    diagnostic.code ∈ Code.sourceParseError :: requestCodes := by
  rcases mem_file member with ⟨declaration, found, _, rfl⟩ | ⟨place, rfl⟩
  · exact List.mem_cons_of_mem _ (code_outcome reported)
  · rw [List.mem_singleton.mp reported]
    exact List.mem_cons_self ..

end File

end Scan
end TermBind

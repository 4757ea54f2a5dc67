import Mathlib.Data.List.Basic
import TermBind.Scan

/-! What a declaration has to meet to make a request. The requirements are checked in a fixed order, and
the first that is not met decides what is reported. -/
namespace TermBind.Scan

variable (name : String) (declaration : Declaration)

/-- The annotations of a name. -/
def uses : List AnnotationUse := declaration.annotations.filter fun use => use.name == name

/-- The arguments of the first annotation of a name. -/
def arguments : List Argument := (declaration.argumentsOf? name).getD []

/-- A declaration asks for the constants of a document: it has a full name, and the first annotation of
the name gives the rest. -/
structure Asks (binding : Binding) : Prop where
  arguments : arguments name declaration =
    [.literal binding.documentKey, .literal binding.prefixLabel, .literal binding.prefixUri]
  fullName : declaration.qualifiedName = some binding.qualifiedName

/-- What is required of a declaration: that it introduces a type, has the annotation once, gives three
literals or more, nothing else, and no more than three, has a full name, and makes a request that is
accepted. -/
inductive Check where
  | isType
  | isAppliedOnce
  | hasLiterals
  | isLiteral
  | isTriple
  | isNamed
  | isAccepted
deriving DecidableEq

namespace Check

/-- The order of the checks. -/
def all : List Check :=
  [.isType, .isAppliedOnce, .hasLiterals, .isLiteral, .isTriple, .isNamed, .isAccepted]

/-- The checks made before one. -/
def before (check : Check) : List Check := all.takeWhile (· ≠ check)

theorem mem_all (check : Check) : check ∈ all := by
  cases check <;> decide

theorem eq_or_before (left right : Check) :
    left = right ∨ left ∈ right.before ∨ right ∈ left.before := by
  cases left <;> cases right <;> decide

def Passes : Check → Prop
  | .isType => declaration.isType = true
  | .isAppliedOnce => (uses name declaration).length = 1
  | .hasLiterals =>
    requiredArguments ≤ ((arguments name declaration).filterMap Argument.literal?).length
  | .isLiteral => ∀ argument ∈ arguments name declaration, ∃ value, argument = .literal value
  | .isTriple => (arguments name declaration).length = requiredArguments
  | .isNamed => ∃ full, declaration.qualifiedName = some full
  | .isAccepted => ∃ binding, Asks name declaration binding ∧ binding.validated = .ok binding

/-- What is reported of a check that fails. -/
inductive Reports : Check → Diagnostic → Prop
  | isType : Reports .isType (.of .notADeclaration [declaration.shownName])
  | isAppliedOnce : Reports .isAppliedOnce
      (.of .invalidBindingArgument
        [declaration.shownName, repeated name (uses name declaration).length])
  | hasLiterals : Reports .hasLiterals
      (.of .incorrectArgumentCount
        [toString ((arguments name declaration).filterMap Argument.literal?).length])
  | isLiteral {literals : List String} {text : String} {others : List Argument}
      (written : arguments name declaration = literals.map .literal ++ .expression text :: others) :
      Reports .isLiteral (.of .nonLiteralArgument [toString (literals.length + 1), text])
  | isTriple : Reports .isTriple
      (.of .incorrectArgumentCount [toString (arguments name declaration).length])
  | isNamed : Reports .isNamed (.of .unresolvableDeclaration [declaration.shownName])
  | isAccepted {binding : Binding} {problem : BindingProblem} (asked : Asks name declaration binding)
      (found : binding.validated = .error problem) :
      Reports .isAccepted (.of .invalidBindingArgument [declaration.shownName, problem.message])

/-- The checks before one do not fail. -/
def IsReached (check : Check) : Prop := ∀ earlier ∈ check.before, earlier.Passes name declaration

structure IsFirstFailure (check : Check) : Prop where
  reached : check.IsReached name declaration
  fails : ¬ check.Passes name declaration

end Check

/-- The result of a scan, as the checks have it. -/
inductive Verdict : Except Diagnostic Binding → Prop
  | made {binding : Binding} (asked : Asks name declaration binding)
      (passed : ∀ check : Check, check.Passes name declaration) : Verdict (.ok binding)
  | refused {check : Check} {diagnostic : Diagnostic} (first : check.IsFirstFailure name declaration)
      (reported : check.Reports name declaration diagnostic) : Verdict (.error diagnostic)

variable {name} {declaration}

theorem argumentsOf?_eq :
    declaration.argumentsOf? name = (uses name declaration).head?.map AnnotationUse.arguments := by
  rw [Declaration.argumentsOf?, uses, List.head?_filter]

theorem uses_eq_nil_iff : uses name declaration = [] ↔ ∀ use ∈ declaration.annotations, use.name ≠ name := by
  simp [uses, List.filter_eq_nil_iff]

theorem argumentsOf?_eq_none_iff :
    declaration.argumentsOf? name = none ↔ ∀ use ∈ declaration.annotations, use.name ≠ name := by
  rw [argumentsOf?_eq, Option.map_eq_none_iff, List.head?_eq_none_iff, uses_eq_nil_iff]

theorem arguments_of_uses {use : AnnotationUse} {others : List AnnotationUse}
    (found : uses name declaration = use :: others) : arguments name declaration = use.arguments := by
  rw [arguments, argumentsOf?_eq, found]
  rfl

theorem Asks.unique {left right : Binding} (asked : Asks name declaration left)
    (asked' : Asks name declaration right) : left = right := by
  have same := asked.arguments.symm.trans asked'.arguments
  have full := asked.fullName.symm.trans asked'.fullName
  simp only [List.cons.injEq, Argument.literal.injEq, and_true] at same
  simp only [Option.some.injEq, Binding.qualifiedName, QualifiedName.mk.injEq] at full
  cases left
  cases right
  simp_all

/-- The literals in front of the first other argument are determined, and its text is. -/
theorem literals_unique {literals literals' : List String} {text text' : String}
    {others others' : List Argument}
    (same : literals.map Argument.literal ++ .expression text :: others =
      literals'.map Argument.literal ++ .expression text' :: others') :
    literals = literals' ∧ text = text' := by
  induction literals generalizing literals' with
  | nil =>
    cases literals' with
    | nil => simp_all
    | cons => simp at same
  | cons first rest ih =>
    cases literals' with
    | nil => simp at same
    | cons first' rest' =>
      simp only [List.map_cons, List.cons_append, List.cons.injEq, Argument.literal.injEq] at same
      obtain ⟨rfl, rfl⟩ := ih same.2
      exact ⟨by rw [same.1], rfl⟩

theorem Check.Reports.unique {check : Check} {left right : Diagnostic}
    (reported : check.Reports name declaration left) (reported' : check.Reports name declaration right) :
    left = right := by
  cases reported with
  | isLiteral written =>
    cases reported' with
    | isLiteral written' =>
      obtain ⟨rfl, rfl⟩ := literals_unique (written.symm.trans written')
      rfl
  | isAccepted asked found =>
    cases reported' with
    | isAccepted asked' found' =>
      cases asked.unique asked'
      cases found.symm.trans found'
      rfl
  | _ =>
    cases reported'
    rfl

theorem Check.IsFirstFailure.unique {left right : Check} (first : left.IsFirstFailure name declaration)
    (first' : right.IsFirstFailure name declaration) : left = right := by
  rcases eq_or_before left right with same | earlier | earlier
  · exact same
  · exact absurd (first'.reached left earlier) first.fails
  · exact absurd (first.reached right earlier) first'.fails

theorem Verdict.unique {left right : Except Diagnostic Binding} (verdict : Verdict name declaration left)
    (verdict' : Verdict name declaration right) : left = right := by
  cases verdict with
  | made asked passed =>
    cases verdict' with
    | made asked' _ => rw [asked.unique asked']
    | refused first _ => exact absurd (passed _) first.fails
  | refused first reported =>
    cases verdict' with
    | made _ passed => exact absurd (passed _) first.fails
    | refused first' reported' =>
      cases first.unique first'
      rw [reported.unique reported']

/-- Either all arguments are literal, or there is a first one that is not. -/
theorem literals_or_expression (given : List Argument) :
    (∃ literals : List String, given = literals.map .literal) ∨
      ∃ (literals : List String) (text : String) (others : List Argument),
        given = literals.map .literal ++ .expression text :: others := by
  induction given with
  | nil => exact .inl ⟨[], rfl⟩
  | cons first rest ih =>
    cases first with
    | expression text => exact .inr ⟨[], text, rest, rfl⟩
    | literal value =>
      rcases ih with ⟨literals, rfl⟩ | ⟨literals, text, others, rfl⟩
      · exact .inl ⟨value :: literals, rfl⟩
      · exact .inr ⟨value :: literals, text, others, rfl⟩

theorem findSome?_literals (literals : List String) (start : Nat) :
    ((literals.map Argument.literal).zipIdx start).findSome?
      (fun entry => entry.1.expression?.map fun text => (entry.2 + 1, text)) = none := by
  induction literals generalizing start with
  | nil => rfl
  | cons first rest ih =>
    rw [List.map_cons, List.zipIdx_cons, List.findSome?_cons]
    exact ih (start + 1)

theorem firstExpression?_literals (literals : List String) :
    firstExpression? (literals.map .literal) = none :=
  findSome?_literals literals 0

theorem firstExpression?_append (literals : List String) (text : String) (others : List Argument) :
    firstExpression? (literals.map .literal ++ .expression text :: others) =
      some (literals.length + 1, text) := by
  rw [firstExpression?, List.zipIdx_append, List.findSome?_append, findSome?_literals]
  simp [List.zipIdx_cons, Argument.expression?]

theorem filterMap_literals (literals : List String) :
    (literals.map Argument.literal).filterMap Argument.literal? = literals := by
  rw [List.filterMap_map]
  exact List.filterMap_some

theorem Check.IsReached.through {check : Check} (reached : check.IsReached name declaration)
    (passes : check.Passes name declaration) :
    ∀ other ∈ check.before ++ [check], other.Passes name declaration := by
  intro other member
  rcases List.mem_append.mp member with earlier | same
  · exact reached other earlier
  · rwa [List.mem_singleton.mp same]

theorem Check.IsReached.next {check next : Check} (reached : check.IsReached name declaration)
    (passes : check.Passes name declaration) (order : next.before = check.before ++ [check]) :
    next.IsReached name declaration :=
  fun earlier member => reached.through passes earlier (order ▸ member)

theorem Check.IsReached.last {check : Check} (reached : check.IsReached name declaration)
    (passes : check.Passes name declaration) (order : Check.all = check.before ++ [check]) :
    ∀ other : Check, other.Passes name declaration :=
  fun other => reached.through passes other (order ▸ other.mem_all)

theorem verdict_resolved {documentKey prefixLabel prefixUri : String}
    (given : arguments name declaration =
      [.literal documentKey, .literal prefixLabel, .literal prefixUri])
    (reached : Check.isNamed.IsReached name declaration) :
    Verdict name declaration (resolved declaration documentKey prefixLabel prefixUri) := by
  unfold resolved
  cases known : declaration.qualifiedName with
  | none => exact .refused ⟨reached, by simp [Check.Passes, known]⟩ .isNamed
  | some full =>
    let binding : Binding :=
      { documentKey, scope := full.scope, typeName := full.name, prefixLabel, prefixUri }
    have asked : Asks name declaration binding := ⟨given, known⟩
    have named : Check.isAccepted.IsReached name declaration := reached.next ⟨full, known⟩ rfl
    change Verdict name declaration (binding.validated.mapError _)
    cases checked : binding.validated with
    | ok result =>
      obtain ⟨rfl, _⟩ := Binding.validated_eq_ok checked
      exact .made asked (named.last ⟨_, asked, checked⟩ rfl)
    | error problem =>
      refine .refused ⟨named, ?_⟩ (.isAccepted asked checked)
      rintro ⟨other, asked', accepted⟩
      cases asked.unique asked'
      cases checked.symm.trans accepted

theorem verdict_fromArguments (reached : Check.hasLiterals.IsReached name declaration) :
    Verdict name declaration (fromArguments declaration (arguments name declaration)) := by
  rw [fromArguments]
  split
  · rename_i few
    exact .refused ⟨reached, Nat.not_le_of_lt few⟩ .hasLiterals
  rename_i enough
  have enoughLiterals : Check.isLiteral.IsReached name declaration :=
    reached.next (Nat.le_of_not_lt enough) rfl
  rcases literals_or_expression (arguments name declaration) with
    ⟨literals, given⟩ | ⟨literals, text, others, given⟩
  · have allLiteral : Check.isTriple.IsReached name declaration :=
      enoughLiterals.next (by simp [Check.Passes, given]) rfl
    simp only [given, firstExpression?_literals, filterMap_literals]
    split
    · have triple : (arguments name declaration).length = requiredArguments := by
        simp [given, requiredArguments]
      exact verdict_resolved given (allLiteral.next triple rfl)
    · rename_i other
      rw [← given]
      refine .refused ⟨allLiteral, fun triple => ?_⟩ .isTriple
      have length : literals.length = 3 := by
        simpa [Check.Passes, requiredArguments, given] using triple
      obtain ⟨documentKey, prefixLabel, prefixUri, rfl⟩ := List.length_eq_three.mp length
      exact other documentKey prefixLabel prefixUri rfl
  · rw [given, firstExpression?_append]
    refine .refused ⟨enoughLiterals, fun allLiteral => ?_⟩ (.isLiteral given)
    obtain ⟨value, same⟩ := allLiteral (.expression text) (by simp [given])
    cases same

/-- Without an annotation this would report one that is applied no times; a scan does not come to that. -/
theorem verdict_fromAnnotations :
    Verdict name declaration (fromAnnotations name declaration (uses name declaration)) := by
  have start : Check.isType.IsReached name declaration := by
    rintro earlier ⟨⟩
  unfold fromAnnotations
  split
  · rename_i other
    exact .refused ⟨start, by simpa [Check.Passes] using other⟩ .isType
  rename_i type
  have typed : Check.isAppliedOnce.IsReached name declaration :=
    start.next (by simpa [Check.Passes] using type) rfl
  split
  · rename_i use alone
    rw [← arguments_of_uses alone]
    exact verdict_fromArguments (typed.next (by simp [Check.Passes, alone]) rfl)
  · rename_i several
    refine .refused ⟨typed, ?_⟩ .isAppliedOnce
    intro once
    obtain ⟨use, alone⟩ := List.length_eq_one_iff.mp once
    exact several use alone

theorem fromAnnotations_eq_iff {result : Except Diagnostic Binding} :
    fromAnnotations name declaration (uses name declaration) = result ↔
      Verdict name declaration result := by
  constructor
  · rintro rfl
    exact verdict_fromAnnotations
  · exact verdict_fromAnnotations.unique

/-- A request passes every check if it comes from the one annotation of a type. -/
theorem verdict_ok_iff {binding : Binding} : Verdict name declaration (.ok binding) ↔
    declaration.isType = true ∧
      (∃ use, uses name declaration = [use] ∧
        use.arguments = [.literal binding.documentKey, .literal binding.prefixLabel,
          .literal binding.prefixUri]) ∧
      declaration.qualifiedName = some binding.qualifiedName ∧ binding.validated = .ok binding := by
  constructor
  · rintro ⟨asked, passed⟩
    obtain ⟨use, alone⟩ := List.length_eq_one_iff.mp (passed .isAppliedOnce)
    obtain ⟨other, asked', accepted⟩ := passed .isAccepted
    rw [← asked.unique asked'] at accepted
    refine ⟨passed .isType, ⟨use, alone, ?_⟩, asked.fullName, accepted⟩
    rw [← arguments_of_uses alone]
    exact asked.arguments
  · rintro ⟨isType, ⟨use, alone, given⟩, fullName, accepted⟩
    rw [← arguments_of_uses alone] at given
    refine .made ⟨given, fullName⟩ fun check => ?_
    cases check with
    | isType => exact isType
    | isAppliedOnce => exact List.length_eq_one_iff.mpr ⟨use, alone⟩
    | hasLiterals => simp [Check.Passes, given, Argument.literal?, requiredArguments]
    | isLiteral => simp [Check.Passes, given]
    | isTriple => simp [Check.Passes, given, requiredArguments]
    | isNamed => exact ⟨_, fullName⟩
    | isAccepted => exact ⟨binding, ⟨given, fullName⟩, accepted⟩

theorem verdict_error_iff {diagnostic : Diagnostic} : Verdict name declaration (.error diagnostic) ↔
    ∃ check, Check.IsFirstFailure name declaration check ∧ check.Reports name declaration diagnostic := by
  constructor
  · rintro ⟨⟩
    exact ⟨_, ‹_›, ‹_›⟩
  · rintro ⟨check, first, reported⟩
    exact .refused first reported

theorem uninterrupted_matching (written : List AnnotationUse) :
    uninterrupted (matching (pure ()) name written) = written.filter fun use => use.name == name := by
  induction written with
  | nil => rfl
  | cons use rest ih =>
    change (if use.name == name then use :: uninterrupted (matching (pure ()) name rest)
      else uninterrupted (matching (pure ()) name rest)) = _
    rw [ih, List.filter_cons]

theorem uninterrupted_declaration :
    uninterrupted (Scan.declaration (pure ()) name declaration) =
      if (uses name declaration).isEmpty then none
      else some (outcome name declaration (uses name declaration)) := by
  rw [uses, ← uninterrupted_matching]
  rfl

theorem outcome_eq_ok_iff {found : List AnnotationUse} {scanned : ScannedBinding} :
    outcome name declaration found = .ok scanned ↔
      fromAnnotations name declaration found = .ok scanned.binding ∧
        scanned.location = declaration.location := by
  unfold outcome
  cases fromAnnotations name declaration found with
  | ok binding =>
    cases scanned
    simp [Outcome.ofExcept, Outcome.map, Outcome.mapDiagnostics, eq_comm]
  | error diagnostic => simp [Outcome.ofExcept, Outcome.map, Outcome.mapDiagnostics, Outcome.fail]

theorem outcome_eq_fail_iff {found : List AnnotationUse} {diagnostic : Diagnostic} :
    outcome name declaration found = .fail diagnostic ↔
      ∃ plain, fromAnnotations name declaration found = .error plain ∧
        diagnostic = plain.locatedAt declaration.location := by
  unfold outcome
  cases fromAnnotations name declaration found with
  | ok binding => simp [Outcome.ofExcept, Outcome.map, Outcome.mapDiagnostics, Outcome.fail]
  | error plain =>
    simp [Outcome.ofExcept, Outcome.map, Outcome.mapDiagnostics, Outcome.fail, Diagnostics.map, eq_comm]

theorem outcome_decided (found : List AnnotationUse) :
    (∃ request, outcome name declaration found = .ok request) ∨
      ∃ plain, fromAnnotations name declaration found = .error plain ∧
        outcome name declaration found = .fail (plain.locatedAt declaration.location) := by
  cases result : fromAnnotations name declaration found with
  | ok binding => exact .inl ⟨⟨binding, declaration.location⟩, outcome_eq_ok_iff.mpr ⟨result, rfl⟩⟩
  | error plain => exact .inr ⟨plain, rfl, outcome_eq_fail_iff.mpr ⟨plain, result, rfl⟩⟩

theorem Check.Reports.unlocated {check : Check} {diagnostic : Diagnostic}
    (reported : check.Reports name declaration diagnostic) : diagnostic.location = none := by
  cases reported <;> rfl

theorem location_locatedAt {plain : Diagnostic} (unlocated : plain.location = none)
    (location : Option Location) : (plain.locatedAt location).location = location := by
  rw [Diagnostic.locatedAt, unlocated]
  exact Option.none_or

variable (name) (declaration)

/-- What comes of a declaration. Without an annotation of the name nothing does; else it is the request
that the declaration makes, or what the first check that fails reports. -/
structure IsDecided (scanned : Option (Outcome ScannedBinding)) : Prop where
  absent : scanned = none ↔ declaration.argumentsOf? name = none
  unused : scanned = none ↔ ∀ use ∈ declaration.annotations, use.name ≠ name
  present outcome : scanned = some outcome → (∃ request, outcome = .ok request) ∨
    ∃ diagnostic, outcome = .fail diagnostic ∧ diagnostic.location = declaration.location
  made request : scanned = some (.ok request) ↔
    declaration.isType = true ∧
      (∃ use, uses name declaration = [use] ∧
        use.arguments = [.literal request.binding.documentKey, .literal request.binding.prefixLabel,
          .literal request.binding.prefixUri]) ∧
      declaration.qualifiedName = some request.binding.qualifiedName ∧
      request.binding.validated = .ok request.binding ∧ request.location = declaration.location
  refused diagnostic : scanned = some (.fail diagnostic) ↔
    (∃ use ∈ declaration.annotations, use.name = name) ∧
      ∃ check plain, Check.IsFirstFailure name declaration check ∧
        check.Reports name declaration plain ∧ diagnostic = plain.locatedAt declaration.location

variable {name} {declaration}

theorem isDecided_none (unused : ∀ use ∈ declaration.annotations, use.name ≠ name) :
    IsDecided name declaration none where
  absent := by simpa [argumentsOf?_eq_none_iff] using unused
  unused := by simpa using unused
  present := by simp
  made request := by
    refine ⟨by simp, ?_⟩
    rintro ⟨-, ⟨use, alone, -⟩, -⟩
    cases (uses_eq_nil_iff.mpr unused).symm.trans alone
  refused diagnostic := by
    refine ⟨by simp, ?_⟩
    rintro ⟨⟨use, member, named⟩, -⟩
    exact absurd named (unused use member)

theorem isDecided_outcome (used : ∃ use ∈ declaration.annotations, use.name = name) :
    IsDecided name declaration (some (outcome name declaration (uses name declaration))) where
  absent := by simpa [argumentsOf?_eq_none_iff] using used
  unused := by simpa using used
  present := by
    rintro _ ⟨⟩
    refine (outcome_decided _).imp_right ?_
    rintro ⟨plain, failed, same⟩
    obtain ⟨check, _, reported⟩ := verdict_error_iff.mp (fromAnnotations_eq_iff.mp failed)
    exact ⟨_, same, location_locatedAt reported.unlocated _⟩
  made request := by
    rw [Option.some.injEq, outcome_eq_ok_iff, fromAnnotations_eq_iff, verdict_ok_iff]
    simp only [and_assoc]
  refused diagnostic := by
    rw [Option.some.injEq, outcome_eq_fail_iff]
    simp only [fromAnnotations_eq_iff, verdict_error_iff]
    constructor
    · rintro ⟨plain, ⟨check, first, reported⟩, same⟩
      exact ⟨used, check, plain, first, reported, same⟩
    · rintro ⟨-, check, plain, first, reported, same⟩
      exact ⟨plain, ⟨check, first, reported⟩, same⟩

/-- A declaration whose scan nothing interrupts gives what its checks decide. -/
theorem isDecided_declaration (name : String) (declaration : Declaration) :
    IsDecided name declaration (uninterrupted (Scan.declaration (pure ()) name declaration)) := by
  rw [uninterrupted_declaration]
  split
  · rename_i empty
    exact isDecided_none (uses_eq_nil_iff.mp (List.isEmpty_iff.mp empty))
  · rename_i found
    have used := mt uses_eq_nil_iff.mpr (mt List.isEmpty_iff.mpr found)
    exact isDecided_outcome (by simpa using used)

end TermBind.Scan

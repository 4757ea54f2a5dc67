import TermBind.Declaration
import TermBind.Outcome

/-! Reading requests from annotated declarations. A checkpoint is passed before each annotation is
looked at; where a checkpoint can interrupt, nothing else comes out of an interrupted scan. -/
namespace TermBind.Scan

/-- Document key, prefix and prefix URI. -/
def requiredArguments : Nat := 3

/-- The position and text of the first argument that is no literal. -/
def firstExpression? (arguments : List Argument) : Option (Nat × String) :=
  arguments.zipIdx.findSome? fun entry => entry.1.expression?.map fun text => (entry.2 + 1, text)

def resolved (declaration : Declaration) (documentKey prefixLabel prefixUri : String) :
    Except Diagnostic Binding :=
  match declaration.qualifiedName with
  | none => .error (.of .unresolvableDeclaration [declaration.shownName])
  | some name =>
    let binding : Binding :=
      { documentKey, scope := name.scope, typeName := name.name, prefixLabel, prefixUri }
    binding.validated.mapError fun problem =>
      .of .invalidBindingArgument [declaration.shownName, problem.message]

/-- The request that the arguments of the one annotation make. -/
def fromArguments (declaration : Declaration) (arguments : List Argument) : Except Diagnostic Binding :=
  let literals := arguments.filterMap Argument.literal?
  if literals.length < requiredArguments then
    .error (.of .incorrectArgumentCount [toString literals.length])
  else
    match firstExpression? arguments with
    | some (position, text) => .error (.of .nonLiteralArgument [toString position, text])
    | none =>
      match literals with
      | [documentKey, prefixLabel, prefixUri] =>
        resolved declaration documentKey prefixLabel prefixUri
      | _ => .error (.of .incorrectArgumentCount [toString arguments.length])

def repeated (name : String) (count : Nat) : String :=
  "`" ++ name ++ "` is applied " ++ toString count ++ " times"

/-- The request of a declaration, given its annotations of the name looked for. -/
def fromAnnotations (name : String) (declaration : Declaration) (found : List AnnotationUse) :
    Except Diagnostic Binding :=
  if !declaration.isType then .error (.of .notADeclaration [declaration.shownName])
  else
    match found with
    | [use] => fromArguments declaration use.arguments
    | _ =>
      .error (.of .invalidBindingArgument [declaration.shownName, repeated name found.length])

/-- What comes of a declaration that has annotations of the name. -/
def outcome (name : String) (declaration : Declaration) (found : List AnnotationUse) :
    Outcome ScannedBinding :=
  ((Outcome.ofExcept (fromAnnotations name declaration found)).map fun binding =>
    { binding, location := declaration.location }).mapDiagnostics
      (·.locatedAt declaration.location)

variable {m : Type → Type} [Monad m]

/-- The annotations of a name, with a checkpoint before each annotation. -/
def matching (checkpoint : m Unit) (name : String) : List AnnotationUse → m (List AnnotationUse)
  | [] => return []
  | use :: rest => do
    checkpoint
    let found ← matching checkpoint name rest
    return if use.name == name then use :: found else found

/-- Scan a declaration; one without an annotation of the name gives nothing. -/
def declaration (checkpoint : m Unit) (name : String) (declaration : Declaration) :
    m (Option (Outcome ScannedBinding)) := do
  let found ← matching checkpoint name declaration.annotations
  return if found.isEmpty then none else some (outcome name declaration found)

def declarations (checkpoint : m Unit) (name : String) :
    List Declaration → m (List (Outcome ScannedBinding))
  | [] => return []
  | first :: rest => do
    let scanned ← declaration checkpoint name first
    let others ← declarations checkpoint name rest
    return scanned.toList ++ others

/-- The scan was given up. -/
inductive Cancelled where
  | cancelled
deriving DecidableEq, Repr

def Cancelled.message : Cancelled → String
  | .cancelled => "scan cancelled"

/-- Which checkpoints interrupt, counted from zero. -/
abbrev Signal := Nat → Bool

namespace Signal

/-- Lets a number of checkpoints pass. -/
def after (count : Nat) : Signal := fun passed => count ≤ passed

end Signal

/-- A scan that can be interrupted; the number of checkpoints it came to is kept. -/
abbrev Interruptible := ExceptT Cancelled (StateM Nat)

def checkpoint (signal : Signal) : Interruptible Unit := do
  let passed ← getModify (· + 1)
  if signal passed then throw .cancelled

/-- The result of an interruptible scan from its first checkpoint on. -/
def Interruptible.result {α : Type} (scan : Interruptible α) : Except Cancelled α :=
  (ExceptT.run scan |>.run 0).1

/-- The result of a scan that nothing interrupts. -/
def uninterrupted {α : Type} (scan : Id α) : α := scan.run

end TermBind.Scan

import TermBind.Config
import TermBind.Report
import TermBind.Sink

/-! What comes of a whole evaluation: artifacts by name and sorted diagnostics. -/
namespace TermBind

/-- An artifact and where its declaration stands. -/
structure Product where
  artifact : Artifact
  location : Option Location := none
deriving DecidableEq, Repr, Inhabited

/-- Artifacts under their names, ascending, and every diagnostic. -/
structure Output where
  artifacts : List (String × Artifact) := []
  diagnostics : List Diagnostic := []
deriving DecidableEq, Repr, Inhabited

namespace Output

/-- Products by the names of their artifacts. -/
def candidates (products : List Product) : List (String × List Product) :=
  Collection.groups (products.map fun product => (product.artifact.name, product))

/-- A name that one declaration alone produces has its artifact. -/
def accepted? (candidate : String × List Product) : Option (String × Artifact) :=
  match candidate.2 with
  | [product] => some (candidate.1, product.artifact)
  | _ => none

/-- A name that several declarations produce is reported at each of them. -/
def contested (candidate : String × List Product) : List Diagnostic :=
  match candidate.2 with
  | [_] => []
  | products =>
    let names := products.map fun product => product.artifact.binding.qualifiedName.display
    let arguments := [candidate.1, ", ".intercalate (Collection.sortOn id names)]
    products.map fun product => (Diagnostic.of .duplicateArtifactName arguments).locatedAt product.location

/-- The diagnostics of an evaluation in the order in which they come up, before severities are set:
those given first, those of declarations that failed, those of contested names. -/
def problems (first : List Diagnostic) (outcomes : List (Outcome Product)) : List Diagnostic :=
  first ++ outcomes.flatMap Outcome.diagnostics ++
    (candidates (outcomes.filterMap Outcome.value?)).flatMap contested

/-- Put an evaluation together. -/
def assemble (overrides : SeverityOverrides) (first : List Diagnostic)
    (outcomes : List (Outcome Product)) : Output where
  artifacts := (candidates (outcomes.filterMap Outcome.value?)).filterMap accepted?
  diagnostics := Collection.sortOn Diagnostic.sortKey ((problems first outcomes).map overrides.apply)

def hasErrors (output : Output) : Bool := output.diagnostics.any Diagnostic.isError

def report (timestamp : String) (output : Output) : Report :=
  .ofParts timestamp output.diagnostics (output.artifacts.map fun entry => entry.2.record)

variable {m : Type → Type} [Monad m] {ε : Type}

/-- Offer every artifact in order; the first failure is the result. -/
def offer (sink : Sink m ε) : List (String × Artifact) → m (Option ε)
  | [] => return none
  | entry :: rest => do
    let failure ← sink.add entry.2.name entry.2.text
    return failure.or (← offer sink rest)

def reportAll (sink : Sink m ε) : List Diagnostic → m Unit
  | [] => return ()
  | diagnostic :: rest => do
    sink.report diagnostic
    reportAll sink rest

/-- Hand every diagnostic to a sink, then every artifact. A failure does not stop the others. -/
def emit (sink : Sink m ε) (output : Output) : m (Option ε) := do
  reportAll sink output.diagnostics
  offer sink output.artifacts

end Output
end TermBind

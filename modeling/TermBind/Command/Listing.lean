import TermBind.Command.Arguments
import TermBind.Config
import TermBind.Outcome
import TermBind.Report

/-! What the program prints, line by line. -/
namespace TermBind.Command

/-- A diagnostic, and below it the place that it is about. -/
def diagnosticLines (diagnostic : Diagnostic) : List String :=
  s!"{diagnostic.severity.word}[{diagnostic.code.id}]: {diagnostic.message}" ::
    (diagnostic.location.map fun location => s!"  --> {location.display}").toList

def rule : String := String.ofList (List.replicate 60 '=')

def summaryLines (summary : ReportSummary) : List String :=
  ["", rule, "ttlgen Report", rule, "", s!"Artifacts: {summary.artifacts}",
    s!"  Errors:   {summary.errors}", s!"  Warnings: {summary.warnings}",
    s!"  Info:     {summary.info}", ""] ++
    if summary.total = 0 then ["✓ No issues found!"] else []

/-- A report on an evaluation: every diagnostic, then the counts. -/
def reportLines (diagnostics : List Diagnostic) (summary : ReportSummary) : List String :=
  diagnostics.flatMap diagnosticLines ++ summaryLines summary

/-- The requests that source files make, in order, and what is wrong with others. -/
structure Inventory where
  bindings : List ScannedBinding := []
  diagnostics : List Diagnostic := []
deriving DecidableEq, Repr, Inhabited

namespace Inventory

def ofOutcomes (overrides : SeverityOverrides) (outcomes : List (Outcome ScannedBinding)) :
    Inventory where
  bindings := outcomes.filterMap Outcome.value?
  diagnostics := Collection.sortOn Diagnostic.sortKey
    ((outcomes.flatMap Outcome.diagnostics).map overrides.apply)

def hasErrors (inventory : Inventory) : Bool := inventory.diagnostics.any Diagnostic.isError

def bindingLines (isVerbose : Bool) (scanned : ScannedBinding) : List String :=
  let binding := scanned.binding
  let place := if isVerbose then scanned.location else none
  [s!"  {binding.qualifiedName.display} <- {binding.documentKey}",
    s!"    prefix {binding.prefixLabel} = <{binding.prefixUri}>"] ++
    (place.map fun location => s!"    at {location.display}").toList

def lines (isVerbose : Bool) (inventory : Inventory) : List String :=
  ["Schema Bindings", ""] ++
    (if inventory.bindings.isEmpty then ["No bindings found"] else []) ++
    inventory.bindings.flatMap (bindingLines isVerbose) ++ [""] ++
    inventory.diagnostics.flatMap diagnosticLines

end Inventory
end TermBind.Command

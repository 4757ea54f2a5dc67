import TermBind.Artifact

/-! Machine-readable reports of a run. -/
namespace TermBind

structure ReportVersion where
  major : Nat
  minor : Nat
deriving DecidableEq, Repr, Inhabited

def ReportVersion.current : ReportVersion := ⟨1, 0⟩

def ReportVersion.display (version : ReportVersion) : String := s!"{version.major}.{version.minor}"

structure ReportSummary where
  total : Nat := 0
  errors : Nat := 0
  warnings : Nat := 0
  info : Nat := 0
  artifacts : Nat := 0
deriving DecidableEq, Repr, Inhabited

structure Report where
  version : ReportVersion := .current
  timestamp : String
  summary : ReportSummary := {}
  diagnostics : List Diagnostic := []
  artifacts : List ArtifactRecord := []
deriving DecidableEq, Repr, Inhabited

namespace ReportSummary

def countOf (severity : Severity) (diagnostics : List Diagnostic) : Nat :=
  diagnostics.countP fun diagnostic => diagnostic.severity == severity

def ofParts (diagnostics : List Diagnostic) (artifacts : List ArtifactRecord) : ReportSummary where
  total := diagnostics.length
  errors := countOf .error diagnostics
  warnings := countOf .warn diagnostics
  info := countOf .info diagnostics
  artifacts := artifacts.length

end ReportSummary

namespace Report

def ofParts (timestamp : String) (diagnostics : List Diagnostic) (artifacts : List ArtifactRecord) :
    Report where
  timestamp
  summary := .ofParts diagnostics artifacts
  diagnostics
  artifacts

def hasErrors (report : Report) : Bool := 0 < report.summary.errors

end Report
end TermBind

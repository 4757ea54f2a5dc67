import TermBind.Config
import TermBind.Json.Reader
import TermBind.Json.Writer
import TermBind.Report
import TermBind.Toml.Reader

/-! The records of this library as values of text formats, written and read. -/
namespace TermBind

open Data

def Severity.ofData? (dialect : Dialect) (value : Value) : Option Severity := do
  Severity.ofName? (← name? dialect value)

namespace Location

def toData (location : Location) : Value :=
  .record
    [("file", .text location.file), ("line", Value.ofOption .natural location.line),
      ("column", Value.ofOption .natural location.column)]

def ofData? (value : Value) : Option Location := do
  match ← slots? Json.dialect ["file", "line", "column"] value with
  | [file, line, column] =>
    return ⟨← file.required text?, ← line.optional count?, ← column.optional count?⟩
  | _ => none

end Location

namespace Diagnostic

def toData (diagnostic : Diagnostic) : Value :=
  .record
    [("code", .text diagnostic.code.name), ("severity", .text diagnostic.severity.name),
      ("message", .text diagnostic.message), ("args", Value.ofTexts diagnostic.arguments),
      ("location", Value.ofOption Location.toData diagnostic.location)]

def code? (value : Value) : Option Code := do Code.ofName? (← name? Json.dialect value)

def ofData? (value : Value) : Option Diagnostic := do
  match ← slots? Json.dialect ["code", "severity", "message", "args", "location"] value with
  | [code, severity, message, arguments, location] =>
    return {
      code := ← code.required code?
      severity := ← severity.required (Severity.ofData? Json.dialect)
      message := ← message.required text?
      arguments := ← arguments.required (list? text?)
      location := ← location.optional Location.ofData? }
  | _ => none

end Diagnostic

namespace Binding

def toData (binding : Binding) : Value :=
  .record
    [("document_key", .text binding.documentKey), ("namespace", .text binding.scope),
      ("type_name", .text binding.typeName), ("preferred_prefix", .text binding.prefixLabel),
      ("prefix_uri", .text binding.prefixUri)]

/-- The fields are taken as they are given; their rules are not checked. -/
def ofData? (value : Value) : Option Binding := do
  let names := ["document_key", "namespace", "type_name", "preferred_prefix", "prefix_uri"]
  match ← slots? Json.dialect names value with
  | [documentKey, scope, typeName, prefixLabel, prefixUri] =>
    return ⟨← documentKey.required text?, ← scope.required text?, ← typeName.required text?,
      ← prefixLabel.required text?, ← prefixUri.required text?⟩
  | _ => none

end Binding

namespace ScannedBinding

def toData (scanned : ScannedBinding) : Value :=
  .record
    [("binding", scanned.binding.toData), ("location", Value.ofOption Location.toData scanned.location)]

def ofData? (value : Value) : Option ScannedBinding := do
  match ← slots? Json.dialect ["binding", "location"] value with
  | [binding, location] =>
    return ⟨← binding.required Binding.ofData?, ← location.optional Location.ofData?⟩
  | _ => none

end ScannedBinding

namespace Node

def tagged (kind : String) (value : Value) : Value :=
  .record [("kind", .text kind), ("value", value)]

def toData : Node → Value
  | .iri text => tagged "iri" (.text text)
  | .blank label => tagged "blank" (.text label)
  | .literal value datatype language =>
    tagged "literal" <| .record
      [("value", .text value), ("datatype", .text datatype), ("language", Value.ofOption .text language)]

def literalOf? (value : Value) : Option Node := do
  match ← slots? Json.dialect ["value", "datatype", "language"] value with
  | [value, datatype, language] =>
    return .literal (← value.required text?) (← datatype.required text?) (← language.optional text?)
  | _ => none

def ofData? (value : Value) : Option Node := do
  match ← slots? Json.dialect ["kind", "value"] value with
  | [kind, content] =>
    match ← kind.required (name? Json.dialect) with
    | "iri" => return .iri (← content.required text?)
    | "blank" => return .blank (← content.required text?)
    | "literal" => content.required literalOf?
    | _ => none
  | _ => none

end Node

namespace Triple

def toData (triple : Triple) : Value :=
  .record
    [("subject", triple.subject.toData), ("predicate", .text triple.predicate),
      ("object", triple.object.toData)]

def ofData? (value : Value) : Option Triple := do
  match ← slots? Json.dialect ["subject", "predicate", "object"] value with
  | [subject, predicate, object] =>
    return ⟨← subject.required Node.ofData?, ← predicate.required text?,
      ← object.required Node.ofData?⟩
  | _ => none

end Triple

namespace Document

def toData (document : Document) : Value :=
  .record [("key", .text document.key), ("triples", .list (document.triples.map Triple.toData))]

def ofData? (value : Value) : Option Document := do
  match ← slots? Json.dialect ["key", "triples"] value with
  | [key, triples] =>
    return .ofTriples (← key.required text?) (← triples.required (list? Triple.ofData?))
  | _ => none

end Document

namespace ArtifactRecord

def toData (record : ArtifactRecord) : Value :=
  .record
    [("name", .text record.name), ("binding", .text record.binding),
      ("document", .text record.document), ("sha256", .text record.sha256)]

def ofData? (value : Value) : Option ArtifactRecord := do
  match ← slots? Json.dialect ["name", "binding", "document", "sha256"] value with
  | [name, binding, document, sha256] =>
    return ⟨← name.required text?, ← binding.required text?, ← document.required text?,
      ← sha256.required text?⟩
  | _ => none

end ArtifactRecord

namespace Report

def versionData (version : ReportVersion) : Value :=
  .record [("major", .natural version.major), ("minor", .natural version.minor)]

def version? (value : Value) : Option ReportVersion := do
  match ← slots? Json.dialect ["major", "minor"] value with
  | [major, minor] =>
    let component? := natural? (Nat.pow 2 32)
    return ⟨← major.required component?, ← minor.required component?⟩
  | _ => none

def summaryData (summary : ReportSummary) : Value :=
  .record
    [("total", .natural summary.total), ("errors", .natural summary.errors),
      ("warnings", .natural summary.warnings), ("info", .natural summary.info),
      ("artifacts", .natural summary.artifacts)]

def summary? (value : Value) : Option ReportSummary := do
  match ← slots? Json.dialect ["total", "errors", "warnings", "info", "artifacts"] value with
  | [total, errors, warnings, info, artifacts] =>
    return ⟨← total.required count?, ← errors.required count?, ← warnings.required count?,
      ← info.required count?, ← artifacts.required count?⟩
  | _ => none

def toData (report : Report) : Value :=
  .record
    [("version", versionData report.version), ("timestamp", .text report.timestamp),
      ("summary", summaryData report.summary),
      ("diagnostics", .list (report.diagnostics.map Diagnostic.toData)),
      ("artifacts", .list (report.artifacts.map ArtifactRecord.toData))]

def ofData? (value : Value) : Option Report := do
  let names := ["version", "timestamp", "summary", "diagnostics", "artifacts"]
  match ← slots? Json.dialect names value with
  | [version, timestamp, summary, diagnostics, artifacts] =>
    return {
      version := ← version.required version?
      timestamp := ← timestamp.required text?
      summary := ← summary.required summary?
      diagnostics := ← diagnostics.required (list? Diagnostic.ofData?)
      artifacts := ← artifacts.required (list? ArtifactRecord.ofData?) }
  | _ => none

/-- The text of a report. -/
def toJson (report : Report) : String := Json.pretty report.toData

def ofJson? (text : String) : Option Report := do ofData? (← Json.read? text)

end Report

namespace Config

variable (dialect : Dialect)

def path? (value : Value) : Option Path := (text? value).map Path.mk

def bindingSettings? (value : Value) : Option BindingSettings := do
  let fallback : BindingSettings := {}
  match ← slots? dialect ["annotation", "source_root"] value with
  | [annotationName, sourceRoot] =>
    return ⟨← annotationName.orElse fallback.annotationName text?,
      ← sourceRoot.orElse fallback.sourceRoot path?⟩
  | _ => none

def schemaSettings? (value : Value) : Option SchemaSettings := do
  let fallback : SchemaSettings := {}
  match ← slots? dialect ["extension", "directories"] value with
  | [extension, directories] =>
    return ⟨← extension.orElse fallback.extension text?,
      ← directories.orElse fallback.directories (list? path?)⟩
  | _ => none

def outputSettings? (value : Value) : Option OutputSettings := do
  let fallback : OutputSettings := {}
  match ← slots? dialect ["artifact_suffix", "directory"] value with
  | [artifactSuffix, directory] =>
    return ⟨← artifactSuffix.orElse fallback.artifactSuffix text?,
      ← directory.orElse fallback.directory path?⟩
  | _ => none

def overrides? (value : Value) : Option SeverityOverrides := do
  match ← slots? dialect ["overrides"] value with
  | [overrides] =>
    let entries ← overrides.orElse [] (entries? (Severity.ofData? dialect))
    return .ofList entries
  | _ => none

/-- Sections and settings that are left out have their defaults; the root of the project is not one
of them and is left empty. -/
def ofData? (value : Value) : Option Config := do
  match ← slots? dialect ["binding", "schema", "output", "severity"] value with
  | [binding, schema, output, severity] =>
    return {
      binding := ← binding.orElse {} (bindingSettings? dialect)
      schema := ← schema.orElse {} (schemaSettings? dialect)
      output := ← output.orElse {} (outputSettings? dialect)
      severity := ← severity.orElse {} (overrides? dialect) }
  | _ => none

def toData (config : Config) : Value :=
  .record
    [("binding", .record
        [("annotation", .text config.binding.annotationName),
          ("source_root", .text config.binding.sourceRoot.text)]),
      ("schema", .record
        [("extension", .text config.schema.extension),
          ("directories", Value.ofTexts (config.schema.directories.map Path.text))]),
      ("output", .record
        [("artifact_suffix", .text config.output.artifactSuffix),
          ("directory", .text config.output.directory.text)]),
      ("severity", .record
        [("overrides", .record <| config.severity.entries.map fun entry =>
            (entry.1, .text entry.2.name))])]

def ofToml? (text : String) : Option Config := do ofData? Toml.dialect (← Toml.read? text)

end Config
end TermBind

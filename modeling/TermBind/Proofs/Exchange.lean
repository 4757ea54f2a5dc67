import TermBind.Exchange
import TermBind.Proofs.Data.Record
import TermBind.Proofs.Graph
import TermBind.Proofs.Json.Reader

/-! Records are read back from the JSON they are written as. -/
namespace TermBind

open Data

namespace Json

variable {α : Type}

/-- A record is what is read from either text that a value is written as. -/
def ReadsAs (ofData? : Value → Option α) (value : Value) (record : α) : Prop :=
  (read? (compact value)).bind ofData? = some record ∧
    (read? (pretty value)).bind ofData? = some record

theorem readsAs_of_isKept {ofData? : Value → Option α} {value : Value} {record : α}
    (kept : IsKept value) (read : ofData? value = some record) : ReadsAs ofData? value record := by
  constructor
  · rw [compact, read?_write Layout.isSpaced_compact kept]
    exact read
  · rw [pretty, read?_write Layout.isSpaced_pretty kept]
    exact read

end Json

open Json

theorem Severity.ofData?_name (dialect : Dialect) (severity : Severity) :
    ofData? dialect (.text severity.name) = some severity := ofName?_name severity

namespace Location

/-- Lines and columns fit into 64 bits. -/
structure Fits (location : Location) : Prop where
  line : ∀ line ∈ location.line, line < Nat.pow 2 64
  column : ∀ column ∈ location.column, column < Nat.pow 2 64

@[simp] theorem isKept_toData (location : Location) : IsKept location.toData := by
  simp [toData, IsKept.ofOption]

theorem ofData?_toData {location : Location} (fits : location.Fits) :
    ofData? location.toData = some location := by
  have slots : slots? Json.dialect ["file", "line", "column"] location.toData = _ :=
    slots?_record _ (by simp)
  have line : (Slot.given (Value.ofOption .natural location.line)).optional count? =
      some location.line :=
    optional_ofOption (fun _ => nofun) fun line known => natural?_natural (fits.line line known)
  have column : (Slot.given (Value.ofOption .natural location.column)).optional count? =
      some location.column :=
    optional_ofOption (fun _ => nofun) fun column known => natural?_natural (fits.column column known)
  rw [ofData?, slots]
  simp only [List.map_cons, List.map_nil, Option.bind_eq_bind, Option.bind_some, line, column]
  rfl

/-- Where something stands, if that is known. -/
theorem optional_toData {location : Option Location} (fits : ∀ place ∈ location, place.Fits) :
    (Slot.given (Value.ofOption toData location)).optional ofData? = some location :=
  optional_ofOption (fun _ => nofun) fun place known => ofData?_toData (fits place known)

end Location

namespace Diagnostic

/-- The place of a diagnostic, if it has one, fits. -/
def Fits (diagnostic : Diagnostic) : Prop := ∀ place ∈ diagnostic.location, place.Fits

@[simp] theorem isKept_toData (diagnostic : Diagnostic) : IsKept diagnostic.toData := by
  simp [toData, IsKept.ofOption]

theorem code?_name (code : Code) : code? (.text code.name) = some code := by
  cases code <;> decide

theorem ofData?_toData {diagnostic : Diagnostic} (fits : diagnostic.Fits) :
    ofData? diagnostic.toData = some diagnostic := by
  have slots : slots? Json.dialect ["code", "severity", "message", "args", "location"]
      diagnostic.toData = _ := slots?_record _ (by simp)
  have code := code?_name diagnostic.code
  have severity := Severity.ofData?_name Json.dialect diagnostic.severity
  have arguments := list?_ofTexts diagnostic.arguments
  have location := Location.optional_toData fits
  rw [ofData?, slots]
  simp only [List.map_cons, List.map_nil, Option.bind_eq_bind, Option.bind_some, Slot.required, code,
    severity, arguments, location]
  rfl

end Diagnostic

namespace Binding

@[simp] theorem isKept_toData (binding : Binding) : IsKept binding.toData := by simp [toData]

theorem ofData?_toData (binding : Binding) : ofData? binding.toData = some binding := by
  have slots : slots? Json.dialect
      ["document_key", "namespace", "type_name", "preferred_prefix", "prefix_uri"] binding.toData =
      _ := slots?_record _ (by simp)
  simp only [ofData?, slots]
  rfl

end Binding

namespace ScannedBinding

/-- The place of a declaration, if it is known, fits. -/
def Fits (scanned : ScannedBinding) : Prop := ∀ place ∈ scanned.location, place.Fits

theorem isKept_toData (scanned : ScannedBinding) : IsKept scanned.toData := by
  simp [toData, IsKept.ofOption]

theorem ofData?_toData {scanned : ScannedBinding} (fits : scanned.Fits) :
    ofData? scanned.toData = some scanned := by
  have slots : slots? Json.dialect ["binding", "location"] scanned.toData = _ :=
    slots?_record _ (by simp)
  have binding := Binding.ofData?_toData scanned.binding
  have location := Location.optional_toData fits
  rw [ofData?, slots]
  simp only [List.map_cons, List.map_nil, Option.bind_eq_bind, Option.bind_some, Slot.required,
    binding, location]
  rfl

end ScannedBinding

namespace Node

@[simp] theorem isKept_toData (node : Node) : IsKept node.toData := by
  cases node with
  | iri | blank => simp [toData, tagged]
  | literal => simp [toData, tagged, IsKept.ofOption]

theorem literalOf?_record (value datatype : String) (language : Option String) :
    literalOf? (.record
      [("value", .text value), ("datatype", .text datatype),
        ("language", Value.ofOption .text language)]) = some (.literal value datatype language) := by
  have slots : slots? Json.dialect ["value", "datatype", "language"] (.record
      [("value", .text value), ("datatype", .text datatype),
        ("language", Value.ofOption .text language)]) = _ := slots?_record _ (by simp)
  have known : (Slot.given (Value.ofOption .text language)).optional text? = some language :=
    optional_ofOption (fun _ => nofun) fun _ _ => rfl
  rw [literalOf?, slots]
  simp only [List.map_cons, List.map_nil, Option.bind_eq_bind, Option.bind_some, known]
  rfl

theorem ofData?_toData (node : Node) : ofData? node.toData = some node := by
  have slots (kind : String) (value : Value) :
      slots? Json.dialect ["kind", "value"] (tagged kind value) = _ := slots?_record _ (by simp)
  cases node with
  | iri text =>
    rw [ofData?, toData, slots]
    rfl
  | blank label =>
    rw [ofData?, toData, slots]
    rfl
  | literal value datatype language =>
    rw [ofData?, toData, slots]
    exact literalOf?_record value datatype language

end Node

namespace Triple

@[simp] theorem isKept_toData (triple : Triple) : IsKept triple.toData := by simp [toData]

theorem ofData?_toData (triple : Triple) : ofData? triple.toData = some triple := by
  have slots : slots? Json.dialect ["subject", "predicate", "object"] triple.toData = _ :=
    slots?_record _ (by simp)
  have subject := Node.ofData?_toData triple.subject
  have object := Node.ofData?_toData triple.object
  rw [ofData?, slots]
  simp only [List.map_cons, List.map_nil, Option.bind_eq_bind, Option.bind_some, Slot.required,
    subject, object]
  rfl

end Triple

namespace Document

theorem isKept_toData (document : Document) : IsKept document.toData := by
  simp [toData, IsKept.map]

theorem ofData?_toData {document : Document} (sorted : document.IsAscending) :
    ofData? document.toData = some document := by
  have slots : slots? Json.dialect ["key", "triples"] document.toData = _ :=
    slots?_record _ (by simp)
  have triples : list? Triple.ofData? (.list (document.triples.map Triple.toData)) =
      some document.triples := list?_map fun triple _ => triple.ofData?_toData
  rw [ofData?, slots]
  simp only [List.map_cons, List.map_nil, Option.bind_eq_bind, Option.bind_some, Slot.required, triples]
  exact congrArg some (ofTriples_self sorted)

end Document

namespace ArtifactRecord

@[simp] theorem isKept_toData (record : ArtifactRecord) : IsKept record.toData := by simp [toData]

theorem ofData?_toData (record : ArtifactRecord) : ofData? record.toData = some record := by
  have slots : slots? Json.dialect ["name", "binding", "document", "sha256"] record.toData = _ :=
    slots?_record _ (by simp)
  rw [ofData?, slots]
  rfl

end ArtifactRecord

namespace Report

/-- The numbers of a version fit into 32 bits. -/
structure VersionFits (version : ReportVersion) : Prop where
  major : version.major < Nat.pow 2 32
  minor : version.minor < Nat.pow 2 32

/-- The counts of a summary fit into 64 bits. -/
structure SummaryFits (summary : ReportSummary) : Prop where
  total : summary.total < Nat.pow 2 64
  errors : summary.errors < Nat.pow 2 64
  warnings : summary.warnings < Nat.pow 2 64
  info : summary.info < Nat.pow 2 64
  artifacts : summary.artifacts < Nat.pow 2 64

/-- Every number of a report fits where it is read. -/
structure Fits (report : Report) : Prop where
  version : VersionFits report.version
  summary : SummaryFits report.summary
  diagnostics : ∀ diagnostic ∈ report.diagnostics, diagnostic.Fits

theorem version?_versionData {version : ReportVersion} (fits : VersionFits version) :
    version? (versionData version) = some version := by
  have slots : slots? Json.dialect ["major", "minor"] (versionData version) = _ :=
    slots?_record _ (by simp)
  have major : natural? (Nat.pow 2 32) (.natural version.major) = some version.major :=
    natural?_natural fits.major
  have minor : natural? (Nat.pow 2 32) (.natural version.minor) = some version.minor :=
    natural?_natural fits.minor
  rw [version?, slots]
  simp only [List.map_cons, List.map_nil, Option.bind_eq_bind, Option.bind_some, Slot.required, major,
    minor]
  rfl

theorem summary?_summaryData {summary : ReportSummary} (fits : SummaryFits summary) :
    summary? (summaryData summary) = some summary := by
  have slots : slots? Json.dialect ["total", "errors", "warnings", "info", "artifacts"]
      (summaryData summary) = _ := slots?_record _ (by simp)
  have count {value : Nat} (below : value < Nat.pow 2 64) : count? (.natural value) = some value :=
    natural?_natural below
  rw [summary?, slots]
  simp only [List.map_cons, List.map_nil, Option.bind_eq_bind, Option.bind_some, Slot.required,
    count fits.total, count fits.errors, count fits.warnings, count fits.info, count fits.artifacts]
  rfl

theorem isKept_toData (report : Report) : IsKept report.toData := by
  simp [toData, versionData, summaryData, IsKept.map]

theorem ofData?_toData {report : Report} (fits : report.Fits) :
    ofData? report.toData = some report := by
  have slots : slots? Json.dialect ["version", "timestamp", "summary", "diagnostics", "artifacts"]
      report.toData = _ := slots?_record _ (by simp)
  have version := version?_versionData fits.version
  have summary := summary?_summaryData fits.summary
  have diagnostics : list? Diagnostic.ofData? (.list (report.diagnostics.map Diagnostic.toData)) =
      some report.diagnostics :=
    list?_map fun diagnostic member => Diagnostic.ofData?_toData (fits.diagnostics diagnostic member)
  have artifacts : list? ArtifactRecord.ofData? (.list (report.artifacts.map ArtifactRecord.toData)) =
      some report.artifacts := list?_map fun record _ => record.ofData?_toData
  simp only [ofData?, slots, List.map_cons, List.map_nil, Option.bind_eq_bind, Option.bind_some,
    Slot.required, version, summary, diagnostics, artifacts]
  rfl

end Report

namespace SeverityOverrides

/-- Severities stand under ascending names, each name once. -/
def IsAscending (overrides : SeverityOverrides) : Prop :=
  (overrides.entries.map Prod.fst).Pairwise fun left right => compare left right = .lt

theorem isAscending_ofList (entries : List (String × Severity)) : (ofList entries).IsAscending :=
  Collection.pairwise_lastByKey entries

theorem ofList_self {overrides : SeverityOverrides} (sorted : overrides.IsAscending) :
    ofList overrides.entries = overrides := by
  rw [ofList, Collection.lastByKey_eq_self sorted]

end SeverityOverrides

namespace Config

theorem isKept_toData (config : Config) : IsKept config.toData := by
  simp [toData, -List.mem_map, -Prod.forall, List.forall_mem_map]

variable (dialect : Dialect)

theorem bindingSettings?_record (settings : BindingSettings) :
    bindingSettings? dialect (.record
      [("annotation", .text settings.annotationName),
        ("source_root", .text settings.sourceRoot.text)]) = some settings := by
  have slots : slots? dialect ["annotation", "source_root"] (.record
      [("annotation", .text settings.annotationName),
        ("source_root", .text settings.sourceRoot.text)]) = _ := slots?_record _ (by simp)
  simp only [bindingSettings?, slots]
  rfl

theorem schemaSettings?_record (settings : SchemaSettings) :
    schemaSettings? dialect (.record
      [("extension", .text settings.extension),
        ("directories", Value.ofTexts (settings.directories.map Path.text))]) = some settings := by
  have slots : slots? dialect ["extension", "directories"] (.record
      [("extension", .text settings.extension),
        ("directories", Value.ofTexts (settings.directories.map Path.text))]) = _ :=
    slots?_record _ (by simp)
  have directories : list? path? (Value.ofTexts (settings.directories.map Path.text)) =
      some settings.directories := by
    rw [Value.ofTexts, List.map_map]
    exact list?_map fun _ _ => rfl
  simp only [schemaSettings?, slots, List.map_cons, List.map_nil, Option.bind_eq_bind, Option.bind_some,
    Slot.orElse, directories]
  rfl

theorem outputSettings?_record (settings : OutputSettings) :
    outputSettings? dialect (.record
      [("artifact_suffix", .text settings.artifactSuffix),
        ("directory", .text settings.directory.text)]) = some settings := by
  have slots : slots? dialect ["artifact_suffix", "directory"] (.record
      [("artifact_suffix", .text settings.artifactSuffix),
        ("directory", .text settings.directory.text)]) = _ := slots?_record _ (by simp)
  simp only [outputSettings?, slots]
  rfl

theorem overrides?_record {overrides : SeverityOverrides} (sorted : overrides.IsAscending) :
    overrides? dialect (.record
      [("overrides", .record (overrides.entries.map fun entry => (entry.1, .text entry.2.name)))]) =
      some overrides := by
  have slots : slots? dialect ["overrides"] (.record
      [("overrides", .record (overrides.entries.map fun entry => (entry.1, .text entry.2.name)))]) =
      _ := slots?_record _ (by simp)
  have entries : entries? (Severity.ofData? dialect) (.record (overrides.entries.map fun entry =>
      (entry.1, .text entry.2.name))) = some overrides.entries :=
    entries?_map (fun severity => .text severity.name) fun entry _ =>
      Severity.ofData?_name dialect entry.2
  simp only [overrides?, slots, List.map_cons, List.map_nil, Option.bind_eq_bind, Option.bind_some,
    Slot.orElse, entries]
  exact congrArg some (SeverityOverrides.ofList_self sorted)

/-- The root of the project is not written. -/
theorem ofData?_toData {config : Config} (sorted : config.severity.IsAscending) :
    ofData? dialect config.toData = some { config with projectRoot := ⟨""⟩ } := by
  have slots : slots? dialect ["binding", "schema", "output", "severity"] config.toData = _ :=
    slots?_record _ (by simp)
  have binding := bindingSettings?_record dialect config.binding
  have schema := schemaSettings?_record dialect config.schema
  have output := outputSettings?_record dialect config.output
  have severity := overrides?_record dialect sorted
  rw [ofData?, slots]
  simp only [List.map_cons, List.map_nil, Option.bind_eq_bind, Option.bind_some, Slot.orElse, binding,
    schema, output, severity]
  rfl

end Config
/-- Each kind of record is read back from either text that it is written as. The root of a project is
no part of its settings and is left empty. -/
theorem records_are_read_back :
    (∀ location : Location, location.Fits → ReadsAs Location.ofData? location.toData location) ∧
    (∀ diagnostic : Diagnostic, diagnostic.Fits →
      ReadsAs Diagnostic.ofData? diagnostic.toData diagnostic) ∧
    (∀ binding : Binding, ReadsAs Binding.ofData? binding.toData binding) ∧
    (∀ scanned : ScannedBinding, scanned.Fits →
      ReadsAs ScannedBinding.ofData? scanned.toData scanned) ∧
    (∀ node : Node, ReadsAs Node.ofData? node.toData node) ∧
    (∀ document : Document, document.IsAscending →
      ReadsAs Document.ofData? document.toData document) ∧
    (∀ report : Report, report.Fits →
      ReadsAs Report.ofData? report.toData report ∧ Report.ofJson? report.toJson = some report) ∧
    ∀ config : Config, config.severity.IsAscending →
      ReadsAs (Config.ofData? Json.dialect) config.toData { config with projectRoot := ⟨""⟩ } := by
  refine ⟨fun location fits => ?_, fun diagnostic fits => ?_, fun binding => ?_,
    fun scanned fits => ?_, fun node => ?_, fun document sorted => ?_, fun report fits => ?_,
    fun config sorted => ?_⟩
  · exact readsAs_of_isKept location.isKept_toData (Location.ofData?_toData fits)
  · exact readsAs_of_isKept diagnostic.isKept_toData (Diagnostic.ofData?_toData fits)
  · exact readsAs_of_isKept binding.isKept_toData binding.ofData?_toData
  · exact readsAs_of_isKept scanned.isKept_toData (ScannedBinding.ofData?_toData fits)
  · exact readsAs_of_isKept node.isKept_toData node.ofData?_toData
  · exact readsAs_of_isKept document.isKept_toData (Document.ofData?_toData sorted)
  · have reads := readsAs_of_isKept report.isKept_toData (Report.ofData?_toData fits)
    exact ⟨reads, reads.2⟩
  · exact readsAs_of_isKept config.isKept_toData (Config.ofData?_toData Json.dialect sorted)

theorem records_are_read_back_person :
    let place : Location := .ofPosition "src/\"person\".rs" 3 18446744073709551615
    let binding : Binding := ⟨"person.ttl", "crate::model", "Person", "ex", "http://example.org/"⟩
    let problem : Diagnostic := .withLocation place (.of .schemaParseError ["person.ttl", "line\n3\t\\"])
    let artifact : ArtifactRecord := ⟨"Person.g.rs", "crate::model::Person", "person.ttl", "00"⟩
    let report : Report := .ofParts "2024-01-01T00:00:00+00:00" [problem] [artifact]
    let document : Document := .ofTriples "person.ttl"
      [⟨.blank "b0", "http://example.org/name", .literal "Zoë" "" (some "en")⟩,
        ⟨.iri "http://example.org/Person", "http://example.org/name", .iri "http://example.org/x"⟩]
    let config : Config :=
      { severity := .ofList [("template-error", .warn), ("any \"key\"", .info)], projectRoot := ⟨"/work"⟩ }
    (place.Fits ∧ ReadsAs Location.ofData? place.toData place) ∧
      (problem.Fits ∧ ReadsAs Diagnostic.ofData? problem.toData problem) ∧
      (ScannedBinding.Fits ⟨binding, some place⟩ ∧
        ReadsAs ScannedBinding.ofData? (ScannedBinding.toData ⟨binding, some place⟩)
          ⟨binding, some place⟩) ∧
      (document.IsAscending ∧ ReadsAs Document.ofData? document.toData document) ∧
      (report.Fits ∧ Report.ofJson? report.toJson = some report) ∧
      config.severity.IsAscending ∧
        ReadsAs (Config.ofData? Json.dialect) config.toData { config with projectRoot := ⟨""⟩ } := by
  intro place binding problem artifact report document config
  obtain ⟨location, diagnostic, _, scanned, _, schema, whole, settings⟩ := records_are_read_back
  have placed : place.Fits := ⟨by rintro _ ⟨⟩; decide, by rintro _ ⟨⟩; decide⟩
  have fits : problem.Fits := by rintro _ ⟨⟩; exact placed
  have known : ScannedBinding.Fits ⟨binding, some place⟩ := by rintro _ ⟨⟩; exact placed
  have sorted : document.IsAscending := Document.isAscending_ofTriples ..
  have complete : report.Fits := by
    refine ⟨⟨by decide, by decide⟩, ⟨by decide, by decide, by decide, by decide, by decide⟩, ?_⟩
    intro own member
    rw [List.mem_singleton.mp member]
    exact fits
  have named : config.severity.IsAscending := SeverityOverrides.isAscending_ofList _
  exact ⟨⟨placed, location _ placed⟩, ⟨fits, diagnostic _ fits⟩, ⟨known, scanned _ known⟩,
    ⟨sorted, schema _ sorted⟩, ⟨complete, (whole _ complete).2⟩, named, settings _ named⟩

end TermBind

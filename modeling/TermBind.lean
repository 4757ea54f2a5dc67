import TermBind.Main
import TermBind.Proofs.Incremental.Consistency
import TermBind.Proofs.Incremental.Evaluation
import TermBind.Proofs.Incremental.Progress
import TermBind.Proofs.Collection.Ascending
import TermBind.Proofs.Workspace.Evaluation
import TermBind.Proofs.Workspace.Contents
import TermBind.Proofs.Path.Spelling
import TermBind.Proofs.Workspace.IndexEquality
import TermBind.Proofs.Workspace.Likeness
import TermBind.Proofs.Workspace.Opening
import TermBind.Proofs.Workspace.Soundness
import TermBind.Proofs.Output
import TermBind.Proofs.Workspace.History
import TermBind.Proofs.Workspace.Accounting
import TermBind.Proofs.Path.Order
import TermBind.Proofs.Diagnostic.Order
import TermBind.Proofs.Scan.Place
import TermBind.Proofs.Workspace.Faults
import TermBind.Proofs.Workspace.FileOrder
import TermBind.Proofs.Incremental.Edit
import TermBind.Proofs.Workspace.Demand
import TermBind.Proofs.Workspace.Reevaluation
import TermBind.Proofs.Workspace.SchemaTextEdit
import TermBind.Proofs.Workspace.SourceTextEdit
import TermBind.Proofs.Incremental.Economy
import TermBind.Proofs.Workspace.LoadCount
import TermBind.Proofs.Workspace.Isolation
import TermBind.Proofs.Workspace.Severity
import TermBind.Proofs.Path.Components
import TermBind.Proofs.File.Tree
import TermBind.Proofs.File.Location
import TermBind.Proofs.Discovery.Walk
import TermBind.Proofs.Discovery.Files
import TermBind.Proofs.File.Run
import TermBind.Proofs.Source.Module
import TermBind.Proofs.Discovery.SourceRoot
import TermBind.Proofs.File.Making
import TermBind.Proofs.File.Writing
import TermBind.Proofs.Storage
import TermBind.Proofs.Command.Generation
import TermBind.Proofs.Workspace.ArtifactNames
import TermBind.Proofs.Discovery.Frame
import TermBind.Proofs.Discovery.Ordinary
import TermBind.Proofs.Command.Repetition
import TermBind.Proofs.Discovery.Inputs
import TermBind.Proofs.Command.Generated
import TermBind.Proofs.Discovery.Multiplicity
import TermBind.Proofs.Command.Agreement
import TermBind.Proofs.Artifact.Terms
import TermBind.Proofs.Constant
import TermBind.Proofs.Text.Quoted
import TermBind.Proofs.Artifact.Lines
import TermBind.Proofs.Artifact.Layout
import TermBind.Proofs.Json.Scalar
import TermBind.Proofs.Json.Tokens
import TermBind.Proofs.Data.Record
import TermBind.Proofs.Graph
import TermBind.Proofs.Json.Reader
import TermBind.Proofs.Exchange
import TermBind.Proofs.Artifact.Reading
import TermBind.Proofs.Text.Unicode
import TermBind.Proofs.Constant.Identifier
import TermBind.Proofs.Artifact.Contention
import TermBind.Proofs.Artifact.Header
import TermBind.Proofs.Binding
import TermBind.Proofs.Constant.Ascii
import TermBind.Proofs.Source.Quotation
import TermBind.Proofs.Workspace.Joining
import TermBind.Proofs.Scan.Checks
import TermBind.Proofs.Scan.Interruption
import TermBind.Proofs.Source.Imports
import TermBind.Proofs.Source.AttributeName
import TermBind.Proofs.Source.Placed
import TermBind.Proofs.Scan.Contribution
import TermBind.Proofs.Schema.BlankLabel
import TermBind.Proofs.Source.Identifier
import TermBind.Proofs.Source.ModulePath
import TermBind.Proofs.Source.Address
import TermBind.Proofs.Workspace.SourceSpelling
import TermBind.Proofs.Text.Template
import TermBind.Proofs.Artifact.Blanks
import TermBind.Proofs.Sink.Emission
import TermBind.Proofs.Sink.Account
import TermBind.Proofs.Text.Bytes
import TermBind.Proofs.Graph.Canonical
import TermBind.Proofs.Outcome

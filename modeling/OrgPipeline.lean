import OrgPipeline.ChangeSet.Create
import OrgPipeline.Engine
import OrgPipeline.Main
import OrgPipeline.Transfer.Basic
import OrgPipeline.Proofs.ChangeSet.Counts
import OrgPipeline.Proofs.Sequence
import OrgPipeline.Proofs.World.Files
import OrgPipeline.Proofs.World.Path
import OrgPipeline.Proofs.World.Operations
import OrgPipeline.Proofs.ChangeSet.Survival
import OrgPipeline.Proofs.Xml.Escape
import OrgPipeline.Proofs.Xml.Pieces
import OrgPipeline.Proofs.Manifest.RoundTrip
import OrgPipeline.Proofs.Manifest.Acceptance
import OrgPipeline.Proofs.Step.Bindings
import OrgPipeline.Proofs.Step.Errors
import OrgPipeline.Proofs.Step.Likeness
import OrgPipeline.Proofs.Pipeline.Load
import OrgPipeline.Proofs.Pipeline.Outcome
import OrgPipeline.Proofs.Pipeline.Prefix
import OrgPipeline.Proofs.Pipeline.Agreement
import OrgPipeline.Proofs.Engine.History
import OrgPipeline.Proofs.Engine.Causality
import OrgPipeline.Proofs.Engine.Independence
import OrgPipeline.Proofs.Json.Members
import OrgPipeline.Proofs.Platform.Deployment
import OrgPipeline.Proofs.Reference
import OrgPipeline.Proofs.Platform.Sfdx
import OrgPipeline.Proofs.Record
import OrgPipeline.Proofs.Engine.Failure
import OrgPipeline.Proofs.Engine.Report
import OrgPipeline.Proofs.Engine.Transparency
import OrgPipeline.Proofs.Pipeline.Referable
import OrgPipeline.Proofs.Json.Literal
import OrgPipeline.Proofs.ChangeSet.Stages
import OrgPipeline.Proofs.ChangeSet.Leftovers
import OrgPipeline.Proofs.Pipeline.PassedOver
import OrgPipeline.Proofs.Pipeline.Setup
import OrgPipeline.Proofs.CommandLine.Inputs
import OrgPipeline.Proofs.Step.Readings
import OrgPipeline.Proofs.Platform.Secrecy
import OrgPipeline.Proofs.Engine.Secrecy
import OrgPipeline.Proofs.Transfer.Course
import OrgPipeline.Proofs.Transfer.Cleanup
import OrgPipeline.Proofs.Xml.Document
import OrgPipeline.Proofs.Manifest.Document
import OrgPipeline.Proofs.ChangeSet.Order
import OrgPipeline.Proofs.Schema
import OrgPipeline.Proofs.Platform.Envelope
import OrgPipeline.Proofs.CommandLine.Errors
import OrgPipeline.Proofs.CommandLine.Exit
import OrgPipeline.Proofs.ChangeSet.Destructive
import OrgPipeline.Proofs.Decimal.Finite
import OrgPipeline.Proofs.ReadBack
import OrgPipeline.Proofs.Step.Kinds
import OrgPipeline.Proofs.Pipeline.Checking
import OrgPipeline.Proofs.Manifest.Insertion
import OrgPipeline.Proofs.Pipeline.Index
import OrgPipeline.Proofs.Text.Lowercase
import OrgPipeline.Proofs.Decimal.Plain
import OrgPipeline.Proofs.Store.Accessors
import OrgPipeline.Proofs.Step.Calls
import OrgPipeline.Proofs.Pipeline.Fallbacks
import OrgPipeline.Proofs.Store.Growth
import OrgPipeline.Proofs.Pipeline.Declared
import OrgPipeline.Proofs.ChangeSet.Sources
import OrgPipeline.Proofs.Decimal.Digits
import OrgPipeline.Proofs.Json.Place
import OrgPipeline.Proofs.Store.Paths
import OrgPipeline.Proofs.Decimal.Whole
import OrgPipeline.Proofs.Platform.Bulk
import OrgPipeline.Proofs.Store.Defaults
import OrgPipeline.Proofs.Text.Boundary
import OrgPipeline.Proofs.Reference.Spacing
import OrgPipeline.Proofs.Json.Quoted
import OrgPipeline.Proofs.Json.Numeral
import OrgPipeline.Proofs.Json.Grammar
import OrgPipeline.Proofs.CommandLine.Merging

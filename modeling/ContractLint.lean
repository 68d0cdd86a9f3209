import ContractLint.Analysis.Analyzer
import ContractLint.Analysis.CommandLine
import ContractLint.Analysis.Disk
import ContractLint.Analysis.Embedded
import ContractLint.Analysis.Failure
import ContractLint.Analysis.Job
import ContractLint.Analysis.Native
import ContractLint.Analysis.Worker
import ContractLint.Decimal.Notation
import ContractLint.Decimal.Shortest
import ContractLint.Diagnostic
import ContractLint.Documents
import ContractLint.Finding.Basic
import ContractLint.Finding.Report
import ContractLint.Json.Basic
import ContractLint.Json.Fault
import ContractLint.Json.Number
import ContractLint.Json.Printer
import ContractLint.Json.Reader
import ContractLint.Json.Record
import ContractLint.Json.Shape
import ContractLint.Location.Domain.Label
import ContractLint.Location.Domain.Mapping
import ContractLint.Location.Domain.Name
import ContractLint.Location.Domain.Punycode
import ContractLint.Location.Host
import ContractLint.Location.Path
import ContractLint.Location.Percent
import ContractLint.Location.Url
import ContractLint.Main
import ContractLint.Program
import ContractLint.Registry.Basic
import ContractLint.Registry.Builtin
import ContractLint.Registry.Index
import ContractLint.Registry.Reader
import ContractLint.Server.Basic
import ContractLint.Server.Message
import ContractLint.Server.Params
import ContractLint.Server.Run
import ContractLint.Server.Wire
import ContractLint.Session.Basic
import ContractLint.Session.Capabilities
import ContractLint.Session.Demand
import ContractLint.Session.Handshake
import ContractLint.Session.Incoming
import ContractLint.Settings
import ContractLint.Text.Blank
import ContractLint.Text.Combining
import ContractLint.Text.Composite
import ContractLint.Text.Direction
import ContractLint.Text.Joining
import ContractLint.Text.Normal
import ContractLint.Text.Printable
import ContractLint.Text.Quoted
import ContractLint.Text.Split
import ContractLint.Text.Table
import ContractLint.Text.Utf8
import ContractLint.Workspace
import ContractLint.Proofs.Server.History
import ContractLint.Proofs.Server.Answers
import ContractLint.Proofs.Server.Publication
import ContractLint.Proofs.Server.Snapshot
import ContractLint.Proofs.Server.System
import ContractLint.Proofs.Analysis.Outcomes
import ContractLint.Proofs.Analysis.Places
import ContractLint.Proofs.Analysis.Cleanup
import ContractLint.Proofs.Json.Containers
import ContractLint.Proofs.Json.Scalars
import ContractLint.Proofs.Json.Skipping
import ContractLint.Proofs.Json.Decoding
import ContractLint.Proofs.Json.Fields
import ContractLint.Proofs.Finding.Format
import ContractLint.Proofs.Analysis.Agreement
import ContractLint.Proofs.Documents.History
import ContractLint.Proofs.Documents.Active
import ContractLint.Proofs.Server.Documents
import ContractLint.Proofs.Settings.Readings
import ContractLint.Proofs.Server.Configuration
import ContractLint.Proofs.Session.Options
import ContractLint.Proofs.Server.Gate
import ContractLint.Proofs.Registry.Tags
import ContractLint.Proofs.Analysis.Checks
import ContractLint.Proofs.Server.Checks
import ContractLint.Proofs.Server.Addressing
import ContractLint.Proofs.Server.Unequipped
import ContractLint.Proofs.Settings.Changes
import ContractLint.Proofs.Diagnostic.Recovery
import ContractLint.Proofs.Server.Saving
import ContractLint.Proofs.Location.Parent
import ContractLint.Proofs.Analysis.Endings
import ContractLint.Proofs.Diagnostic.Coordinates
import ContractLint.Proofs.Registry.Lookup
import ContractLint.Proofs.Settings.Writing
import ContractLint.Proofs.Analysis.Calls
import ContractLint.Proofs.Registry.Listing
import ContractLint.Proofs.Analysis.Arguments
import ContractLint.Proofs.Json.Integers
import ContractLint.Proofs.Finding.Numerals
import ContractLint.Proofs.Server.Spelling
import ContractLint.Proofs.Diagnostic.Statistics

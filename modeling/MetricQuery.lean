import MetricQuery.CommandLine
import MetricQuery.Config.Deployment
import MetricQuery.Config.QueryEntry
import MetricQuery.Config.ServerEntry
import MetricQuery.Config.SinkEntry
import MetricQuery.Decimal.Layout
import MetricQuery.Decimal.Reading
import MetricQuery.Decimal.Shortest
import MetricQuery.Execution
import MetricQuery.File.Fault
import MetricQuery.File.Path
import MetricQuery.File.Tree
import MetricQuery.Json.Decode
import MetricQuery.Json.Document
import MetricQuery.Json.Fault
import MetricQuery.Json.Layout
import MetricQuery.Json.Numeral
import MetricQuery.Json.Problem
import MetricQuery.Json.Record
import MetricQuery.Json.Scan
import MetricQuery.Json.Spelling
import MetricQuery.Json.Value
import MetricQuery.Log
import MetricQuery.Main
import MetricQuery.Name.Distinct
import MetricQuery.Name.Error
import MetricQuery.Name.Glob
import MetricQuery.Name.HashInput
import MetricQuery.Name.Pattern
import MetricQuery.Name.Properties
import MetricQuery.Name.Quoting
import MetricQuery.Name.Resource
import MetricQuery.Naming
import MetricQuery.Placeholder
import MetricQuery.Proofs.CommandLine.Journal
import MetricQuery.Proofs.Config.Deduplication
import MetricQuery.Proofs.Config.Editing
import MetricQuery.Proofs.Config.Port
import MetricQuery.Proofs.Config.RoundTrip
import MetricQuery.Proofs.Config.Validation
import MetricQuery.Proofs.Entries
import MetricQuery.Proofs.Except
import MetricQuery.Proofs.Execution.Accounting
import MetricQuery.Proofs.Execution.Agreement
import MetricQuery.Proofs.Execution.Delivery
import MetricQuery.Proofs.Execution.Fetching
import MetricQuery.Proofs.Execution.Outcome
import MetricQuery.Proofs.Execution.Provenance
import MetricQuery.Proofs.Execution.Sequence
import MetricQuery.Proofs.Json.Edits
import MetricQuery.Proofs.Json.Faultless
import MetricQuery.Proofs.Json.Fields
import MetricQuery.Proofs.Json.Integer
import MetricQuery.Proofs.Json.Thorough
import MetricQuery.Proofs.Name.Canonical
import MetricQuery.Proofs.Name.Concrete
import MetricQuery.Proofs.Name.Covering
import MetricQuery.Proofs.Name.Cutting
import MetricQuery.Proofs.Name.Filling
import MetricQuery.Proofs.Name.GlobClauses
import MetricQuery.Proofs.Name.GlobProgress
import MetricQuery.Proofs.Name.GlobRun
import MetricQuery.Proofs.Name.Grammar
import MetricQuery.Proofs.Name.Hashing
import MetricQuery.Proofs.Name.Identity
import MetricQuery.Proofs.Name.Insertion
import MetricQuery.Proofs.Name.Meaning
import MetricQuery.Proofs.Name.Properties
import MetricQuery.Proofs.Name.Rewriting
import MetricQuery.Proofs.Name.Spelling
import MetricQuery.Proofs.Name.Splitting
import MetricQuery.Proofs.Name.Wild
import MetricQuery.Proofs.Naming.Apart
import MetricQuery.Proofs.Naming.Decoding
import MetricQuery.Proofs.Naming.Key
import MetricQuery.Proofs.Query.Building
import MetricQuery.Proofs.Query.Equality
import MetricQuery.Proofs.Query.Settings
import MetricQuery.Proofs.Server.Call
import MetricQuery.Proofs.Server.Directory
import MetricQuery.Proofs.Server.OrderedMap
import MetricQuery.Proofs.Server.Refinement
import MetricQuery.Proofs.Template
import MetricQuery.Proofs.Value.Denotation
import MetricQuery.Proofs.Value.Integer
import MetricQuery.Proofs.Value.MemberOrder
import MetricQuery.Proofs.Value.Members
import MetricQuery.Proofs.Value.RoundTrip
import MetricQuery.Query
import MetricQuery.Query.Draft
import MetricQuery.Query.Error
import MetricQuery.Report
import MetricQuery.Sample
import MetricQuery.Sampling
import MetricQuery.Server.Endpoint
import MetricQuery.Server.Failure
import MetricQuery.Server.Management
import MetricQuery.Server.Memory
import MetricQuery.Server.Rehearsal
import MetricQuery.Server.Snapshot
import MetricQuery.Session
import MetricQuery.Sink
import MetricQuery.Sink.Delivery
import MetricQuery.Sink.Registry
import MetricQuery.Text.ControlSequence
import MetricQuery.Text.Position
import MetricQuery.Text.Printable
import MetricQuery.Text.Quoted
import MetricQuery.Text.Split
import MetricQuery.Trace
import MetricQuery.Value

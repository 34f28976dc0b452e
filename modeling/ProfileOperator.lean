import ProfileOperator.Api.ClientError
import ProfileOperator.Api.Fault
import ProfileOperator.Api.Request
import ProfileOperator.Api.Server
import ProfileOperator.Api.Target
import ProfileOperator.CommandLine.Arguments
import ProfileOperator.CommandLine.Configuration
import ProfileOperator.CommandLine.Program
import ProfileOperator.Controller.Agenda
import ProfileOperator.Controller.Loop
import ProfileOperator.Decimal.Shortest
import ProfileOperator.Desired
import ProfileOperator.Dict
import ProfileOperator.Failure
import ProfileOperator.Flag.Entry
import ProfileOperator.Flag.Quote
import ProfileOperator.Flag.SelectorTree
import ProfileOperator.Flag.Split
import ProfileOperator.Flag.Strip
import ProfileOperator.Flag.TreeJson
import ProfileOperator.Json.Decode
import ProfileOperator.Json.Printer
import ProfileOperator.Json.Reader
import ProfileOperator.Json.Value
import ProfileOperator.Metrics.Endpoint
import ProfileOperator.Metrics.Exposition
import ProfileOperator.Metrics.Registry
import ProfileOperator.Net.Address
import ProfileOperator.Net.AddressReader
import ProfileOperator.Net.BindAddress
import ProfileOperator.Reconcile.Guard
import ProfileOperator.Reconcile.Pass
import ProfileOperator.Reconcile.Profile
import ProfileOperator.Resource.Definition
import ProfileOperator.Resource.Metadata
import ProfileOperator.Resource.Namespace
import ProfileOperator.Resource.PodDefault
import ProfileOperator.Resource.Profile
import ProfileOperator.Sha256
import ProfileOperator.Template
import ProfileOperator.Text.Blank
import ProfileOperator.Text.CaseTable
import ProfileOperator.Text.Lowercase
import ProfileOperator.Text.Numeral
import ProfileOperator.Text.Printable
import ProfileOperator.Text.Quoted
import ProfileOperator.Text.Range
import ProfileOperator.Text.Terminal
import ProfileOperator.Time.Instant
import ProfileOperator.Time.Reader
import ProfileOperator.Main
import ProfileOperator.Proofs.Checked
import ProfileOperator.Proofs.Flag.Marks
import ProfileOperator.Proofs.Flag.Grouping
import ProfileOperator.Proofs.Flag.Stripping
import ProfileOperator.Proofs.Naming
import ProfileOperator.Proofs.Flag.Spelling
import ProfileOperator.Proofs.Configuration
import ProfileOperator.Proofs.Reconcile.Convergence
import ProfileOperator.Proofs.Reconcile.Interruption
import ProfileOperator.Proofs.Reconcile.Scope
import ProfileOperator.Proofs.Reconcile.Retry
import ProfileOperator.Proofs.Reconcile.Rejection
import ProfileOperator.Proofs.Reconcile.Interleaving
import ProfileOperator.Proofs.Reconcile.Guarding
import ProfileOperator.Proofs.Reconcile.Lifecycle
import ProfileOperator.Proofs.Flag.Sighting
import ProfileOperator.Proofs.Flag.Spans
import ProfileOperator.Proofs.Flag.Restripping
import ProfileOperator.Proofs.Flag.Concatenation
import ProfileOperator.Proofs.Flag.Grammar
import ProfileOperator.Proofs.Templates
import ProfileOperator.Proofs.Flag.Recasing
import ProfileOperator.Proofs.Rearrangement
import ProfileOperator.Proofs.Timestamps
import ProfileOperator.Proofs.Reconcile.Bookkeeping
import ProfileOperator.Proofs.Rereading
import ProfileOperator.Proofs.Reconcile.Accounting
import ProfileOperator.Proofs.Flag.Cuts
import ProfileOperator.Proofs.Flag.Formatting
import ProfileOperator.Proofs.Flag.OnePass
import ProfileOperator.Proofs.Selectors
import ProfileOperator.Proofs.Numerals
import ProfileOperator.Proofs.Flag.Layout
import ProfileOperator.Proofs.Json.Compact
import ProfileOperator.Proofs.Checksum
import ProfileOperator.Proofs.Addresses
import ProfileOperator.Proofs.Quoting
import ProfileOperator.Proofs.Reconcile.World
import ProfileOperator.Proofs.Reconcile.Acts

import Registrar.CommandLine.Run
import Registrar.Http.Service
import Registrar.Main
import Registrar.Proofs.Query.Selection
import Registrar.Settings.Basic
import Registrar.Proofs.Dataset.Identifier
import Registrar.Proofs.Query.Spelling
import Registrar.Proofs.Query.Grouping
import Registrar.Proofs.Query.Row
import Registrar.Proofs.Query.OrderedRow
import Registrar.Proofs.Query.Typing
import Registrar.Proofs.Query.Safety
import Registrar.Proofs.Query.Grammar
import Registrar.Proofs.Json.Number
import Registrar.Proofs.Json.RoundTrip
import Registrar.Proofs.Storage.Action
import Registrar.Proofs.Storage.Catalog
import Registrar.Proofs.Storage.DatasetFile
import Registrar.Proofs.Storage.Refinement
import Registrar.Proofs.Query.Widening
import Registrar.Proofs.Storage.QueryService
import Registrar.Proofs.Query.Sorting
import Registrar.Proofs.Query.Accounting
import Registrar.Proofs.Storage.Faults
import Registrar.Proofs.Storage.Atomicity
import Registrar.Proofs.Number.Order
import Registrar.Proofs.Storage.Reviews
import Registrar.Proofs.Query.Partition
import Registrar.Proofs.Query.Writing
import Registrar.Proofs.Storage.Snapshots
import Registrar.Proofs.Http.Contract
import Registrar.Proofs.Query.Ordering
import Registrar.Proofs.Query.Meaning
import Registrar.Proofs.Query.Arithmetic
import Registrar.Proofs.Query.Locality
import Registrar.Proofs.Dataset.Ingestion
import Registrar.Proofs.Query.Counting
import Registrar.Proofs.Query.Reordering
import Registrar.Proofs.Storage.FileNames
import Registrar.Proofs.Settings.Defaults
import Registrar.Proofs.Text.Csv
import Registrar.Proofs.Query.RenamedRun
import Registrar.Proofs.Query.Extremes
import Registrar.Proofs.Http.Access
import Registrar.Proofs.CommandLine.Paths
import Registrar.Proofs.CommandLine.Table
import Registrar.Proofs.Query.Exports
import Registrar.Proofs.Number.Shortest
import Registrar.Proofs.Number.Stepwise

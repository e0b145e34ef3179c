import SchemaChange.Main
import SchemaChange.Proofs.Classification
import SchemaChange.Proofs.FieldVertices
import SchemaChange.Proofs.TypeEdges
import SchemaChange.Proofs.Progress
import SchemaChange.Proofs.Reordering
import SchemaChange.Proofs.Memberships
import SchemaChange.Proofs.MatchedTypes
import SchemaChange.Proofs.Admission
import SchemaChange.Proofs.Consistency
import SchemaChange.Proofs.Resolution
import SchemaChange.Proofs.Guarded.Halt
import SchemaChange.Proofs.Stores.Table
import SchemaChange.Proofs.Stores.Graph
import SchemaChange.Proofs.Stores.Ledger
import SchemaChange.Proofs.Guarded.Script
import SchemaChange.Proofs.Guarded.Passes
import SchemaChange.Proofs.Guarded.Agreement
import SchemaChange.Proofs.Guarded.Judgements
import SchemaChange.Proofs.Guarded.Views
import SchemaChange.Proofs.WellKinded
import SchemaChange.Proofs.Guarded.Containment
import SchemaChange.Proofs.Affiliations
import SchemaChange.Proofs.Trace
import SchemaChange.Proofs.Accounts
import SchemaChange.Proofs.Rearrangement
import SchemaChange.Proofs.OrderIndependence
import SchemaChange.Proofs.RenamedDocument
import SchemaChange.Proofs.RenamedGraphs
import SchemaChange.Proofs.RenamedRun
import SchemaChange.Proofs.ReplacedTypeEdge
import SchemaChange.Proofs.Loading
import SchemaChange.Proofs.Command.BoxedReport
import SchemaChange.Proofs.Command.Arguments
import SchemaChange.Proofs.Command.Output
import SchemaChange.Proofs.Command.Outcome
import SchemaChange.Proofs.LabelCodec
import SchemaChange.Proofs.InertSkips
import SchemaChange.Proofs.VacuousChanges
import SchemaChange.Proofs.ChangedKinds
import SchemaChange.Proofs.Namesakes
import SchemaChange.Proofs.MatchingHistory
import SchemaChange.Proofs.Document.Validation
import SchemaChange.Proofs.Coverage
import SchemaChange.Proofs.OperationTexts
import SchemaChange.Proofs.ReportReading
import SchemaChange.Proofs.Command.ReportViews
import SchemaChange.Proofs.LedgerHistory

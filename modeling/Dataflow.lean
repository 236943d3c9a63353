import Dataflow.Document.Printer
import Dataflow.History
import Dataflow.Main
import Dataflow.Proofs.Bytes.Truncated
import Dataflow.Proofs.Document.RoundTrip
import Dataflow.Proofs.Graph.Built
import Dataflow.Proofs.Graph.Edit
import Dataflow.Proofs.Graph.Numbering
import Dataflow.Proofs.Graph.TakenBack
import Dataflow.Proofs.Handler.Condition
import Dataflow.Proofs.Handler.Extremes
import Dataflow.Proofs.Handler.Html
import Dataflow.Proofs.Handler.IgnoringCase
import Dataflow.Proofs.Handler.Prompt
import Dataflow.Proofs.Handler.TextOp
import Dataflow.Proofs.History.Zipper
import Dataflow.Proofs.Order.DepthFirst
import Dataflow.Proofs.Order.Ends
import Dataflow.Proofs.Plan.Alias
import Dataflow.Proofs.Run.Cancelled
import Dataflow.Proofs.Run.Failures
import Dataflow.Proofs.Run.Rearranged
import Dataflow.Proofs.Run.Report
import Dataflow.Proofs.Run.Unaffected
import Dataflow.Proofs.Store.Agreement
import Dataflow.Proofs.Value.JsonTrip
import Dataflow.Proofs.Value.NumberText

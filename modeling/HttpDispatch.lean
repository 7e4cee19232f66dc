import HttpDispatch.Address
import HttpDispatch.Connection
import HttpDispatch.Proofs.Route.Finding
import HttpDispatch.TypedMap
import HttpDispatch.Proofs.Fallible
import HttpDispatch.Proofs.Route.Validation
import HttpDispatch.Proofs.Route.Acceptance
import HttpDispatch.Proofs.Http.Delivery
import HttpDispatch.Proofs.Http.Request
import HttpDispatch.Proofs.Connection.Pacing
import HttpDispatch.Proofs.Route.Reversal
import HttpDispatch.Proofs.Body.Pulling
import HttpDispatch.Proofs.Dispatch.Course
import HttpDispatch.Proofs.Dispatch.Replacement
import HttpDispatch.Proofs.Dispatch.Dispatching
import HttpDispatch.Proofs.Text.Words
import HttpDispatch.Proofs.Route.Quoting
import HttpDispatch.Proofs.Route.Reading
import HttpDispatch.Proofs.Route.Layout
import HttpDispatch.Proofs.Route.Rereading
import HttpDispatch.Proofs.Connection.Accounting
import HttpDispatch.Proofs.Dispatch.Queueing
import HttpDispatch.Proofs.Http.Lines
import HttpDispatch.Proofs.Http.Framing
import HttpDispatch.Proofs.Dispatch.Reloading
import HttpDispatch.Proofs.Connection.Pipelining
import HttpDispatch.Proofs.Http.Aborting
import HttpDispatch.Proofs.Route.Placing
import HttpDispatch.Proofs.Route.Gluing
import HttpDispatch.Proofs.Route.Canonical
import HttpDispatch.Proofs.Route.Building
import HttpDispatch.Proofs.Connection.Announcing
import HttpDispatch.Proofs.Http.Failing
import HttpDispatch.Proofs.Http.Cutting
import HttpDispatch.Proofs.Http.Lengths
import HttpDispatch.Proofs.Http.Forms
import HttpDispatch.Proofs.Route.Targets
import HttpDispatch.Proofs.Dispatch.Reporting
import HttpDispatch.Proofs.Value.Restoring
import HttpDispatch.Proofs.Http.Multimap
import HttpDispatch.Proofs.Body.Reading
import HttpDispatch.Proofs.Route.Joining
import HttpDispatch.Proofs.Route.Separating

import Textbase.Main
import Textbase.Service.Settings
import Textbase.Proofs.Command.Reading
import Textbase.Proofs.Store.Step
import Textbase.Proofs.Store.History
import Textbase.Proofs.Filter.Structure
import Textbase.Proofs.Token.Scan
import Textbase.Proofs.Filter.Placement
import Textbase.Proofs.Filter.Selection
import Textbase.Proofs.Token.Items
import Textbase.Proofs.Command.Listing
import Textbase.Proofs.Store.Insertion
import Textbase.Proofs.Store.Atomicity
import Textbase.Proofs.Store.Isolation
import Textbase.Proofs.Tabular.RoundTrip
import Textbase.Proofs.Json.Literal
import Textbase.Proofs.Json.RoundTrip
import Textbase.Proofs.Response.RoundTrip
import Textbase.Proofs.Service.Refinement
import Textbase.Proofs.Shell.Transcript
import Textbase.Proofs.Shell.Exchange
import Textbase.Proofs.Shell.Simulation
import Textbase.Proofs.Filter.Writing
import Textbase.Proofs.Value.Coherence
import Textbase.Proofs.Store.Lookup
import Textbase.Proofs.Text.Lowercase
import Textbase.Proofs.Token.Order
import Textbase.Proofs.Command.Grammar
import Textbase.Proofs.Token.Composition
import Textbase.Proofs.Command.Items
import Textbase.Proofs.Token.Cover
import Textbase.Proofs.Filter.Comparison
import Textbase.Proofs.Store.Batch
import Textbase.Proofs.Guarded.Bounds
import Textbase.Proofs.Number.Rounding
import Textbase.Proofs.Number.Numeral
import Textbase.Proofs.Value.Exactness
import Textbase.Proofs.Value.Screening
import Textbase.Proofs.Token.Recasing
import Textbase.Proofs.Command.Keywords
import Textbase.Proofs.Shell.Dispatch
import Textbase.Proofs.Command.Faults
import Textbase.Proofs.Store.Failure
import Textbase.Proofs.Tabular.Alignment

import LiveVectors.Live.Drag
import LiveVectors.Live.Playback
import LiveVectors.Proofs.Session
import LiveVectors.Proofs.Reactivity
import LiveVectors.Proofs.Dragging
import LiveVectors.Proofs.Dependents
import LiveVectors.Proofs.Balance
import LiveVectors.Proofs.Lexemes
import LiveVectors.Proofs.Numerals
import LiveVectors.Proofs.Segments
import LiveVectors.Proofs.Operands
import LiveVectors.Proofs.Shapes
import LiveVectors.Proofs.Writing
import LiveVectors.Proofs.Readings
import LiveVectors.Proofs.RoundTrip
import LiveVectors.Proofs.NormalForm
import LiveVectors.Proofs.MethodCalls
import LiveVectors.Proofs.Composition
import LiveVectors.Proofs.Documents
import LiveVectors.Proofs.Failure
import LiveVectors.Proofs.Accounting
import LiveVectors.Proofs.Queries
import LiveVectors.Proofs.Moves
import LiveVectors.Proofs.Names
import LiveVectors.Proofs.Breakdowns
import LiveVectors.Proofs.Scope
import LiveVectors.Proofs.Labels
import LiveVectors.Proofs.LateReferences
import LiveVectors.Proofs.Broadcast
import LiveVectors.Proofs.Twins
import LiveVectors.Proofs.Grouping
import LiveVectors.Proofs.Literals
import LiveVectors.Proofs.ModifierForms
import LiveVectors.Proofs.Splitting
import LiveVectors.Proofs.Registration
import LiveVectors.Proofs.Worklist
import LiveVectors.Proofs.Limits
import LiveVectors.Proofs.Enclosure
import LiveVectors.Proofs.OperatorSearch
import LiveVectors.Proofs.Extent
import LiveVectors.Proofs.Liveness

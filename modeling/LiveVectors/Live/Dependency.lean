import LiveVectors.Live.Table
import LiveVectors.Plane.Arithmetic

/-!
# Dependencies between vectors

A vector that an operation made is derived: its `Derivation` tells the operator and the operands.
The dependency graph has an edge from every operand that is a vector to the vectors derived from
it, in the order in which the edges came, and the number under which each derivation was recorded.

`reachable` follows the edges through vectors that pass a test.  What it finds is sorted by
number; vectors without a derivation come first.
-/

set_option autoImplicit false

namespace LiveVectors

/-- How a derived vector was made. -/
structure Derivation where
  /-- The symbol of the operator. -/
  operator : String
  left : Value
  right : Value
  /-- The derived vector. -/
  target : VectorId
deriving DecidableEq, Repr

namespace Derivation

/-- Both operands. -/
def operands (derivation : Derivation) : List Value := [derivation.left, derivation.right]

/-- The operands that are vectors, the left one first; one that is both operands counts twice. -/
def vectorOperands (derivation : Derivation) : List VectorId :=
  derivation.operands.filterMap Value.vectorId?

/-- Applies the operator to the operands as they are now and overwrites the derived vector. -/
def recompute (derivation : Derivation) : Action Store Unit := do
  let left ← Action.inspect (·.snapshot derivation.left)
  let right ← Action.inspect (·.snapshot derivation.right)
  match ← Action.of (operate derivation.operator left right) with
  | .planar v => Store.write derivation.target v
  | .scalar _ => Action.fail (.breakdown (.scalarRecompute derivation.operator))

end Derivation

/-- A recorded derivation. -/
structure Record where
  derivation : Derivation
  number : Nat
deriving DecidableEq, Repr

/-- Which vectors are derived from which. -/
structure DependencyGraph where
  /-- For every operand the vectors derived from it. -/
  edges : Table VectorId (List VectorId)
  /-- For every derived vector its latest derivation. -/
  records : Table VectorId Record
deriving Repr

namespace DependencyGraph

/-- The graph without vectors. -/
def empty : DependencyGraph := ⟨.empty, .empty⟩

/-- The vectors derived from a vector. -/
def dependents (graph : DependencyGraph) (id : VectorId) : List VectorId :=
  (graph.edges.get? id).getD []

/-- Whether something is derived from a vector. -/
def hasDependents (graph : DependencyGraph) (id : VectorId) : Bool := graph.dependents id != []

/-- The latest derivation of a vector. -/
def derivation? (graph : DependencyGraph) (id : VectorId) : Option Derivation :=
  (graph.records.get? id).map Record.derivation

/-- The graph with an edge from an operand to a derived vector; an edge is there once. -/
def link (graph : DependencyGraph) (operand derived : VectorId) : DependencyGraph :=
  let known := graph.dependents operand
  let dependents := if derived ∈ known then known else known ++ [derived]
  { graph with edges := graph.edges.put operand dependents }

/-- The graph with a derivation and the edges from its operands.  The derivation gets the number
of derived vectors recorded so far. -/
def register (graph : DependencyGraph) (derivation : Derivation) : DependencyGraph :=
  let record : Record := ⟨derivation, graph.records.size⟩
  let recorded := { graph with records := graph.records.put derivation.target record }
  derivation.vectorOperands.foldl (fun graph operand => graph.link operand derivation.target)
    recorded

/-! ## Search -/

/-- Every vector at the end of an edge. -/
def derived (graph : DependencyGraph) : List VectorId := graph.edges.entries.flatMap Prod.snd

/-- The vectors of a list other than `id`. -/
def without (id : VectorId) (ids : List VectorId) : List VectorId := ids.filter (· ≠ id)

theorem length_without_lt {id : VectorId} {ids : List VectorId} (h : id ∈ ids) :
    (without id ids).length < ids.length := by
  rw [without, List.length_filter_lt_length_iff_exists]
  exact ⟨id, h, by simp⟩

/-- The vectors of `fresh` that a search from the vectors on the stack discovers, in the order of
discovery.  A discovered vector is fresh no longer, and those derived from it go on top of the
stack, the newest edge first. -/
def discover (graph : DependencyGraph) (fresh stack : List VectorId) : List VectorId :=
  match stack with
  | [] => []
  | id :: rest =>
    if id ∈ fresh then
      id :: graph.discover (without id fresh) ((graph.dependents id).reverse ++ rest)
    else graph.discover fresh rest
termination_by (fresh.length, stack.length)
decreasing_by
  · exact Prod.Lex.left _ _ (length_without_lt ‹id ∈ fresh›)
  · apply Prod.Lex.right
    simp

/-- The number of a vector's derivation; a vector without one comes before all numbers. -/
def rank (graph : DependencyGraph) (id : VectorId) : Int :=
  match graph.records.get? id with
  | some record => record.number
  | none => -1

/-- The vectors other than `start` that edges reach from it through vectors that pass the test,
sorted by number; vectors of one number are in the order of discovery. -/
def reachable (graph : DependencyGraph) (start : VectorId) (follow : VectorId → Bool) :
    List VectorId :=
  let fresh := graph.derived.filter fun id => id != start && follow id
  (graph.discover fresh (graph.dependents start).reverse).mergeSort
    fun first second => graph.rank first ≤ graph.rank second

end DependencyGraph
end LiveVectors

import LiveVectors.Live.Bindings
import LiveVectors.Live.Dependency
import LiveVectors.Plane.Member

/-!
# The world of a run

A run works on the stored vectors, the bindings, the dependency graph and the diagnostics so far.

A derived vector is live if it follows its operands.  A vector that was never bound is live; a
bound one is live only if some binding of it was a reference.  `propagate` recomputes the live
vectors that depend on a vector which has changed, each after its operands.  The search stops at
vectors that are not live.
-/

set_option autoImplicit false

namespace LiveVectors

/-- Everything that a run works on. -/
structure World where
  store : Store
  bindings : Bindings
  graph : DependencyGraph
  diagnostics : List Diagnostic

namespace World

/-- The world in which a run begins. -/
def empty : World := ⟨.empty, .empty, .empty, []⟩

/-- An action on the stored vectors of a world. -/
def onStore {α : Type} (action : Action Store α) : Action World α :=
  Action.onPart World.store (fun store world => { world with store }) action

/-- The world with one more diagnostic. -/
def report (world : World) (kind : DiagnosticKind) (message : String) (place : Place) : World :=
  { world with diagnostics := world.diagnostics ++ [.ofKind kind message place .run] }

/-- The value of a variable. -/
def lookup (name : String) : Action World Value := do
  match ← Action.inspect (·.bindings.get? name) with
  | some binding => return binding.value
  | none => Action.fail (.undefinedVariable name)

/-! ## Derived vectors -/

/-- Whether a value follows its operands if it is derived. -/
def isLive (world : World) (value : Value) : Bool :=
  (world.bindings.boundAsReference value).getD true

/-- The live vectors that depend on a vector through live vectors, each after its operands. -/
def liveDependents (world : World) (id : VectorId) : List VectorId :=
  world.graph.reachable id fun other => world.isLive (.vector other)

/-- Recomputes those of some vectors that are derived, in order, and gives them. -/
def refresh : List VectorId → Action World (List VectorId)
  | [] => return []
  | id :: rest => do
    match ← Action.inspect (·.graph.derivation? id) with
    | none => refresh rest
    | some derivation =>
      onStore derivation.recompute
      return id :: (← refresh rest)

/-- Recomputes what depends on a vector that has changed, and gives what was recomputed. -/
def propagate (id : VectorId) : Action World (List VectorId) := do
  refresh (← Action.inspect (·.liveDependents id))

/-- Applies an operator to two values and, if the result is a vector, records how it was made. -/
def derive (symbol : String) (left right : Value) : Action World Value := do
  let result ← onStore (Store.operate symbol left right)
  match result with
  | .vector target =>
    Action.update fun world =>
      { world with graph := world.graph.register ⟨symbol, left, right, target⟩ }
  | _ => pure ()
  return result

/-- Adds an edge by hand, from the vector of one variable to the vector of another. -/
def link (operand derived : String) : Action World Unit := do
  match ← lookup operand, ← lookup derived with
  | .vector first, .vector second =>
    Action.update fun world => { world with graph := world.graph.link first second }
  | _, _ => pure ()

end World
end LiveVectors

import LiveVectors.Live.Evaluation

/-!
# Dragging vectors

Between runs a host moves vectors and shows how they hang together.
-/

set_option autoImplicit false

namespace LiveVectors
namespace World

/-- The variables that a host may drag: those with a vector and the flag `interactive`. -/
def interactiveNames (world : World) : List String :=
  (world.bindings.table.entries.filter fun entry =>
    entry.2.value.vectorId?.isSome && entry.2.look.interactive).map Prod.fst

/-- Moves the vector of a variable, to the nearest integers if `snap` says so, and recomputes what
depends on it.  Gives the names of what was recomputed. -/
def move (name : String) (x y : Float) (snap : Bool) : Action World (List String) := do
  match ← lookup name with
  | .vector id =>
    onStore (Store.write id ⟨x, y⟩)
    if snap then
      let _ ← onStore (Store.perform (.change .round) id [])
    let refreshed ← propagate id
    Action.inspect fun world => refreshed.flatMap world.bindings.namesOf
  | _ => Action.fail (.badArgument (.notAVector name))

/-- The sign that shows an operator in a label. -/
def operatorSign (symbol : String) : String :=
  if symbol = "*" then "×" else if symbol = "/" then "÷" else symbol

/-- The label of a reference: the names of its operands with the operator between them.  There is
none if the variable is no reference to a derived vector or no name is bound to an operand. -/
def referenceLabel (world : World) (name : String) : Option String := do
  let binding ← world.bindings.get? name
  let id ← binding.value.vectorId?
  if !binding.look.reference then none
  else
    let derivation ← world.graph.derivation? id
    let isOperand := fun value : Value => value.vectorId?.any derivation.vectorOperands.contains
    let names := (world.bindings.table.entries.filter (isOperand ·.2.value)).map Prod.fst
    if names == [] then none
    else some ((" " ++ operatorSign derivation.operator ++ " ").intercalate names)

end World
end LiveVectors

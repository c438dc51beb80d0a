import LiveVectors.Live.Table
import LiveVectors.Plane.Value
import LiveVectors.Script.Instruction

/-!
# Bindings of names

A name is bound to a value together with the look that the assignment gave it.  A later binding
of the name replaces an earlier one, but the name keeps its place in the order.

What is never forgotten is whether a value has been bound at all, and whether any of its bindings
carried the flag `reference`.
-/

set_option autoImplicit false

namespace LiveVectors

/-- How a variable is shown and handled. -/
structure Look where
  colour : Option String
  interactive : Bool
  reference : Bool
  /-- The vector where the variable is drawn; it can be the vector of another variable. -/
  origin : Option VectorId
deriving DecidableEq, Repr

/-- The look of a variable without modifiers. -/
def Look.plain : Look := ⟨none, false, false, none⟩

/-- What a name is bound to. -/
structure Binding where
  value : Value
  look : Look
  /-- The assignment that made the binding. -/
  source : Instruction
deriving Repr

/-- The bindings of all names. -/
structure Bindings where
  table : Table String Binding
  /-- For every value that was ever bound, whether some binding of it was a reference. -/
  history : Table Value Bool
deriving Repr

namespace Bindings

/-- No bindings. -/
def empty : Bindings := ⟨.empty, .empty⟩

/-- What a name is bound to now. -/
def get? (bindings : Bindings) (name : String) : Option Binding := bindings.table.get? name

/-- The bound names, each where it was bound first. -/
def names (bindings : Bindings) : List String := bindings.table.keys

/-- Whether some binding of a value was a reference, if the value was ever bound. -/
def boundAsReference (bindings : Bindings) (value : Value) : Option Bool :=
  bindings.history.get? value

/-- The bindings after a name is bound. -/
def bind (bindings : Bindings) (name : String) (binding : Binding) : Bindings where
  table := bindings.table.put name binding
  history :=
    let before := (bindings.boundAsReference binding.value).getD false
    bindings.history.put binding.value (before || binding.look.reference)

/-- The names that are bound to a vector now. -/
def namesOf (bindings : Bindings) (id : VectorId) : List String :=
  (bindings.table.entries.filter fun entry => entry.2.value == .vector id).map Prod.fst

/-- The bindings in a message: the names in order. -/
def render (bindings : Bindings) : String :=
  "Environment([" ++ ", ".intercalate (bindings.names.map Text.quote) ++ "])"

end Bindings
end LiveVectors

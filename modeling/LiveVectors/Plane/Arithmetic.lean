import LiveVectors.Plane.Method

/-!
# Arithmetic of numbers and vectors

Three of the operators can be applied.  Between vectors they work component by component, and a
number next to a vector stands for both components, on either side.  Two numbers give a number;
any other pair gives a new vector, and no operand changes.

The operator is looked at before the operands, and the left operand before the right one.
-/

set_option autoImplicit false

namespace LiveVectors

/-- The operators that have a meaning. -/
inductive Arithmetic where
  | add
  | subtract
  | multiply
deriving DecidableEq, Repr

namespace Arithmetic

/-- The symbol of an operator. -/
def symbol : Arithmetic → String
  | add => "+"
  | subtract => "-"
  | multiply => "*"

/-- The operator of a symbol. -/
def ofSymbol? (symbol : String) : Option Arithmetic :=
  if symbol = "+" then some add
  else if symbol = "-" then some subtract
  else if symbol = "*" then some multiply
  else none

/-- What an operator makes of two numbers. -/
def apply (operator : Arithmetic) (x y : Float) : Float :=
  match operator with
  | add => x + y
  | subtract => x - y
  | multiply => x * y

end Arithmetic

/-- What an operator takes and gives: a number or a vector. -/
inductive Quantity where
  | scalar (x : Float)
  | planar (v : PlaneVector)
deriving DecidableEq, Repr

namespace Quantity

/-- The quantity that a value is as an operand of an operator. -/
def ofSnapshot (symbol : String) : Snapshot → Except Fault Quantity
  | .number x => .ok (scalar x)
  | .vector v => .ok (planar v)
  | given => .error (.badArgument (.unfitOperand symbol given))

/-- Applies an operator to two quantities. -/
def combine (operator : Arithmetic) : Quantity → Quantity → Quantity
  | scalar x, scalar y => scalar (operator.apply x y)
  | scalar x, planar w => planar ((PlaneVector.diagonal x).zip operator.apply w)
  | planar v, scalar y => planar (v.zip operator.apply (.diagonal y))
  | planar v, planar w => planar (v.zip operator.apply w)

end Quantity

/-- Applies the operator of a symbol to two values as they stand. -/
def operate (symbol : String) (left right : Snapshot) : Except Fault Quantity :=
  match Arithmetic.ofSymbol? symbol with
  | none => .error (.unknownOperator symbol)
  | some operator => do
    let x ← Quantity.ofSnapshot symbol left
    let y ← Quantity.ofSnapshot symbol right
    return x.combine operator y

namespace Store

/-- A quantity as a value; a vector is made new. -/
def toValue : Quantity → Action Store Value
  | .scalar x => return .number x
  | .planar v => do return .vector (← allocate v)

/-- Applies the operator of a symbol to two values. -/
def operate (symbol : String) (left right : Value) : Action Store Value := do
  let x ← Action.inspect (·.snapshot left)
  let y ← Action.inspect (·.snapshot right)
  toValue (← Action.of (LiveVectors.operate symbol x y))

end Store
end LiveVectors

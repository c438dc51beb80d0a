import LiveVectors.Script.Expression

/-!
# Problems of reading

A line that has the shape of an instruction can still fail to be one: an operator without a right
operand, or an argument list with an empty argument.
-/

set_option autoImplicit false

namespace LiveVectors

/-- Why a text cannot be read as an expression or an argument list. -/
inductive SyntaxProblem where
  /-- Nothing but blanks follows an operator. -/
  | missingOperand (operator : Operator)
  /-- An argument list, given here, has an argument of nothing but blanks. -/
  | emptyArgument (arguments : String)
deriving DecidableEq, Repr

/-- What is wrong, in words. -/
def SyntaxProblem.message : SyntaxProblem → String
  | missingOperand operator =>
    "Missing right operand for `" ++ String.singleton operator.symbol ++ "`"
  | emptyArgument arguments => "Empty argument in `(" ++ arguments ++ ")`"

end LiveVectors

import LiveVectors.Script.Problem
import LiveVectors.Script.Shape

/-!
# Reading expressions

An expression is read by its outer shape.  The shapes are tried in a fixed order: a number, a
call, an operation, a method call, a property, and at last a single token.  An operation is split
at its first operator at depth zero, so a chain of operators groups to the right.

Every shape hands shorter texts to its readers, so reading ends.
-/

set_option autoImplicit false

namespace LiveVectors
namespace Expression

open Text Nesting

/-- A token by itself: a name, a number or an opaque text. -/
def ofToken (token : List Char) : Expression :=
  let token := trim token
  if isIdentifier token then .named (String.ofList token)
  else
    match Number.readNumber? token with
    | some value => .number value
    | none => .text (String.ofList token)

mutual

/-- The expression that a text writes. -/
def ofChars (text : List Char) : Except SyntaxProblem Expression :=
  let body := trim text
  match Number.readNumber? body with
  | some value => .ok (.number value)
  | none =>
    match _ : Shape.call? body with
    | some (name, inside) => do
      return .call (String.ofList name) (← argumentsOfChars inside)
    | none =>
      match _ : Shape.operation? body with
      | some (left, operator, right) =>
        if isBlankText right then .error (.missingOperand operator)
        else do
          let leftOperand ← ofChars left
          let rightOperand ← ofChars right
          return .operation operator leftOperand rightOperand
      | none =>
        match _ : Shape.memberCall? body with
        | some (owner, name, inside) => do
          return .methodCall (String.ofList owner) (String.ofList name)
            (← argumentsOfChars inside)
        | none =>
          match Shape.member? body with
          | some (owner, name) => .ok (.property (String.ofList owner) (String.ofList name))
          | none => .ok (ofToken body)
termination_by text.length
decreasing_by
  all_goals have : body.length ≤ text.length := length_trim_le text
  · have := Shape.length_of_call? ‹Shape.call? body = some (name, inside)›
    omega
  · have := Shape.length_of_operation? ‹Shape.operation? body = some (left, operator, right)›
    omega
  · have := Shape.length_of_operation? ‹Shape.operation? body = some (left, operator, right)›
    omega
  · have := Shape.length_of_memberCall? ‹Shape.memberCall? body = some (owner, name, inside)›
    omega

/-- The arguments that a text between parentheses writes; a text of blanks writes none. -/
def argumentsOfChars (text : List Char) : Except SyntaxProblem (List Expression) :=
  if isBlankText text then .ok []
  else
    let parts := splitTopLevel (· == ',') (-1) text
    if parts.any isBlankText then .error (.emptyArgument (String.ofList text))
    else allOfChars parts
termination_by text.length + 2
decreasing_by
  have := room_splitTopLevel (· == ',') (-1) text
  omega

/-- The expressions that several texts write; the first problem stops the reading. -/
def allOfChars (texts : List (List Char)) : Except SyntaxProblem (List Expression) :=
  match texts with
  | [] => .ok []
  | part :: rest => do
    let first ← ofChars part
    let others ← allOfChars rest
    return first :: others
termination_by room texts
decreasing_by
  all_goals simp only [room]
  all_goals omega

end

/-- The expression that a text writes. -/
def read (text : String) : Except SyntaxProblem Expression := ofChars text.toList

/-- The arguments that a text between parentheses writes. -/
def readArguments (text : String) : Except SyntaxProblem (List Expression) :=
  argumentsOfChars text.toList

/-- The token that a text is: a name, a number or an opaque text. -/
def readToken (text : String) : Expression := ofToken text.toList

end Expression
end LiveVectors

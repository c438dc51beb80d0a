import LiveVectors.Diagnostic
import LiveVectors.Script.Modifier

/-!
# Instructions

A line of a script is one of three statements: a method call, a property write or an assignment.
They are tried in this order, because the shapes overlap.  A line of no such shape is no
instruction, which is not a problem of reading.
-/

set_option autoImplicit false

namespace LiveVectors

/-- What a line asks for. -/
inductive Statement where
  /-- `name = value, modifier, modifier` -/
  | assign (name : String) (value : Expression) (modifiers : List Modifier)
  /-- `owner.property = value` -/
  | setProperty (owner property : String) (value : Expression)
  /-- `owner.method(argument, argument)` -/
  | callMethod (owner method : String) (arguments : List Expression)
deriving Inhabited, Repr

/-- A statement with the place where it stands. -/
structure Instruction where
  statement : Statement
  place : Place
deriving Inhabited, Repr

namespace Statement

open Text Nesting

/-- The two parts of a definition: the expression before the first comma at depth zero, and the
modifiers after it. -/
def splitDefinition (definition : List Char) : List Char × List Char :=
  match splitTopLevel (· == ',') 1 definition with
  | [] => ([], [])
  | [main] => (trim main, [])
  | main :: modifiers :: _ => (trim main, trim modifiers)

/-- The statement that a line is, if it has the shape of one. -/
def ofChars (line : List Char) : Except SyntaxProblem (Option Statement) :=
  match Shape.memberCall? line with
  | some (owner, method, inside) => do
    return some (.callMethod (String.ofList owner) (String.ofList method)
      (← Expression.argumentsOfChars inside))
  | none =>
    match Shape.propertyLine? line with
    | some (owner, property, value) => do
      return some (.setProperty (String.ofList owner) (String.ofList property)
        (← Expression.ofChars value))
    | none =>
      match Shape.assignment? line with
      | some (name, definition) => do
        let (main, modifiers) := splitDefinition definition
        let value ← Expression.ofChars main
        let modifiers ← Modifier.listOfChars modifiers
        return some (.assign (String.ofList name) value modifiers)
      | none => .ok none

end Statement

/-- The instruction that a line is, if it has the shape of one. -/
def Instruction.ofChars (line : List Char) (number : Int) :
    Except SyntaxProblem (Option Instruction) := do
  let statement ← Statement.ofChars line
  return statement.map fun statement => ⟨statement, number, String.ofList line⟩

/-- The instruction that a trimmed line is, if it has the shape of one. -/
def Instruction.read (line : String) (number : Int) : Except SyntaxProblem (Option Instruction) :=
  Instruction.ofChars line.toList number

end LiveVectors

import LiveVectors.Script.Reading

/-!
# Modifiers

After its expression an assignment may have modifiers, separated by commas.  A modifier with a
name and arguments has two written forms, `name: token token` and `name(argument, argument)`;
every other modifier is a flag, and a flag that begins with `#` is a colour.
-/

set_option autoImplicit false

namespace LiveVectors

/-- A modifier of an assignment. -/
inductive Modifier where
  /-- A word or a colour. -/
  | flag (token : String)
  /-- A named option with its arguments. -/
  | option (name : String) (arguments : List Expression)
deriving Inhabited, Repr

namespace Modifier

open Text Nesting

/-- Whether the text of a flag is a colour. -/
def isColour (token : String) : Bool := token.toList.head? == some '#'

/-- The modifier that a text is.  A text in the form of a call is read as an expression, and is a
flag after all if that is no call. -/
def ofChars (token : List Char) : Except SyntaxProblem Modifier :=
  match Shape.keyed? token with
  | some (name, values) =>
    .ok (.option (String.ofList name) ((words values).map Expression.ofToken))
  | none =>
    match Shape.loose? token with
    | none => .ok (.flag (String.ofList token))
    | some _ => do
      match ← Expression.ofChars token with
      | .call name arguments => return .option name arguments
      | _ => return .flag (String.ofList token)

/-- The modifiers that several texts are; the first problem stops the reading. -/
def allOfChars : List (List Char) → Except SyntaxProblem (List Modifier)
  | [] => .ok []
  | token :: rest => do
    let first ← ofChars token
    let others ← allOfChars rest
    return first :: others

/-- The modifiers in a text, which commas at depth zero separate; blank ones do not count. -/
def listOfChars (text : List Char) : Except SyntaxProblem (List Modifier) :=
  allOfChars (((splitTopLevel (· == ',') (-1) text).map trim).filter (· ≠ []))

/-- The modifier that a text is. -/
def read (text : String) : Except SyntaxProblem Modifier := ofChars text.toList

/-- The modifiers in a text. -/
def readList (text : String) : Except SyntaxProblem (List Modifier) := listOfChars text.toList

end Modifier
end LiveVectors

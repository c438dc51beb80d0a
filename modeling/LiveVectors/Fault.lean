import LiveVectors.Diagnostic
import LiveVectors.Plane.Value
import LiveVectors.Script.Problem
import LiveVectors.Text.Case

/-!
# Faults

Why an instruction or an operation fails.  Most faults are mistakes of a script and are reported
under a kind of their own in the catalogue; the `Breakdown`s are failures of operations on numbers,
arguments that do not fit, properties that are missing and misuse by a host, and all of them count
as unexpected.  The call of a method takes arguments that do not fit for a mistake of the script
(`Fault.inCall`), and access to a property does so with one that is missing (`Fault.inAccess`).
-/

set_option autoImplicit false

namespace LiveVectors

/-- How the arguments of a method can fail to fit it. -/
inductive Misfit where
  /-- There are too few of them or too many. -/
  | wrongCount (method : String) (parameters : List String) (given : Nat)
  /-- One that is to become a number cannot be converted to one. -/
  | notConvertible (given : Snapshot)
deriving DecidableEq, Repr

namespace Misfit

/-- A count of things in words. -/
def counted (n : Nat) (thing : String) : String :=
  toString n ++ " " ++ thing ++ (if n == 1 then "" else "s")

/-- Names in single quotes, the last one after an "and". -/
def quotedNames : List String → String
  | [] => ""
  | [name] => "'" ++ name ++ "'"
  | [first, last] => "'" ++ first ++ "' and '" ++ last ++ "'"
  | first :: rest => "'" ++ first ++ "', " ++ quotedNames rest

/-- How many arguments a method wants; the vector that it is called on counts as one. -/
def countText (method : String) (parameters : List String) (given : Nat) : String :=
  let wanted := parameters.length
  if given < wanted then
    "Vec2." ++ method ++ "() missing " ++
      counted (wanted - given) "required positional argument" ++ ": " ++
      quotedNames (parameters.drop given)
  else
    "Vec2." ++ method ++ "() takes " ++ counted (wanted + 1) "positional argument" ++ " but " ++
      toString (given + 1) ++ " were given"

/-- What does not fit, in words. -/
def message : Misfit → String
  | wrongCount method parameters given => countText method parameters given
  | notConvertible given =>
    "float() argument must be a string or a real number, not '" ++ given.kindName ++ "'"

end Misfit

/-- What is wrong with the arguments of a call or the operands of an operator. -/
inductive ArgumentProblem where
  | expectsVector (operation : String) (given : Snapshot)
  | expectsNumber (operation : String) (given : Snapshot)
  | zeroDivisor
  | expectsTwoNumbers (given : List Snapshot)
  /-- A method was called with arguments that do not fit it. -/
  | misfit (method : String) (problem : Misfit)
  | unfitOperand (operator : String) (given : Snapshot)
  | notAVector (name : String)
deriving DecidableEq, Repr

/-- What is wrong, in words. -/
def ArgumentProblem.message : ArgumentProblem → String
  | expectsVector operation given =>
    operation ++ " expects a vector, got " ++ given.render
  | expectsNumber operation given =>
    operation ++ " expects a number, got " ++ given.render
  | zeroDivisor => "divide by a vector with a zero component"
  | expectsTwoNumbers given =>
    "Vec2 expects two numbers, got (" ++ ", ".intercalate (given.map Snapshot.render) ++ ")"
  | misfit method problem => "Bad arguments for '" ++ method ++ "': " ++ problem.message
  | unfitOperand operator given =>
    "Operand " ++ given.render ++ " of `" ++ operator ++ "` is neither a number nor a vector"
  | notAVector name => "Variable '" ++ name ++ "' is not a vector"

/-- The kinds of members that a value can be asked for. -/
inductive MemberKind where
  | method
  | property
  /-- A kind that only a host speaks of. -/
  | other (label : String)
deriving DecidableEq, Repr

/-- A kind of member at the beginning of a sentence. -/
def MemberKind.title : MemberKind → String
  | method => "Method"
  | property => "Property"
  | other label => Text.capitalize label

/-- A failure that is no mistake in a script's use of names and arguments. -/
inductive Breakdown where
  /-- A text that was to become a number writes none. -/
  | notANumeral (text : String)
  | roundsNotANumber
  | roundsInfinity
  /-- The sine or cosine of an infinite angle. -/
  | infiniteAngle
  | zeroDivision
  /-- A method got arguments that do not fit it. -/
  | misfit (problem : Misfit)
  /-- A vector has no property of this name, or none that can be written. -/
  | noProperty (name : String)
  /-- An operation that once gave a vector now gives a number. -/
  | scalarRecompute (operator : String)
  /-- A host gave both options and a mode. -/
  | optionsAndMode
  /-- A host gave a script that has been read already, and options or a mode. -/
  | documentAndOptions
deriving DecidableEq, Repr

/-- What went wrong, in words. -/
def Breakdown.message : Breakdown → String
  | notANumeral text => "could not convert string to float: " ++ Text.quote text
  | roundsNotANumber => "cannot convert float NaN to integer"
  | roundsInfinity => "cannot convert float infinity to integer"
  | infiniteAngle => "math domain error"
  | zeroDivision => "float division by zero"
  | misfit problem => problem.message
  | noProperty name => name
  | scalarRecompute operator => "Recompute of `" ++ operator ++ "` no longer yields a vector"
  | optionsAndMode => "Pass either options or mode, not both"
  | documentAndOptions => "Pass either parse or options/mode, not both"

/-- Why something fails. -/
inductive Fault where
  /-- A text cannot be read. -/
  | unreadable (problem : SyntaxProblem)
  | undefinedVariable (name : String)
  /-- A value has no member of this name; the variable is known if the value came from one. -/
  | unknownMember (kind : MemberKind) (name : String) (owner : Option String)
  | unknownFunction (name : String)
  | unknownOperator (symbol : String)
  /-- An assignment has a modifier of an unknown name. -/
  | unknownOption (name : String)
  | badArgument (problem : ArgumentProblem)
  | breakdown (cause : Breakdown)
  /-- A host reports a failure in its own words. -/
  | reported (kind : DiagnosticKind) (message : String)
deriving DecidableEq, Repr

namespace Fault

/-- The kind of diagnostic under which a fault is reported. -/
def kind : Fault → DiagnosticKind
  | unreadable _ => .malformedArguments
  | undefinedVariable _ => .undefinedVariable
  | unknownMember .method _ _ => .unknownMethod
  | unknownMember _ _ _ => .unknownProperty
  | unknownFunction _ => .unknownFunction
  | unknownOperator _ => .unknownOperator
  | unknownOption _ => .unknownOption
  | badArgument _ => .invalidArguments
  | breakdown _ => .unexpectedFailure
  | reported kind _ => kind

/-- What went wrong, in words. -/
def message : Fault → String
  | unreadable problem => problem.message
  | undefinedVariable name => "Variable '" ++ name ++ "' is not defined."
  | unknownMember kind name owner =>
    kind.title ++ " '" ++ name ++ "' not found" ++
      match owner with
      | some owner => " on variable '" ++ owner ++ "'"
      | none => ""
  | unknownFunction name => "Unrecognised function call: " ++ name
  | unknownOperator symbol => "Unrecognised operator: " ++ symbol
  | unknownOption name => "Unrecognised property function: " ++ name
  | badArgument problem => problem.message
  | breakdown cause => cause.message
  | reported _ message => message

/-- The fault of a call of the method `method` in which a fault came up: arguments that do not fit
are a mistake in the call. -/
def inCall (method : String) : Fault → Fault
  | breakdown (.misfit problem) => badArgument (.misfit method problem)
  | fault => fault

/-- The fault of access to the property `name` in which a fault came up; the variable is known if
the value came from one.  A property that is missing is a mistake of the script. -/
def inAccess (name : String) (owner : Option String) : Fault → Fault
  | breakdown (.noProperty _) => unknownMember .property name owner
  | fault => fault

/-- Whether a fault is one of reading. -/
def isSyntax (fault : Fault) : Bool :=
  fault.kind == .malformedArguments || fault.kind == .unreadableLine

end Fault
end LiveVectors

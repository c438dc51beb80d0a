import LiveVectors.Live.World

/-!
# Evaluation and execution

Expressions are evaluated from left to right, and the first fault ends the evaluation.  What was
done before it stays done: vectors that were made, derivations that were recorded and changes that
methods made.

A method is looked up before any argument of its call is evaluated, and what depends on the vector
is recomputed after the call.  Instructions and expressions call methods each in their own way, and
do the same (`execute_callMethod`).
-/

set_option autoImplicit false

namespace LiveVectors
namespace World

/-! ## Expressions -/

/-- The name of the constructor of vectors in scripts. -/
def constructorName : String := "Vec2"

/-- The value of a call of a variable's method with the arguments that an action gives. -/
def callMethod (owner name : String) (arguments : Action World (List Value)) :
    Action World Value := do
  let target ← lookup owner
  let (id, method) ← Action.of (target.method name (some owner))
  let given ← arguments
  let result ← onStore (Store.call method id given)
  let _ ← propagate id
  return result

mutual

/-- The value of an expression. -/
def evaluate : Expression → Action World Value
  | .number value => return .number value
  | .text value => return .text value
  | .named name => lookup name
  | .call name arguments =>
    if name = constructorName then do
      let given ← evaluateAll arguments
      return .vector (← onStore (Value.construct given))
    else Action.fail (.unknownFunction name)
  | .operation operator left right => do
    let x ← evaluate left
    let y ← evaluate right
    derive (String.singleton operator.symbol) x y
  | .methodCall owner method arguments => callMethod owner method (evaluateAll arguments)
  | .property owner name => do
    let target ← lookup owner
    onStore (target.readProperty name (some owner))

/-- The values of several expressions, in order. -/
def evaluateAll : List Expression → Action World (List Value)
  | [] => return []
  | expression :: rest => do
    let value ← evaluate expression
    let values ← evaluateAll rest
    return value :: values

end

/-! ## Modifiers -/

/-- The vector that the arguments of `origin` give: one vector itself, or a new one of two
numbers. -/
def resolveOrigin (arguments : List Expression) : Action World VectorId := do
  match ← evaluateAll arguments with
  | [.vector id] => return id
  | given => onStore (Value.construct given)

/-- The look after a modifier.  A flag of no known meaning is a warning and changes nothing. -/
def applyModifier (place : Place) (look : Look) : Modifier → Action World Look
  | .option name arguments =>
    if name = "origin" then do
      return { look with origin := some (← resolveOrigin arguments) }
    else Action.fail (.unknownOption name)
  | .flag token =>
    if Modifier.isColour token then return { look with colour := some token }
    else if token = "interactive" then return { look with interactive := true }
    else if token = "reference" then return { look with reference := true }
    else do
      let kind := DiagnosticKind.unrecognisedFlag
      let message := kind.entry.message ++ " `" ++ token ++ "` is ignored."
      Action.update (·.report kind message place)
      return look

/-- The look after several modifiers; of two that set the same the later one counts. -/
def applyModifiers (place : Place) (look : Look) : List Modifier → Action World Look
  | [] => return look
  | modifier :: rest => do applyModifiers place (← applyModifier place look modifier) rest

/-- The look that the modifiers of an assignment give; warnings go to `place`. -/
def resolve (place : Place) (modifiers : List Modifier) : Action World Look :=
  applyModifiers place .plain modifiers

/-! ## Instructions -/

/-- Recomputes what depends on a value that may have changed. -/
def propagateValue (target : Value) : Action World Unit :=
  match target with
  | .vector id => do let _ ← propagate id
  | _ => pure ()

/-- Carries out an instruction; warnings go to `place`. -/
def execute (place : Place) (instruction : Instruction) : Action World Unit :=
  match instruction.statement with
  | .assign name value modifiers => do
    let value ← evaluate value
    let look ← resolve place modifiers
    Action.update fun world =>
      { world with bindings := world.bindings.bind name ⟨value, look, instruction⟩ }
  | .setProperty owner property value => do
    let target ← lookup owner
    let value ← evaluate value
    onStore (target.writeProperty property value (some owner))
    propagateValue target
  | .callMethod owner name arguments => do
    let target ← lookup owner
    let (id, method) ← Action.of (target.method name (some owner))
    let given ← evaluateAll arguments
    let _ ← onStore (Store.call method id given)
    propagateValue target

/-- **A method call as an instruction** does what it does in an expression, and drops the value. -/
theorem execute_callMethod (place : Place) {instruction : Instruction} {owner name : String}
    {arguments : List Expression} (h : instruction.statement = .callMethod owner name arguments) :
    execute place instruction = (do let _ ← callMethod owner name (evaluateAll arguments)) := by
  simp only [execute, h, callMethod, bind_assoc]
  refine bind_congr fun target => ?_
  rcases hfound : target.method name (some owner) with fault | ⟨id, method⟩
  · rw [Action.of_error_bind, Action.of_error_bind]
  · -- a value that has a method is a vector
    have hvector := Value.vectorId?_of_method hfound
    cases target with
    | vector =>
      cases hvector
      simp only [Action.of_ok_bind, propagateValue, pure_bind]
    | _ => cases hvector

/-- The world after an instruction; a fault becomes a diagnostic at the instruction. -/
def attempt (world : World) (instruction : Instruction) : World :=
  match (execute instruction.place instruction).outcome world with
  | (.ok _, after) => after
  | (.error fault, after) => after.report fault.kind fault.message instruction.place

/-- The world after a run of instructions that begins with nothing. -/
def run (instructions : List Instruction) : World := instructions.foldl attempt empty

end World
end LiveVectors

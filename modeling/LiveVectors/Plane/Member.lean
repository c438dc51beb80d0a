import LiveVectors.Plane.Property

/-!
# Members of values

Scripts reach methods and properties by name.  Vectors have a closed set of them and no other
value has any.  A name that a value does not have is a fault, which tells the variable if the
value came from one.

A method is looked for before it is called.  A property is not: the vector itself says that it has
none of that name, and access to the property reports this as a mistake.
-/

set_option autoImplicit false

namespace LiveVectors

namespace Store

/-- Reads the property of a name of a vector. -/
def readProperty (self : VectorId) (name : String) : Action Store Value := do
  let property ← Action.of (Property.named name)
  return .number (property.read (← Action.inspect (·.get self)))

/-- Writes the property of a name of a vector. -/
def writeProperty (self : VectorId) (name : String) (value : Value) : Action Store Unit := do
  let property ← Action.of (Property.named name)
  let v ← Action.inspect (·.get self)
  let given ← Action.inspect (·.snapshot value)
  match property.write? v given with
  | some result => write self (← Action.of result)
  | none => Action.fail (.breakdown (.noProperty name))

end Store

namespace Value

/-- A vector and its method of a name. -/
def method (target : Value) (name : String) (owner : Option String) :
    Except Fault (VectorId × Method) :=
  match target.vectorId?, Method.ofName? name with
  | some id, some method => .ok (id, method)
  | _, _ => .error (.unknownMember .method name owner)

/-- Methods are those of the vector that a value is. -/
theorem vectorId?_of_method {target : Value} {name : String} {owner : Option String}
    {id : VectorId} {method : Method} (h : target.method name owner = .ok (id, method)) :
    target.vectorId? = some id := by
  rw [Value.method] at h
  split at h
  · rename_i hid _
    cases h
    exact hid
  · cases h

/-- The vector that a value is when it is asked for a property; no other value has any. -/
def bearer (target : Value) (name : String) (owner : Option String) : Except Fault VectorId :=
  match target.vectorId? with
  | some id => .ok id
  | none => .error (.unknownMember .property name owner)

theorem vectorId?_of_bearer {target : Value} {name : String} {owner : Option String}
    {id : VectorId} (h : target.bearer name owner = .ok id) : target.vectorId? = some id := by
  rw [bearer] at h
  split at h
  · rename_i hid
    cases h
    exact hid
  · cases h

/-- Calls the method of a name on a value. -/
def callMethod (target : Value) (name : String) (arguments : List Value) (owner : Option String) :
    Action Store Value := do
  let (id, method) ← Action.of (target.method name owner)
  Store.call method id arguments

/-- Reads the property of a name on a value. -/
def readProperty (target : Value) (name : String) (owner : Option String) :
    Action Store Value := do
  let id ← Action.of (target.bearer name owner)
  Action.mapFault (Fault.inAccess name owner) (Store.readProperty id name)

/-- Writes the property of a name on a value. -/
def writeProperty (target : Value) (name : String) (value : Value) (owner : Option String) :
    Action Store Unit := do
  let id ← Action.of (target.bearer name owner)
  Action.mapFault (Fault.inAccess name owner) (Store.writeProperty id name value)

/-- The vector that the constructor of scripts makes of its arguments: exactly two numbers. -/
def construct (arguments : List Value) : Action Store VectorId :=
  match arguments with
  | [.number x, .number y] => Store.allocate ⟨x, y⟩
  | _ => do
    let given ← Action.inspect fun store => arguments.map store.snapshot
    Action.fail (.badArgument (.expectsTwoNumbers given))

end Value
end LiveVectors

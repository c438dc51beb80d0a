/-!
# Expressions

The right-hand sides of a script: numbers, opaque texts, variables, calls of a constructor, binary
operations, and the two ways to reach into a variable.  Operations have two operands each and no
precedence; a chain of operators is a tree that leans to the right.
-/

set_option autoImplicit false

namespace LiveVectors

/-- The operators that an expression may hold.  Division can be written; no operands have one. -/
inductive Operator where
  | plus
  | minus
  | times
  | dividedBy
deriving DecidableEq, Repr

namespace Operator

/-- The character that stands for an operator. -/
def symbol : Operator → Char
  | plus => '+'
  | minus => '-'
  | times => '*'
  | dividedBy => '/'

/-- The operator that a character stands for. -/
def ofSymbol? (c : Char) : Option Operator :=
  if c == '+' then some plus
  else if c == '-' then some minus
  else if c == '*' then some times
  else if c == '/' then some dividedBy
  else none

/-- Whether a character stands for an operator. -/
def isSymbol (c : Char) : Bool := (ofSymbol? c).isSome

theorem ofSymbol?_eq_some_iff {c : Char} {operator : Operator} :
    ofSymbol? c = some operator ↔ c = operator.symbol := by
  constructor
  · intro h
    unfold ofSymbol? at h
    split at h
    · obtain rfl := Option.some.inj h
      simp_all [symbol]
    split at h
    · obtain rfl := Option.some.inj h
      simp_all [symbol]
    split at h
    · obtain rfl := Option.some.inj h
      simp_all [symbol]
    split at h
    · obtain rfl := Option.some.inj h
      simp_all [symbol]
    · simp at h
  · rintro rfl
    cases operator <;> rfl

end Operator

/-- An expression of a script. -/
inductive Expression where
  /-- A finite number. -/
  | number (value : Float)
  /-- A text that is neither a number nor a name, such as a colour. -/
  | text (value : String)
  /-- The value of a variable. -/
  | named (name : String)
  /-- A call of a constructor by its name. -/
  | call (name : String) (arguments : List Expression)
  | operation (operator : Operator) (left right : Expression)
  /-- A method of a variable, called for its result. -/
  | methodCall (owner method : String) (arguments : List Expression)
  /-- A property of a variable. -/
  | property (owner name : String)
deriving Inhabited, Repr

end LiveVectors

import LiveVectors.Number.Numeral
import LiveVectors.Script.Expression
import LiveVectors.Script.Nesting
import LiveVectors.Text.Word

/-!
# Shapes

A line or an expression is classified by its outer shape alone; what is inside is left to the
readers that use the shape.  This file has the shapes with parentheses, with a dot, with `=` and
with `:`, and the search for the operator that splits an operation.

The inside of parentheses and the part after `=` or `:` hold no line feed.
-/

set_option autoImplicit false

namespace LiveVectors
namespace Shape

open Text Nesting Number

/-! ## Parentheses and dots -/

/-- What stands between an opening parenthesis that begins a text and a closing one that ends
it; the two need not belong together. -/
def enclosed? : List Char → Option (List Char)
  | [] => none
  | c :: rest =>
    if c == '(' && rest.getLast? == some ')' && !rest.contains '\n' then some rest.dropLast
    else none

/-- What stands between an opening parenthesis that begins a text and its own closing
parenthesis at the end. -/
def closed? (text : List Char) : Option (List Char) :=
  if closesAtEnd text then enclosed? text else none

/-- `name(inside)`: the name and the inside.  The parentheses need not belong together. -/
def loose? (text : List Char) : Option (List Char × List Char) := do
  let (name, rest) ← identifier? text
  return (name, ← enclosed? rest)

/-- `name(inside)` where the parentheses belong together. -/
def call? (text : List Char) : Option (List Char × List Char) := do
  let (name, rest) ← identifier? text
  return (name, ← closed? rest)

/-- What follows the dot that begins a text. -/
def afterDot? : List Char → Option (List Char)
  | [] => none
  | c :: rest => if c == '.' then some rest else none

/-- `owner.name` and what follows it. -/
def dotted? (text : List Char) : Option (List Char × List Char × List Char) := do
  let (owner, rest) ← identifier? text
  let (name, rest) ← identifier? (← afterDot? rest)
  return (owner, name, rest)

/-- `owner.name(inside)` where the parentheses belong together. -/
def memberCall? (text : List Char) : Option (List Char × List Char × List Char) := do
  let (owner, name, rest) ← dotted? text
  return (owner, name, ← closed? rest)

/-- `owner.name` and nothing else. -/
def member? (text : List Char) : Option (List Char × List Char) := do
  let (owner, name, rest) ← dotted? text
  if rest == [] then some (owner, name) else none

/-! ## Marks -/

/-- What follows a mark that may have ASCII blanks on both sides. -/
def afterMark? (mark : Char) (text : List Char) : Option (List Char) :=
  match text.dropWhile isAsciiBlank with
  | [] => none
  | c :: rest =>
    let value := rest.dropWhile isAsciiBlank
    if c == mark && !value.contains '\n' then some value else none

/-- `name = value`. -/
def assignment? (text : List Char) : Option (List Char × List Char) := do
  let (name, rest) ← identifier? text
  return (name, ← afterMark? '=' rest)

/-- `owner.name = value`. -/
def propertyLine? (text : List Char) : Option (List Char × List Char × List Char) := do
  let (owner, name, rest) ← dotted? text
  return (owner, name, ← afterMark? '=' rest)

/-- `name: values`. -/
def keyed? (text : List Char) : Option (List Char × List Char) := do
  let (name, rest) ← identifier? text
  return (name, ← afterMark? ':' rest)

/-! ## Operators -/

/-- Whether a text, given backwards, ends in an unsigned ASCII numeral and then the letter of an
exponent, with nothing in front of the numeral that could belong to it. -/
def endsInExponent : List Char → Bool
  | [] => false
  | letter :: before =>
    (letter == 'e' || letter == 'E') &&
      isPlainNumeral (before.takeWhile fun c => isWord c || c == '.').reverse

/-- Whether an operator may follow a text, given backwards: the text ends in an operand, so that
a sign after it is no sign of a number. -/
def endsInOperand (before : List Char) : Bool :=
  match before.dropWhile isBlank with
  | [] => false
  | last :: earlier => !Operator.isSymbol last && !endsInExponent (last :: earlier)

/-- The place of the first operator in the rest of a text, where `before` is the text so far,
backwards, and `depth` its depth. -/
def findOperatorFrom (before : List Char) (depth : Int) : List Char → Option Nat
  | [] => none
  | c :: cs =>
    if Operator.isSymbol c && depth == 0 && endsInOperand before then some before.length
    else findOperatorFrom (c :: before) (stepDepth depth c) cs

/-- The place of the first operator at depth zero that has an operand on its left. -/
def findOperator? (text : List Char) : Option Nat := findOperatorFrom [] 0 text

/-- The operands on both sides of the first operator, and the operator. -/
def operation? (text : List Char) : Option (List Char × Operator × List Char) := do
  let index ← findOperator? text
  let symbol ← text[index]?
  let operator ← Operator.ofSymbol? symbol
  return (text.take index, operator, text.drop (index + 1))

/-! ## Parts are shorter than the whole -/

theorem length_of_identifier? {text name rest : List Char}
    (h : identifier? text = some (name, rest)) : rest.length < text.length := by
  have whole := append_of_identifier? h
  have positive := List.length_pos_iff.2 (ne_nil_of_identifier? h)
  rw [← whole, List.length_append]
  omega

theorem length_of_enclosed? {text inside : List Char} (h : enclosed? text = some inside) :
    inside.length + 2 = text.length := by
  cases text with
  | nil => simp [enclosed?] at h
  | cons c rest =>
    rw [enclosed?] at h
    split at h
    · rename_i shape
      obtain rfl := Option.some.inj h
      have notEmpty : rest ≠ [] := by
        rintro rfl
        simp at shape
      have positive := List.length_pos_iff.2 notEmpty
      rw [List.length_dropLast, List.length_cons]
      omega
    · simp at h

theorem length_of_closed? {text inside : List Char} (h : closed? text = some inside) :
    inside.length + 2 = text.length := by
  rw [closed?] at h
  split at h
  · exact length_of_enclosed? h
  · simp at h

theorem length_of_afterDot? {text rest : List Char} (h : afterDot? text = some rest) :
    rest.length < text.length := by
  cases text with
  | nil => simp [afterDot?] at h
  | cons c cs =>
    rw [afterDot?] at h
    split at h
    · obtain rfl := Option.some.inj h
      simp
    · simp at h

theorem length_of_call? {text name inside : List Char} (h : call? text = some (name, inside)) :
    inside.length + 2 < text.length := by
  simp only [call?, Option.bind_eq_bind, Option.bind_eq_some_iff, Option.pure_def] at h
  obtain ⟨⟨name', rest⟩, named, inside', closed, same⟩ := h
  obtain ⟨rfl, rfl⟩ := Prod.mk.inj (Option.some.inj same)
  have shorter : rest.length < text.length := length_of_identifier? named
  have parts : inside'.length + 2 = rest.length := length_of_closed? closed
  omega

theorem length_of_dotted? {text owner name rest : List Char}
    (h : dotted? text = some (owner, name, rest)) : rest.length < text.length := by
  simp only [dotted?, Option.bind_eq_bind, Option.bind_eq_some_iff, Option.pure_def] at h
  obtain ⟨⟨owner', middle⟩, owned, member, dot, ⟨name', rest'⟩, named, same⟩ := h
  simp only [Option.some.injEq, Prod.mk.injEq] at same
  obtain ⟨rfl, rfl, rfl⟩ := same
  have first : middle.length < text.length := length_of_identifier? owned
  have second : member.length < middle.length := length_of_afterDot? dot
  have third : rest'.length < member.length := length_of_identifier? named
  omega

theorem length_of_memberCall? {text owner name inside : List Char}
    (h : memberCall? text = some (owner, name, inside)) : inside.length + 2 < text.length := by
  simp only [memberCall?, Option.bind_eq_bind, Option.bind_eq_some_iff, Option.pure_def] at h
  obtain ⟨⟨owner', name', rest⟩, dotted, inside', closed, same⟩ := h
  simp only [Option.some.injEq, Prod.mk.injEq] at same
  obtain ⟨rfl, rfl, rfl⟩ := same
  have shorter : rest.length < text.length := length_of_dotted? dotted
  have parts : inside'.length + 2 = rest.length := length_of_closed? closed
  omega

theorem length_of_operation? {text left right : List Char} {operator : Operator}
    (h : operation? text = some (left, operator, right)) :
    left.length < text.length ∧ right.length < text.length := by
  simp only [operation?, Option.bind_eq_bind, Option.bind_eq_some_iff, Option.pure_def] at h
  obtain ⟨index, _, symbol, at_index, _, _, same⟩ := h
  simp only [Option.some.injEq, Prod.mk.injEq] at same
  obtain ⟨rfl, rfl, rfl⟩ := same
  have inside : index < text.length := by
    rw [List.getElem?_eq_some_iff] at at_index
    exact at_index.1
  simp only [List.length_take, List.length_drop]
  omega

example : findOperator? "1e-3 - 2".toList = some 5 := by decide +kernel

example : call? "f(x) + g(y)".toList = none := by decide +kernel

end Shape
end LiveVectors

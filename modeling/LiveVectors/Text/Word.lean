/-!
# Identifiers

An identifier is a letter or an underscore and then word characters: letters, digits and
underscores.  All of them are ASCII.
-/

set_option autoImplicit false

namespace LiveVectors
namespace Text

/-- Whether a character can begin an identifier. -/
def isWordStart (c : Char) : Bool := c.isAlpha || c == '_'

/-- Whether a character can stand in an identifier. -/
def isWord (c : Char) : Bool := c.isAlphanum || c == '_'

/-- The identifier that a text begins with, as long as possible, and what follows it. -/
def identifier? : List Char → Option (List Char × List Char)
  | [] => none
  | c :: cs => if isWordStart c then some (c :: cs.takeWhile isWord, cs.dropWhile isWord) else none

/-- Whether a whole text is one identifier. -/
def isIdentifier (text : List Char) : Bool :=
  match identifier? text with
  | some (_, []) => true
  | _ => false

/-- An identifier and what follows it make up the text. -/
theorem append_of_identifier? {text name rest : List Char}
    (h : identifier? text = some (name, rest)) : name ++ rest = text := by
  cases text with
  | nil => simp [identifier?] at h
  | cons c cs =>
    simp only [identifier?] at h
    split at h
    · obtain ⟨rfl, rfl⟩ := Prod.mk.inj (Option.some.inj h)
      simp [List.takeWhile_append_dropWhile]
    · simp at h

/-- No identifier is empty. -/
theorem ne_nil_of_identifier? {text name rest : List Char}
    (h : identifier? text = some (name, rest)) : name ≠ [] := by
  cases text with
  | nil => simp [identifier?] at h
  | cons c cs =>
    simp only [identifier?] at h
    split at h
    · obtain ⟨rfl, rfl⟩ := Prod.mk.inj (Option.some.inj h)
      simp
    · simp at h

end Text
end LiveVectors

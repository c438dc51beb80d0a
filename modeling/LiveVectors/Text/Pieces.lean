/-!
# Pieces of a text

Texts are handled as lists of characters.  This file cuts a text wherever a test on characters
says so: every cut removes one character, so that putting the removed characters back between
the pieces restores the text.  A text with `n` cuts has `n + 1` pieces, empty ones included.
-/

set_option autoImplicit false

namespace LiveVectors
namespace Text

/-- Puts a character in front of the first piece; where there is no piece it becomes one. -/
def consHead (c : Char) : List (List Char) → List (List Char)
  | [] => [[c]]
  | piece :: rest => (c :: piece) :: rest

/-- The pieces of a text between the characters that `cut` selects. -/
def cutAt (cut : Char → Bool) : List Char → List (List Char)
  | [] => [[]]
  | c :: cs => if cut c then [] :: cutAt cut cs else consHead c (cutAt cut cs)

/-- The lines of a text; a line feed ends a line, and nothing else does. -/
def lines (text : List Char) : List (List Char) := cutAt (· == '\n') text

@[simp] theorem consHead_ne_nil (c : Char) (pieces : List (List Char)) :
    consHead c pieces ≠ [] := by
  cases pieces <;> simp [consHead]

/-- Every text has at least one piece. -/
theorem cutAt_ne_nil (cut : Char → Bool) (text : List Char) : cutAt cut text ≠ [] := by
  cases text with
  | nil => simp [cutAt]
  | cons c cs =>
    rw [cutAt]
    split <;> simp

end Text
end LiveVectors

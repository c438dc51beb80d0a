import LiveVectors.Text.Pieces

/-!
# Nesting of parentheses

The depth of a position is the number of opening parentheses before it less the number of
closing ones; texts need not be balanced, so it can be negative.  Separators count only at depth
zero.  `splitTopLevel` cuts a text there, and `closesAtEnd` says whether the parenthesis that
begins a text is closed by its last character.
-/

set_option autoImplicit false

namespace LiveVectors
namespace Nesting

open Text

/-- The depth after a character. -/
def stepDepth (depth : Int) (c : Char) : Int :=
  if c == '(' then depth + 1 else if c == ')' then depth - 1 else depth

/-- The depth after a text that begins at depth zero. -/
def depthAfter (text : List Char) : Int := text.foldl stepDepth 0

/-- Whether a character is a cut at this depth; a parenthesis never is. -/
def isCut (cut : Char → Bool) (depth : Int) (c : Char) : Bool :=
  depth == 0 && c != '(' && c != ')' && cut c

/-- The pieces of a text that begins at `depth` and before which `made` cuts were made.  The number
of cuts is compared with the limit after a cut, so that the limit zero is never reached; a negative
limit is none. -/
def splitFrom (cut : Char → Bool) (depth limit : Int) (made : Nat) :
    List Char → List (List Char)
  | [] => [[]]
  | c :: cs =>
    if isCut cut depth c then
      if 0 ≤ limit ∧ (made + 1 : Nat) = limit then [[], cs]
      else [] :: splitFrom cut depth limit (made + 1) cs
    else consHead c (splitFrom cut (stepDepth depth c) limit made cs)

/-- The pieces of a text between the cuts at depth zero; the limit `-1` means that every cut is
made. -/
def splitTopLevel (cut : Char → Bool) (limit : Int) (text : List Char) : List (List Char) :=
  splitFrom cut 0 limit 0 text

/-- Whether the first closing parenthesis that returns to depth zero ends the text. -/
def closesFrom (depth : Int) : List Char → Bool
  | [] => false
  | c :: cs =>
    if c == ')' && depth == 1 then cs.isEmpty else closesFrom (stepDepth depth c) cs

/-- Whether the parenthesis that begins a text is closed by the text's last character. -/
def closesAtEnd (text : List Char) : Bool := closesFrom 0 text

theorem splitFrom_ne_nil (cut : Char → Bool) (depth limit : Int) (made : Nat)
    (text : List Char) : splitFrom cut depth limit made text ≠ [] := by
  cases text with
  | nil => simp [splitFrom]
  | cons c cs =>
    rw [splitFrom]
    split
    · split <;> simp
    · simp

/-! ## Limits that are not reached -/

/-- **A limit that has been passed** is as good as none: the number of cuts only grows. -/
theorem splitFrom_of_le (cut : Char → Bool) (depth : Int) {limit : Int} {made : Nat}
    (h : limit ≤ made) (text : List Char) :
    splitFrom cut depth limit made text = splitFrom cut depth (-1) 0 text := by
  induction text generalizing depth limit made with
  | nil => rfl
  | cons c cs ih =>
    rw [splitFrom, splitFrom]
    split
    · rw [if_neg (by omega), if_neg (by omega), ih depth (show limit ≤ (made + 1 : Nat) by omega),
        ih depth (show (-1 : Int) ≤ (0 + 1 : Nat) by omega)]
    · rw [ih _ h]

/-- Cutting without a limit, read from the front. -/
theorem splitFrom_neg_one_cons (cut : Char → Bool) (depth : Int) (c : Char) (cs : List Char) :
    splitFrom cut depth (-1) 0 (c :: cs) =
      if isCut cut depth c then [] :: splitFrom cut depth (-1) 0 cs
      else consHead c (splitFrom cut (stepDepth depth c) (-1) 0 cs) := by
  have hnone : ¬ (0 ≤ (-1 : Int) ∧ (0 + 1 : Nat) = (-1 : Int)) := by omega
  rw [splitFrom, if_neg hnone, splitFrom_of_le cut depth (show (-1 : Int) ≤ (0 + 1 : Nat) by omega)]

/-! ## Pieces are no longer than the text -/

/-- The room that pieces take: their characters and one place each. -/
def room : List (List Char) → Nat
  | [] => 0
  | piece :: rest => piece.length + 1 + room rest

theorem room_consHead (c : Char) {pieces : List (List Char)} (h : pieces ≠ []) :
    room (consHead c pieces) = room pieces + 1 := by
  cases pieces with
  | nil => exact absurd rfl h
  | cons piece rest =>
    simp only [consHead, room, List.length_cons]
    omega

/-- Together the pieces take the room of the text: nothing is lost but the cuts. -/
theorem room_splitFrom (cut : Char → Bool) (depth limit : Int) (made : Nat) (text : List Char) :
    room (splitFrom cut depth limit made text) = text.length + 1 := by
  induction text generalizing depth made with
  | nil => simp [splitFrom, room]
  | cons c cs ih =>
    rw [splitFrom]
    split
    · split
      · simp only [room, List.length_nil, List.length_cons]
        omega
      · have tail := ih depth (made + 1)
        simp only [room, List.length_nil, List.length_cons] at tail ⊢
        omega
    · rw [room_consHead c (splitFrom_ne_nil _ _ _ _ _), ih, List.length_cons]

theorem room_splitTopLevel (cut : Char → Bool) (limit : Int) (text : List Char) :
    room (splitTopLevel cut limit text) = text.length + 1 :=
  room_splitFrom cut 0 limit 0 text

example : splitTopLevel (· == ',') (-1) "a,(b,c)".toList = ["a".toList, "(b,c)".toList] := by
  decide

example : closesAtEnd "(a)(b)".toList = false ∧ closesAtEnd "((a)b)".toList = true := by decide

end Nesting
end LiveVectors

import LiveVectors.Text.Pieces

/-!
# Blanks

Two notions of white space are in use.  `isBlank` is the Unicode property and decides how lines,
operands and arguments are trimmed; `isAsciiBlank` knows six characters and decides how much
space a line may have around its `=` and a modifier around its `:`.
-/

set_option autoImplicit false

namespace LiveVectors
namespace Text

/-- The Unicode white space characters, the four ASCII separators among them. -/
def isBlank (c : Char) : Bool :=
  let n := c.toNat
  (0x9 ≤ n && n ≤ 0xD) || (0x1C ≤ n && n ≤ 0x20) || n == 0x85 || n == 0xA0 || n == 0x1680 ||
    (0x2000 ≤ n && n ≤ 0x200A) || n == 0x2028 || n == 0x2029 || n == 0x202F || n == 0x205F ||
    n == 0x3000

/-- Space, tabulators, line feed, form feed and carriage return. -/
def isAsciiBlank (c : Char) : Bool :=
  c == ' ' || (0x9 ≤ c.toNat && c.toNat ≤ 0xD)

/-- Whether a text has no character other than blanks. -/
def isBlankText (text : List Char) : Bool := text.all isBlank

/-- A text without the blanks it begins with. -/
def trimStart (text : List Char) : List Char := text.dropWhile isBlank

/-- A text without the blanks it ends with. -/
def trimEnd (text : List Char) : List Char := (text.reverse.dropWhile isBlank).reverse

/-- A text without the blanks at either end. -/
def trim (text : List Char) : List Char := trimEnd (trimStart text)

/-- The longest blank-free stretches of a text, in order. -/
def words (text : List Char) : List (List Char) := (cutAt isBlank text).filter (· ≠ [])

/-! ## Trimming never lengthens a text -/

theorem length_trimStart_le (text : List Char) : (trimStart text).length ≤ text.length :=
  (List.dropWhile_sublist isBlank).length_le

theorem length_trimEnd_le (text : List Char) : (trimEnd text).length ≤ text.length := by
  rw [trimEnd, List.length_reverse]
  exact Nat.le_trans (List.dropWhile_sublist isBlank).length_le (Nat.le_of_eq List.length_reverse)

theorem length_trim_le (text : List Char) : (trim text).length ≤ text.length :=
  Nat.le_trans (length_trimEnd_le _) (length_trimStart_le text)

end Text
end LiveVectors

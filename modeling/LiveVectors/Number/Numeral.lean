import LiveVectors.Number.Binary
import LiveVectors.Text.Blank
import LiveVectors.Text.Digit

/-!
# Numerals

A numeral is an optional sign, digits with an optional point among or next to them, and an
optional exponent.  The digits may be those of any script.  `readNumeral?` accepts a text that is
one numeral, and its value is the nearest double.

Scripts write numbers as numerals of finite value (`readNumber?`).  A text that is converted to
a number later has more freedom (`coerce?`): blanks around it, single underscores between digits,
and the words for infinity and for what is not a number.
-/

set_option autoImplicit false

namespace LiveVectors
namespace Number

open Text

/-- The parts of a numeral. -/
structure Numeral where
  negative : Bool
  whole : List Char
  fraction : List Char
  exponent : Int
deriving DecidableEq, Repr

/-- The double nearest to what a numeral writes. -/
def Numeral.value (numeral : Numeral) : Float :=
  withSign numeral.negative
    (ofDecimal (digitsValue (numeral.whole ++ numeral.fraction))
      (numeral.exponent - numeral.fraction.length))

/-- A sign, if the text has one, and the rest: whether the number is negative. -/
def takeSign : List Char → Bool × List Char
  | '+' :: rest => (false, rest)
  | '-' :: rest => (true, rest)
  | rest => (false, rest)

/-- The digits before and after the point, as far as `digit` knows them, and the rest.  There is
no result for a text that begins with no digit and with no point before a digit. -/
def takeDigits? (digit : Char → Bool) (text : List Char) :
    Option (List Char × List Char × List Char) :=
  let whole := text.takeWhile digit
  match text.dropWhile digit with
  | '.' :: rest =>
    let fraction := rest.takeWhile digit
    if whole == [] && fraction == [] then none
    else some (whole, fraction, rest.dropWhile digit)
  | rest => if whole == [] then none else some (whole, [], rest)

/-- Whether a text is digits with an optional point and nothing else, all of them ASCII. -/
def isPlainNumeral (text : List Char) : Bool :=
  match takeDigits? Char.isDigit text with
  | some (_, _, []) => true
  | _ => false

/-- The exponent that a text is: nothing, or a letter, an optional sign and digits. -/
def readExponent? : List Char → Option Int
  | [] => some 0
  | letter :: rest =>
    let (negative, digits) := takeSign rest
    if (letter == 'e' || letter == 'E') && digits != [] && digits.all isDigit then
      let size : Int := digitsValue digits
      some (if negative then -size else size)
    else none

/-- The numeral that a text is. -/
def readNumeral? (text : List Char) : Option Numeral := do
  let (negative, unsigned) := takeSign text
  let (whole, fraction, rest) ← takeDigits? isDigit unsigned
  let exponent ← readExponent? rest
  return { negative, whole, fraction, exponent }

/-- The number that a script writes: a numeral between blanks whose value is finite. -/
def readNumber? (text : List Char) : Option Float := do
  let numeral ← readNumeral? (trim text)
  if numeral.value.isFinite then some numeral.value else none

/-! ## Conversion of texts -/

/-- Blanks that may surround a text to be converted: all but the ASCII separators. -/
def isPadding (c : Char) : Bool := isBlank c && !(0x1C ≤ c.toNat && c.toNat ≤ 0x1F)

/-- The text without its underscores, if each of them stands between two digits; `before` is the
character in front of the text. -/
def dropUnderscores? (before : Option Char) : List Char → Option (List Char)
  | [] => some []
  | '_' :: c :: rest =>
    if before.any isDigit && isDigit c then (dropUnderscores? (some c) rest).map (c :: ·) else none
  | c :: rest => if c == '_' then none else (dropUnderscores? (some c) rest).map (c :: ·)

/-- The value of the words that name no finite number, in any case. -/
def wordValue? (text : List Char) : Option Float :=
  let (negative, word) := takeSign text
  let lower := word.map Char.toLower
  if lower == "inf".toList || lower == "infinity".toList then some (withSign negative (1.0 / 0.0))
  else if lower == "nan".toList then some (0.0 / 0.0)
  else none

/-- The number that a text is converted to. -/
def coerce? (text : List Char) : Option Float := do
  let joined ← dropUnderscores? none text
  let bare := ((joined.dropWhile isPadding).reverse.dropWhile isPadding).reverse
  (wordValue? bare).or ((readNumeral? bare).map Numeral.value)

example : readNumber? "-1.5e2".toList = some (-150.0) := by decide +kernel

example : readNumber? "\u0663.\u0665".toList = some 3.5 := by decide +kernel

example : readNumber? "1e999".toList = none ∧ readNumber? ".".toList = none := by decide +kernel

example : coerce? " 1_0 ".toList = some 10 ∧ coerce? "1__0".toList = none := by decide +kernel

end Number
end LiveVectors

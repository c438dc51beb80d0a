import LiveVectors.Text.Printable

/-!
# Quoted text

How a text is written inside a message.  It stands between single quotes, or between double
quotes if it has single ones and no double ones.  The enclosing quote and the backslash are
escaped by a backslash, line feed, carriage return and tabulator have letters of their own, and
any other character that is not printable is written by its code point in two, four or eight
hexadecimal digits.
-/

set_option autoImplicit false

namespace LiveVectors
namespace Text

/-- The lower case hexadecimal digits of a number, as many as `width` says. -/
def hexDigits (width n : Nat) : List Char :=
  let digits := Nat.toDigits 16 n
  List.replicate (width - digits.length) '0' ++ digits

/-- The quote that encloses a text. -/
def quoteMark (text : List Char) : Char :=
  if text.contains '\'' && !text.contains '"' then '"' else '\''

/-- What stands for one character between two marks. -/
def escape (mark c : Char) : List Char :=
  if c == mark || c == '\\' then ['\\', c]
  else if c == '\n' then ['\\', 'n']
  else if c == '\r' then ['\\', 'r']
  else if c == '\t' then ['\\', 't']
  else if isPrintable c then [c]
  else if c.toNat < 0x100 then '\\' :: 'x' :: hexDigits 2 c.toNat
  else if c.toNat < 0x10000 then '\\' :: 'u' :: hexDigits 4 c.toNat
  else '\\' :: 'U' :: hexDigits 8 c.toNat

/-- The quoted form of a text. -/
def quote (text : String) : String :=
  let mark := quoteMark text.toList
  String.ofList (mark :: text.toList.flatMap (escape mark) ++ [mark])

example : quote "plain" = "'plain'" := by decide +kernel

example : quote "it's" = "\"it's\"" := by decide +kernel

example : quote "a'\"b" = "'a\\'\"b'" := by decide +kernel

example : quote "\n\u00ad\u2028" = "'\\n\\xad\\u2028'" := by decide +kernel

end Text
end LiveVectors

import LiveVectors.Text.CaseTable
import LiveVectors.Text.Ranges

/-!
# Letter case

Putting a word at the beginning of a sentence: its first character takes its title form, and
every other one its small form.  Both forms are those of Unicode, so either can be more than one
character.  The only letter whose small form depends on its neighbours is the capital sigma,
which has a form of its own at the end of a word.
-/

set_option autoImplicit false

namespace LiveVectors
namespace Text

/-- The other form of a character according to the run that covers it. -/
def formIn (runs : List CaseRun) (c : Char) : Char :=
  match runs.find? (·.covers c.toNat) with
  | some run => Char.ofNat (run.target c.toNat)
  | none => c

/-- The title form of a character. -/
def titleForm (c : Char) : List Char :=
  match titleRows.lookup c.toNat with
  | some row => row.map Char.ofNat
  | none => [formIn titleForms c]

/-- Whether the nearest character that is not skipped has case. -/
def besideCased (neighbours : List Char) : Bool :=
  ((neighbours.dropWhile (inRanges skippedRanges)).head?.map (inRanges casedRanges)).getD false

/-- The small form of a character between two texts, of which the one before it is reversed. -/
def smallForm (before : List Char) (c : Char) (after : List Char) : List Char :=
  if c == 'Σ' then [if besideCased before && !besideCased after then 'ς' else 'σ']
  else if c == 'İ' then ['i', Char.ofNat 0x307]
  else [formIn smallForms c]

/-- A text in small forms, after a text that is given in reverse. -/
def smallAfter (before : List Char) : List Char → List Char
  | [] => []
  | c :: after => smallForm before c after ++ smallAfter (c :: before) after

/-- A word as it stands at the beginning of a sentence. -/
def capitalize (word : String) : String :=
  match word.toList with
  | [] => ""
  | c :: rest => String.ofList (titleForm c ++ smallAfter [c] rest)

example : capitalize "fIELD" = "Field" := by decide +kernel

example : capitalize "ßTRASSE" = "Sstrasse" := by decide +kernel

example : capitalize "ὈΔΥΣΣΕΎΣ" = "Ὀδυσσεύς" := by decide +kernel

end Text
end LiveVectors

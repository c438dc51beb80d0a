import LiveVectors.Script.Instruction

/-!
# Whole scripts

A script is read line by line.  Blank lines and comments do not count; the others are numbered
from one and each of them gives an instruction, a diagnostic, or nothing if it has no shape of an
instruction and the options do not ask for a report.  One line never affects another.
-/

set_option autoImplicit false

namespace LiveVectors

open Text

/-- How strict reading is. -/
inductive Mode where
  | strict
  | permissive
deriving DecidableEq, Repr

/-- The options of reading. -/
structure ReadingOptions where
  mode : Mode
  /-- The text that begins a comment.  Every line begins with the empty text. -/
  commentMark : String
  /-- Whether a line of no known shape gets a diagnostic. -/
  reportUnmatched : Bool
deriving DecidableEq, Repr

namespace ReadingOptions

/-- Reading that passes over lines of no known shape. -/
def standard : ReadingOptions := ⟨.permissive, "//", false⟩

/-- The options of a mode: strict reading reports every line that it does not know. -/
def ofMode (mode : Mode) : ReadingOptions := ⟨mode, "//", mode == .strict⟩

end ReadingOptions

/-- What reading a script gives. -/
structure Document where
  instructions : List Instruction
  diagnostics : List Diagnostic
  options : ReadingOptions
deriving Repr

namespace Document

/-- Whether a trimmed line counts: it is neither empty nor a comment. -/
def counts (commentMark line : List Char) : Bool :=
  line != [] && !commentMark.isPrefixOf line

/-- The lines of a script that count, trimmed. -/
def significantLines (commentMark text : List Char) : List (List Char) :=
  ((lines text).map trim).filter (counts commentMark)

/-- Reads one line and puts its outcome in front of the outcomes of later lines. -/
def addLine (options : ReadingOptions) (line : List Char) (number : Int)
    (later : List Instruction × List Diagnostic) : List Instruction × List Diagnostic :=
  let place : Place := ⟨number, String.ofList line⟩
  match Instruction.ofChars line number with
  | .ok (some instruction) => (instruction :: later.1, later.2)
  | .ok none =>
    if options.reportUnmatched then
      let kind := DiagnosticKind.unrecognisedLine
      (later.1, .ofKind kind kind.entry.message place .parse :: later.2)
    else later
  | .error problem =>
    (later.1, .ofKind .malformedArguments problem.message place .parse :: later.2)

/-- Reads lines that are numbered from `number` on. -/
def readLines (options : ReadingOptions) :
    Int → List (List Char) → List Instruction × List Diagnostic
  | _, [] => ([], [])
  | number, line :: rest => addLine options line number (readLines options (number + 1) rest)

/-- Reads a script. -/
def read (options : ReadingOptions) (text : String) : Document :=
  let (instructions, diagnostics) :=
    readLines options 1 (significantLines options.commentMark.toList text.toList)
  { instructions, diagnostics, options }

/-- The texts of the errors of reading. -/
def errorTexts (document : Document) : List String := Diagnostic.errorTexts document.diagnostics

/-- Whether some line failed. -/
def hasErrors (document : Document) : Bool := Diagnostic.hasErrors document.diagnostics

end Document
end LiveVectors

/-!
# Diagnostics

A diagnostic tells what went wrong with one line of a script.  Its code comes from a fixed
catalogue, which also has the severity, the category and, for some codes, a hint.  Errors are
shown to the reader as one line of text each; warnings are kept but not shown among them.
-/

set_option autoImplicit false

namespace LiveVectors

/-- How serious a diagnostic is. -/
inductive Severity where
  | error
  | warning
deriving DecidableEq, Repr

/-- Whether a line failed while it was read or while it was carried out. -/
inductive Phase where
  | parse
  | run
deriving DecidableEq, Repr

/-! ## The catalogue -/

/-- The kinds of diagnostics, in the order of their codes. -/
inductive DiagnosticKind where
  | malformedArguments
  | unreadableLine
  | unrecognisedLine
  | invalidArguments
  | undefinedVariable
  | unexpectedFailure
  | unknownFunction
  | unknownMethod
  | unknownOperator
  | unknownProperty
  | unknownOption
  | unrecognisedFlag
deriving DecidableEq, Repr

/-- What the catalogue says about a kind of diagnostic. -/
structure CatalogueEntry where
  code : String
  message : String
  hint : Option String
  severity : Severity
  category : Option String
deriving DecidableEq, Repr

namespace DiagnosticKind

/-- Every kind once, in the order of their codes. -/
def all : List DiagnosticKind :=
  [malformedArguments, unreadableLine, unrecognisedLine, invalidArguments, undefinedVariable,
    unexpectedFailure, unknownFunction, unknownMethod, unknownOperator, unknownProperty,
    unknownOption, unrecognisedFlag]

/-- The catalogue. -/
def entry : DiagnosticKind → CatalogueEntry
  | unreadableLine =>
    ⟨"PARSER_LINE_FAILED", "Line could not be parsed.", none, .error, some "parser"⟩
  | unrecognisedLine =>
    ⟨"PARSER_UNRECOGNISED_LINE",
      "Line is not an assignment, property modification or method call.",
      some "Use `name = expr`, `name.property = expr` or `name.method(args)`.", .error,
      some "parser"⟩
  | malformedArguments =>
    ⟨"PARSER_INVALID_ARGUMENTS", "Malformed argument list.", none, .error, some "parser"⟩
  | undefinedVariable =>
    ⟨"RUNTIME_UNDEFINED_VARIABLE", "Variable is not defined.",
      some "Assign the variable on an earlier line before reading it.", .error, some "runtime"⟩
  | unknownMethod =>
    ⟨"RUNTIME_UNKNOWN_METHOD", "Method not found.", none, .error, some "runtime"⟩
  | unknownProperty =>
    ⟨"RUNTIME_UNKNOWN_PROPERTY", "Property not found.", none, .error, some "runtime"⟩
  | unknownFunction =>
    ⟨"RUNTIME_UNKNOWN_FUNCTION", "Unrecognised function call.",
      some "Only `Vec2(x, y)` can be called.", .error, some "runtime"⟩
  | unknownOperator =>
    ⟨"RUNTIME_UNKNOWN_OPERATOR", "Unrecognised operator.",
      some "Supported operators are `+`, `-` and `*`.", .error, some "runtime"⟩
  | unknownOption =>
    ⟨"RUNTIME_UNKNOWN_PROPERTY_FUNCTION", "Unrecognised property function.",
      some "Only `origin` is recognised.", .error, some "runtime"⟩
  | invalidArguments =>
    ⟨"RUNTIME_INVALID_ARGUMENTS", "Invalid arguments.", none, .error, some "runtime"⟩
  | unexpectedFailure =>
    ⟨"RUNTIME_UNEXPECTED_FAILURE", "Instruction failed.", none, .error, some "runtime"⟩
  | unrecognisedFlag =>
    ⟨"RUNTIME_UNRECOGNISED_FLAG", "Unrecognised property value.",
      some "Known flags are `interactive`, `reference` and `#RRGGBB` colours.", .warning,
      some "runtime"⟩

/-- The list of kinds leaves none out. -/
theorem mem_all (kind : DiagnosticKind) : kind ∈ all := by
  cases kind <;> decide

end DiagnosticKind

/-! ## Diagnostics and their text -/

/-- Where a line of a script stands: its number among the lines that count, and its text. -/
structure Place where
  line : Int
  source : String
deriving DecidableEq, Repr, Inhabited

/-- One diagnostic. -/
structure Diagnostic where
  code : String
  message : String
  place : Place
  phase : Phase
  severity : Severity
  hint : Option String
  category : Option String
deriving DecidableEq, Repr

namespace Diagnostic

/-- A diagnostic of a kind in the catalogue, with a message of its own. -/
def ofKind (kind : DiagnosticKind) (message : String) (place : Place) (phase : Phase) :
    Diagnostic where
  code := kind.entry.code
  message := message
  place := place
  phase := phase
  severity := kind.entry.severity
  hint := kind.entry.hint
  category := kind.entry.category

/-- Whether a diagnostic is an error. -/
def isError (diagnostic : Diagnostic) : Bool := diagnostic.severity == .error

/-- The line of text that shows a diagnostic. -/
def render (diagnostic : Diagnostic) : String :=
  let source := diagnostic.place.source
  match diagnostic.phase with
  | .parse =>
    "Line " ++ toString diagnostic.place.line ++ ": `" ++ source ++ "` failed. Error: " ++
      diagnostic.message
  | .run => "Error: " ++ source ++ " - " ++ diagnostic.message

/-- The texts of the errors among diagnostics. -/
def errorTexts (diagnostics : List Diagnostic) : List String :=
  (diagnostics.filter isError).map render

/-- Whether there is an error among diagnostics. -/
def hasErrors (diagnostics : List Diagnostic) : Bool := diagnostics.any isError

/-- There is an error exactly if some error is shown. -/
theorem hasErrors_iff_errorTexts (diagnostics : List Diagnostic) :
    hasErrors diagnostics = true ↔ errorTexts diagnostics ≠ [] := by
  simp [hasErrors, errorTexts, List.filter_eq_nil_iff]

/-- The errors of two lists of diagnostics are shown one list after the other. -/
theorem errorTexts_append (first second : List Diagnostic) :
    errorTexts (first ++ second) = errorTexts first ++ errorTexts second := by
  simp [errorTexts]

end Diagnostic

end LiveVectors

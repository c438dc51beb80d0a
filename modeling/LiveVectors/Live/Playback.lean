import LiveVectors.Live.Evaluation
import LiveVectors.Script.Document

/-!
# From a script to a world

Reading a script and running it, in one go.  Nothing carries over from one run to the next.
-/

set_option autoImplicit false

namespace LiveVectors

/-- The options that a host asks for: given in full, by a mode, or not at all. -/
def ReadingOptions.choose (options : Option ReadingOptions) (mode : Option Mode) :
    Except Fault ReadingOptions :=
  match options, mode with
  | some _, some _ => .error (.breakdown .optionsAndMode)
  | some options, none => .ok options
  | none, some mode => .ok (.ofMode mode)
  | none, none => .ok .standard

/-- A script that was read and run. -/
structure Playback where
  document : Document
  world : World

namespace Playback

/-- Runs the instructions of a script. -/
def ofDocument (document : Document) : Playback := ⟨document, World.run document.instructions⟩

/-- Reads a script, unless the host has read one already, and runs it. -/
def ofText (text : String) (options : Option ReadingOptions) (mode : Option Mode)
    (document : Option Document) : Except Fault Playback :=
  match document with
  | some document =>
    if options.isSome || mode.isSome then .error (.breakdown .documentAndOptions)
    else .ok (ofDocument document)
  | none => do return ofDocument (Document.read (← ReadingOptions.choose options mode) text)

/-- The diagnostics of reading and then those of running. -/
def diagnostics (playback : Playback) : List Diagnostic :=
  playback.document.diagnostics ++ playback.world.diagnostics

/-- The texts of all errors. -/
def errorTexts (playback : Playback) : List String := Diagnostic.errorTexts playback.diagnostics

/-- Whether reading or running failed somewhere. -/
def hasErrors (playback : Playback) : Bool := Diagnostic.hasErrors playback.diagnostics

end Playback
end LiveVectors

import LiveVectors.Proofs.Composition
import LiveVectors.Proofs.Lines

/-!
# Documents

A script is read line by line, and no line knows of another.  This file says so for whole scripts.

* `readLines_append` and `readLines_add` — what lines give does not depend on the lines before
  them, except for the numbers.  So reading two scripts in one is reading each of them
  (`read_by_lines`), and changes that leave the lines that count as they are leave everything as
  it is.
* `places` — where the lines that count stand.  Each of them gives at most one instruction or one
  diagnostic, in order (`sublist_places`), and exactly one if unknown lines are reported
  (`perm_places`).
* `read_strict` — what strict reading gives, compared with permissive reading.
-/

set_option autoImplicit false

namespace LiveVectors

open Text

/-! ## Moving down -/

/-- The place `k` lines further down. -/
def Place.down (k : Nat) (place : Place) : Place := { place with line := place.line + k }

/-- The instruction `k` lines further down. -/
def Instruction.down (k : Nat) (instruction : Instruction) : Instruction :=
  { instruction with place := instruction.place.down k }

/-- The diagnostic `k` lines further down. -/
def Diagnostic.down (k : Nat) (diagnostic : Diagnostic) : Diagnostic :=
  { diagnostic with place := diagnostic.place.down k }

/-- A line knows its number, and nothing else depends on it. -/
theorem Instruction.ofChars_add (line : List Char) (number : Int) (k : Nat) :
    Instruction.ofChars line (number + k) =
      (Instruction.ofChars line number).map (Option.map (Instruction.down k)) := by
  unfold Instruction.ofChars
  rcases Statement.ofChars line with problem | _ | statement <;> rfl

/-- An instruction stands where its line stands. -/
theorem Instruction.place_of_ofChars {line : List Char} {number : Int} {instruction : Instruction}
    (h : Instruction.ofChars line number = .ok (some instruction)) :
    instruction.place = ⟨number, String.ofList line⟩ := by
  unfold Instruction.ofChars at h
  rcases hstatement : Statement.ofChars line with problem | _ | statement <;>
    rw [hstatement] at h <;> cases h
  rfl

namespace Document

/-! ## Lines by themselves -/

/-- What a line gives comes in front of what later lines give. -/
theorem addLine_append (options : ReadingOptions) (line : List Char) (number : Int)
    (first second : List Instruction × List Diagnostic) :
    addLine options line number (first.1 ++ second.1, first.2 ++ second.2) =
      ((addLine options line number first).1 ++ second.1,
        (addLine options line number first).2 ++ second.2) := by
  unfold addLine
  rcases Instruction.ofChars line number with problem | _ | instruction
  · rfl
  · cases options.reportUnmatched <;> rfl
  · rfl

/-- **Lines are read one after the other**: the later ones start with the next number. -/
theorem readLines_append (options : ReadingOptions) (number : Int)
    (first second : List (List Char)) :
    readLines options number (first ++ second) =
      ((readLines options number first).1 ++
          (readLines options (number + first.length) second).1,
        (readLines options number first).2 ++
          (readLines options (number + first.length) second).2) := by
  induction first generalizing number with
  | nil => simp [readLines]
  | cons line rest ih =>
    have hnumber : number + 1 + (rest.length : Int) = number + ((line :: rest).length : Int) := by
      rw [List.length_cons]
      omega
    rw [List.cons_append, readLines, readLines, ih, addLine_append, hnumber]

theorem addLine_add (options : ReadingOptions) (line : List Char) (number : Int) (k : Nat)
    (later : List Instruction × List Diagnostic) :
    addLine options line (number + k)
        (later.1.map (Instruction.down k), later.2.map (Diagnostic.down k)) =
      ((addLine options line number later).1.map (Instruction.down k),
        (addLine options line number later).2.map (Diagnostic.down k)) := by
  unfold addLine
  rw [Instruction.ofChars_add]
  rcases Instruction.ofChars line number with problem | _ | instruction
  · rfl
  · cases options.reportUnmatched <;> rfl
  · rfl

/-- **Lines that are numbered from further down give the same further down.** -/
theorem readLines_add (options : ReadingOptions) (number : Int) (k : Nat)
    (lines : List (List Char)) :
    readLines options (number + k) lines =
      ((readLines options number lines).1.map (Instruction.down k),
        (readLines options number lines).2.map (Diagnostic.down k)) := by
  induction lines generalizing number with
  | nil => rfl
  | cons line rest ih =>
    have hnumber : number + k + 1 = number + 1 + k := by omega
    rw [readLines, readLines, hnumber, ih, addLine_add]

/-- **Two scripts in one are read one after the other.** -/
theorem readLines_significantLines_append (options : ReadingOptions)
    (mark first second : List Char) :
    readLines options 1 (significantLines mark (first ++ '\n' :: second)) =
      ((readLines options 1 (significantLines mark first)).1 ++
          (readLines options 1 (significantLines mark second)).1.map
            (Instruction.down (significantLines mark first).length),
        (readLines options 1 (significantLines mark first)).2 ++
          (readLines options 1 (significantLines mark second)).2.map
            (Diagnostic.down (significantLines mark first).length)) := by
  rw [significantLines_append, readLines_append, readLines_add]

/-- What is read depends on nothing but the lines that count. -/
theorem read_congr {options : ReadingOptions} {text text' : String}
    (h : significantLines options.commentMark.toList text'.toList =
      significantLines options.commentMark.toList text.toList) :
    read options text' = read options text := by
  rw [read, read, h]

/-- **No line affects another**, whatever the texts and the options are.  Two texts with a line
feed between them give the instructions and diagnostics of the one and then those of the other,
numbered after the lines of the first one that count.  Blanks at the ends of lines, blank lines,
comments and carriage returns before line feeds make no difference. -/
theorem read_by_lines (options : ReadingOptions) :
    (∀ first second : String,
      (read options (first ++ "\n" ++ second)).instructions =
        (read options first).instructions ++ (read options second).instructions.map
          (Instruction.down
            (significantLines options.commentMark.toList first.toList).length) ∧
      (read options (first ++ "\n" ++ second)).diagnostics =
        (read options first).diagnostics ++ (read options second).diagnostics.map
          (Diagnostic.down
            (significantLines options.commentMark.toList first.toList).length)) ∧
    (∀ text text' : String,
      Respaced options.commentMark.toList (lines text.toList) (lines text'.toList) →
      read options text' = read options text) ∧
    ∀ text : String,
      read options (String.ofList (carriageReturns text.toList)) = read options text := by
  refine ⟨?_, ?_, ?_⟩
  · intro first second
    have htext : (first ++ "\n" ++ second).toList = first.toList ++ '\n' :: second.toList := by
      simp
    have hread := readLines_significantLines_append options options.commentMark.toList
      first.toList second.toList
    simp only [read, htext, hread, and_self]
  · intro text text' h
    exact read_congr h.significantLines_eq
  · intro text
    refine read_congr ?_
    rw [String.toList_ofList]
    exact (respaced_carriageReturns _ text.toList).significantLines_eq

/-- A script of one line, which binds a name to a number. -/
theorem read_numberLine :
    read .standard "a = 1" =
      ⟨[⟨.assign "a" (.number 1) [], ⟨1, "a = 1"⟩⟩], [], .standard⟩ := by
  have hlines : significantLines "//".toList "a = 1".toList = ["a = 1".toList] := by decide
  have hvalue : Expression.ofChars ['1'] = .ok (.number 1) :=
    Expression.ReadAs.ofChars_eq (.number (by decide +kernel))
  have hsegment : Nesting.Segment (· ≠ ',') ['1'] := ⟨.of_forall (by simp), by simp⟩
  have hstatement : Statement.ofChars "a = 1".toList = .ok (some (.assign "a" (.number 1) [])) := by
    refine (Statement.ofChars_assignmentLine (show isIdentifier ['a'] = true from rfl) hsegment
      (List.forall_mem_nil _)).trans ?_
    rw [hvalue]
    rfl
  have hline : Instruction.ofChars "a = 1".toList 1 =
      .ok (some ⟨.assign "a" (.number 1) [], ⟨1, "a = 1"⟩⟩) := by
    rw [Instruction.ofChars, hstatement]
    rfl
  simp only [read, ReadingOptions.standard, hlines, readLines, addLine, hline]

/-- Blanks around the one line of a script and a comment after it make no difference: it binds the
same name to the same number, on the first line that counts. -/
theorem read_respaced_note :
    Respaced "//".toList (lines "a = 1".toList) (lines "\ta = 1\r\n// note".toList) ∧
      read .standard "\ta = 1\r\n// note" = read .standard "a = 1" ∧
      read .standard "\ta = 1\r\n// note" =
        ⟨[⟨.assign "a" (.number 1) [], ⟨1, "a = 1"⟩⟩], [], .standard⟩ := by
  have hline : lines "a = 1".toList = ["a = 1".toList] := by decide
  have hlines : lines "\ta = 1\r\n// note".toList =
      [['\t'] ++ ("a = 1".toList ++ ['\r']), "// note".toList] := by decide
  have hrespaced : Respaced "//".toList (lines "a = 1".toList)
      (lines "\ta = 1\r\n// note".toList) := by
    rw [hline, hlines]
    exact .line (List.forall_mem_singleton.2 rfl) (List.forall_mem_singleton.2 rfl)
      (.extra (.inr (by decide)) .nil)
  have hread := (read_by_lines .standard).2.1 _ _ hrespaced
  exact ⟨hrespaced, hread, hread.trans read_numberLine⟩

/-! ## Places -/

/-- Where lines stand that are numbered from `number` on. -/
def places : Int → List (List Char) → List Place
  | _, [] => []
  | number, line :: rest => ⟨number, String.ofList line⟩ :: places (number + 1) rest

theorem map_line_places (number : Int) (lines : List (List Char)) :
    (places number lines).map Place.line =
      (List.range lines.length).map fun i : Nat => number + (i : Int) := by
  induction lines generalizing number with
  | nil => rfl
  | cons line rest ih =>
    rw [places, List.map_cons, ih, List.length_cons, List.range_succ_eq_map, List.map_cons,
      List.map_map]
    congr 1
    · simp
    · refine List.map_congr_left fun i _ => ?_
      simp only [Function.comp_apply]
      omega

/-- A place among those of lines has the number and the text of one of them. -/
theorem getElem?_of_mem_places {number : Int} {lines : List (List Char)} {place : Place}
    (h : place ∈ places number lines) :
    ∃ i : Nat, place.line = number + i ∧ (lines.map String.ofList)[i]? = some place.source := by
  induction lines generalizing number with
  | nil => simp [places] at h
  | cons line rest ih =>
    rcases List.mem_cons.1 h with rfl | h
    · exact ⟨0, by simp, by simp⟩
    · obtain ⟨i, hline, hsource⟩ := ih h
      refine ⟨i + 1, ?_, hsource⟩
      omega

/-- Numbers grow from line to line. -/
theorem pairwise_places (number : Int) (lines : List (List Char)) :
    (places number lines).Pairwise fun p q => p.line < q.line := by
  refine List.pairwise_map.1 ?_
  rw [map_line_places, List.pairwise_map]
  exact List.pairwise_lt_range.imp fun h => by omega

/-- **All that a line can give**: an instruction, an error, or, if unknown lines are not reported,
nothing. -/
theorem addLine_cases (options : ReadingOptions) (line : List Char) (number : Int)
    (later : List Instruction × List Diagnostic) :
    (∃ instruction, instruction.place = ⟨number, String.ofList line⟩ ∧
        addLine options line number later = (instruction :: later.1, later.2)) ∨
      (∃ diagnostic, diagnostic.place = ⟨number, String.ofList line⟩ ∧
        diagnostic.isError = true ∧
        addLine options line number later = (later.1, diagnostic :: later.2)) ∨
      options.reportUnmatched = false ∧ addLine options line number later = later := by
  unfold addLine
  rcases hline : Instruction.ofChars line number with problem | _ | instruction
  · exact .inr (.inl ⟨_, rfl, rfl, rfl⟩)
  · cases hreport : options.reportUnmatched with
    | true => exact .inr (.inl ⟨_, rfl, rfl, rfl⟩)
    | false => exact .inr (.inr ⟨rfl, rfl⟩)
  · exact .inl ⟨instruction, Instruction.place_of_ofChars hline, rfl⟩

/-- **Instructions and diagnostics stand in the order of their lines**, at most one of each kind
for a line. -/
theorem sublist_places (options : ReadingOptions) (number : Int) (lines : List (List Char)) :
    ((readLines options number lines).1.map Instruction.place).Sublist (places number lines) ∧
      ((readLines options number lines).2.map Diagnostic.place).Sublist
        (places number lines) := by
  induction lines generalizing number with
  | nil => exact ⟨.slnil, .slnil⟩
  | cons line rest ih =>
    obtain ⟨hinstructions, hdiagnostics⟩ := ih (number + 1)
    rw [readLines, places]
    rcases addLine_cases options line number (readLines options (number + 1) rest) with
      ⟨instruction, hplace, heq⟩ | ⟨diagnostic, hplace, -, heq⟩ | ⟨-, heq⟩ <;> rw [heq]
    · rw [List.map_cons, hplace]
      exact ⟨hinstructions.cons_cons _, hdiagnostics.cons _⟩
    · rw [List.map_cons, hplace]
      exact ⟨hinstructions.cons _, hdiagnostics.cons_cons _⟩
    · exact ⟨hinstructions.cons _, hdiagnostics.cons _⟩

/-- **No line is lost and none is used twice** where unknown lines are reported. -/
theorem perm_places {options : ReadingOptions} (h : options.reportUnmatched = true)
    (number : Int) (lines : List (List Char)) :
    ((readLines options number lines).1.map Instruction.place ++
      (readLines options number lines).2.map Diagnostic.place).Perm (places number lines) := by
  induction lines generalizing number with
  | nil => exact .nil
  | cons line rest ih =>
    rw [readLines, places]
    rcases addLine_cases options line number (readLines options (number + 1) rest) with
      ⟨instruction, hplace, heq⟩ | ⟨diagnostic, hplace, -, heq⟩ | ⟨hreport, -⟩
    · rw [heq, List.map_cons, hplace, List.cons_append]
      exact (ih (number + 1)).cons _
    · rw [heq, List.map_cons, hplace]
      exact List.perm_middle.trans ((ih (number + 1)).cons _)
    · rw [h] at hreport
      cases hreport

/-- Whatever reading reports is an error. -/
theorem isError_of_mem_readLines {options : ReadingOptions} {number : Int}
    {lines : List (List Char)} {diagnostic : Diagnostic}
    (h : diagnostic ∈ (readLines options number lines).2) : diagnostic.isError = true := by
  induction lines generalizing number with
  | nil => simp [readLines] at h
  | cons line rest ih =>
    rw [readLines] at h
    rcases addLine_cases options line number (readLines options (number + 1) rest) with
      ⟨_, -, heq⟩ | ⟨found, -, herror, heq⟩ | ⟨-, heq⟩ <;> rw [heq] at h
    · exact ih h
    · rcases List.mem_cons.1 h with rfl | h
      · exact herror
      · exact ih h
    · exact ih h

/-- A script has errors exactly if something is reported. -/
theorem hasErrors_read_iff (options : ReadingOptions) (text : String) :
    (read options text).hasErrors = true ↔ (read options text).diagnostics ≠ [] := by
  rw [hasErrors, Diagnostic.hasErrors, List.any_eq_true]
  constructor
  · rintro ⟨diagnostic, hmem, -⟩
    exact List.ne_nil_of_mem hmem
  · intro hne
    obtain ⟨diagnostic, hmem⟩ := List.exists_mem_of_ne_nil _ hne
    exact ⟨diagnostic, hmem, isError_of_mem_readLines hmem⟩

/-! ## Strict and permissive reading -/

/-- Whether a diagnostic is about something else than a line of unknown shape. -/
def knowsLine (diagnostic : Diagnostic) : Bool :=
  diagnostic.code != DiagnosticKind.unrecognisedLine.entry.code

/-- The code of a diagnostic tells whether it is about a line of unknown shape. -/
theorem knowsLine_ofKind (kind : DiagnosticKind) (message : String) (place : Place)
    (phase : Phase) :
    knowsLine (.ofKind kind message place phase) = (kind != .unrecognisedLine) := by
  change (kind.entry.code != DiagnosticKind.unrecognisedLine.entry.code) = _
  cases kind <;> decide

/-- **Reporting unknown lines adds those reports and nothing else.** -/
theorem readLines_unreported {strict permissive : ReadingOptions}
    (hstrict : strict.reportUnmatched = true) (hpermissive : permissive.reportUnmatched = false)
    (number : Int) (lines : List (List Char)) :
    readLines permissive number lines =
      ((readLines strict number lines).1, (readLines strict number lines).2.filter knowsLine) := by
  induction lines generalizing number with
  | nil => rfl
  | cons line rest ih =>
    rw [readLines, readLines, ih]
    unfold addLine
    rw [hstrict, hpermissive]
    rcases Instruction.ofChars line number with problem | _ | instruction
    · dsimp only
      rw [List.filter_cons_of_pos (by rw [knowsLine_ofKind]; rfl)]
    · dsimp only
      rw [if_pos rfl, List.filter_cons_of_neg (by rw [knowsLine_ofKind]; decide)]
      rfl
    · rfl

/-- **Strict reading loses no line.**  It gives the instructions that permissive reading gives, and
permissive reading reports the same but for lines of unknown shape.  Each line that counts is the
line of exactly one instruction or diagnostic, which has its number and its text; both come in the
order of the lines; and there are errors exactly if something is reported. -/
theorem read_strict (text : String) :
    (read (.ofMode .strict) text).instructions =
      (read (.ofMode .permissive) text).instructions ∧
    (read (.ofMode .permissive) text).diagnostics =
      (read (.ofMode .strict) text).diagnostics.filter
        (fun diagnostic => diagnostic.code != DiagnosticKind.unrecognisedLine.entry.code) ∧
    ((read (.ofMode .strict) text).instructions.map (·.place.line) ++
        (read (.ofMode .strict) text).diagnostics.map (·.place.line)).Perm
      ((List.range (significantLines "//".toList text.toList).length).map
        fun i : Nat => 1 + (i : Int)) ∧
    (read (.ofMode .strict) text).instructions.Pairwise (·.place.line < ·.place.line) ∧
    (read (.ofMode .strict) text).diagnostics.Pairwise (·.place.line < ·.place.line) ∧
    (∀ place ∈ (read (.ofMode .strict) text).instructions.map Instruction.place ++
        (read (.ofMode .strict) text).diagnostics.map Diagnostic.place,
      ∃ i : Nat, place.line = 1 + i ∧
        ((significantLines "//".toList text.toList).map String.ofList)[i]? = some place.source) ∧
    ((read (.ofMode .strict) text).hasErrors = true ↔
      (read (.ofMode .strict) text).diagnostics ≠ []) := by
  have hstrict : (ReadingOptions.ofMode .strict).reportUnmatched = true := rfl
  have hpermissive : (ReadingOptions.ofMode .permissive).reportUnmatched = false := rfl
  have hunreported := readLines_unreported hstrict hpermissive 1
    (significantLines "//".toList text.toList)
  have hperm := perm_places hstrict 1 (significantLines "//".toList text.toList)
  obtain ⟨hinstructions, hdiagnostics⟩ := sublist_places (.ofMode .strict) 1
    (significantLines "//".toList text.toList)
  have horder := pairwise_places 1 (significantLines "//".toList text.toList)
  refine ⟨?_, ?_, ?_, ?_, ?_, ?_, hasErrors_read_iff _ text⟩
  · exact (congrArg Prod.fst hunreported).symm
  · exact congrArg Prod.snd hunreported
  · have hlines := hperm.map Place.line
    rwa [List.map_append, List.map_map, List.map_map, map_line_places] at hlines
  · have hplaces := horder.sublist hinstructions
    rwa [List.pairwise_map] at hplaces
  · have hplaces := horder.sublist hdiagnostics
    rwa [List.pairwise_map] at hplaces
  · intro place hplace
    exact getElem?_of_mem_places (hperm.mem_iff.1 hplace)

/-- Of two lines the second one has no known shape.  Strict reading reports it, with its number and
its text, and so there is an error. -/
theorem read_strict_unknown_line :
    (⟨2, "?"⟩ : Place) ∈
      (read (.ofMode .strict) "a = 1\n?").instructions.map Instruction.place ++
        (read (.ofMode .strict) "a = 1\n?").diagnostics.map Diagnostic.place ∧
    (∃ i : Nat, (2 : Int) = 1 + i ∧
      ((significantLines "//".toList "a = 1\n?".toList).map String.ofList)[i]? = some "?") ∧
    (read (.ofMode .strict) "a = 1\n?").hasErrors = true := by
  have hmem : (⟨2, "?"⟩ : Place) ∈
      (read (.ofMode .strict) "a = 1\n?").instructions.map Instruction.place ++
        (read (.ofMode .strict) "a = 1\n?").diagnostics.map Diagnostic.place := by decide +kernel
  obtain ⟨-, -, -, -, -, hplace, herrors⟩ := read_strict "a = 1\n?"
  exact ⟨hmem, hplace _ hmem, herrors.2 (by decide +kernel)⟩

end Document
end LiveVectors

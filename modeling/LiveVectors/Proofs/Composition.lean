import LiveVectors.Proofs.Readings
import LiveVectors.Script.Instruction

/-!
# Lines put together from parts

A line is read by its outer shape, and what is inside goes to readers of its own.  This file says
so for lines that are put together: whatever the parts are, the line is read as the statement of
what the parts are read as, and the first part that cannot be read is the problem of the line.

* `Statement.methodLine`, `Statement.propertyLine` and `Statement.assignmentLine` — the three kinds
  of lines, written from their parts.
* `Statement.splitDefinition_cases` — cutting a definition at its first comma and then its modifiers
  is the same as cutting it everywhere.
* `Instruction.ofChars_composed` — the result.
-/

set_option autoImplicit false

namespace LiveVectors

open Text Nesting

/-! ## Readers of several parts -/

theorem Expression.allOfChars_eq_mapM (texts : List (List Char)) :
    allOfChars texts = texts.mapM ofChars := by
  induction texts with
  | nil => rw [allOfChars, List.mapM_nil]; rfl
  | cons text rest ih => rw [allOfChars, List.mapM_cons, ih]

theorem Modifier.allOfChars_eq_mapM (tokens : List (List Char)) :
    allOfChars tokens = tokens.mapM ofChars := by
  induction tokens with
  | nil => rw [allOfChars, List.mapM_nil]; rfl
  | cons token rest ih => rw [allOfChars, List.mapM_cons, ih]

theorem isBlank_of_isAsciiBlank {c : Char} (h : isAsciiBlank c = true) : isBlank c = true := by
  simp only [isAsciiBlank, Bool.or_eq_true, beq_iff_eq, Bool.and_eq_true, decide_eq_true_eq] at h
  rcases h with rfl | h
  · rfl
  · simp [isBlank, h.1, h.2]

namespace Statement

/-! ## Lines -/

/-- The line `owner.method(argument,argument)`. -/
def methodLine (owner method : List Char) (arguments : List (List Char)) : List Char :=
  owner ++ '.' :: (method ++ '(' :: ([','].intercalate arguments ++ [')']))

/-- The line `owner.property = value`. -/
def propertyLine (owner property value : List Char) : List Char :=
  owner ++ '.' :: (property ++ ' ' :: '=' :: ' ' :: value)

/-- The line `name = value,modifier,modifier`. -/
def assignmentLine (name value : List Char) (modifiers : List (List Char)) : List Char :=
  name ++ ' ' :: '=' :: ' ' :: [','].intercalate (value :: modifiers)

theorem afterMark?_eq {value : List Char} (h : '\n' ∉ value) :
    Shape.afterMark? '=' (' ' :: '=' :: ' ' :: value) = some (value.dropWhile isAsciiBlank) := by
  have hline : '\n' ∉ value.dropWhile isAsciiBlank := fun hmem =>
    h ((List.dropWhile_sublist isAsciiBlank).mem hmem)
  have hskip : isAsciiBlank ' ' = true := rfl
  have hmark : isAsciiBlank '=' = false := rfl
  simp [Shape.afterMark?, hskip, hmark, hline]

/-- Blanks in front of a value do not matter. -/
theorem trim_dropWhile_isAsciiBlank (value : List Char) :
    trim (value.dropWhile isAsciiBlank) = trim value := by
  have hblank : ∀ c ∈ value.takeWhile isAsciiBlank, isBlank c = true := fun c hc =>
    isBlank_of_isAsciiBlank (List.mem_takeWhile_imp hc)
  have htrim := trim_append hblank (value.dropWhile isAsciiBlank) (List.forall_mem_nil _)
  rwa [List.append_nil, List.takeWhile_append_dropWhile, eq_comm] at htrim

/-! ## Definitions -/

/-- No blank is a comma. -/
theorem comma_of_isBlank (c : Char) (h : isBlank c = true) : (c == ',') = false := by
  rw [beq_eq_false_iff_ne]
  rintro rfl
  cases h

/-- **A definition is cut once**, at its first comma, and its modifiers are cut later.  What comes
of it is the trimmed first piece of the definition and the modifiers that the others are. -/
theorem splitDefinition_cases (definition : List Char) :
    ∃ main parts, splitTopLevel (· == ',') (-1) definition = main :: parts ∧
      (splitDefinition definition).1 = trim main ∧
      Modifier.listOfChars (splitDefinition definition).2 =
        Modifier.allOfChars ((parts.map trim).filter (· ≠ [])) := by
  rcases splitTopLevel_one_cases (· == ',') definition with ⟨hall, hone⟩ | ⟨main, rest, hall, hone⟩
  · refine ⟨definition, [], hall, ?_, ?_⟩ <;> rw [splitDefinition, hone]
    rfl
  · refine ⟨main, splitTopLevel (· == ',') (-1) rest, hall, ?_, ?_⟩ <;> rw [splitDefinition, hone]
    rw [Modifier.listOfChars, map_trim_splitTopLevel_trim comma_of_isBlank]

/-! ## What lines are read as -/

variable {owner name : List Char}

theorem ofChars_methodLine (howner : isIdentifier owner = true) (hname : isIdentifier name = true)
    {arguments : List (List Char)}
    (h : ∀ text ∈ arguments, Segment (· ≠ ',') text ∧ isBlankText text = false) :
    ofChars (methodLine owner name arguments) = do
      return some (.callMethod (String.ofList owner) (String.ofList name)
        (← arguments.mapM Expression.ofChars)) := by
  have hinside : Segment (fun _ => True) ([','].intercalate arguments) :=
    Segment.intercalate (.cons (by decide) (by decide) (by decide) trivial segment_nil)
      fun text htext => (h text htext).1.mono fun _ _ => trivial
  have hparts : Shape.memberCall? (methodLine owner name arguments) =
      some (owner, name, [','].intercalate arguments) :=
    Shape.memberCall?_eq_some_iff.2 ⟨howner, hname, hinside, rfl⟩
  have hsolid : arguments.any isBlankText = false := by
    simpa using fun text htext => (h text htext).2
  rw [ofChars, hparts]
  simp only [Expression.argumentsOfChars_eq, Expression.argumentTexts_intercalate h, hsolid,
    Expression.allOfChars_eq_mapM, Bool.false_eq_true, if_false]

theorem ofChars_propertyLine (howner : isIdentifier owner = true) (hname : isIdentifier name = true)
    {value : List Char} (h : '\n' ∉ value) :
    ofChars (propertyLine owner name value) = do
      return some (.setProperty (String.ofList owner) (String.ofList name)
        (← Expression.ofChars value)) := by
  have hdotted : Shape.dotted? (propertyLine owner name value) =
      some (owner, name, ' ' :: '=' :: ' ' :: value) :=
    Shape.dotted?_append howner hname (by rintro c ⟨⟩; rfl)
  have hcall : Shape.memberCall? (propertyLine owner name value) = none := by
    have hopen : Shape.closed? (' ' :: '=' :: ' ' :: value) = none :=
      Shape.closed?_eq_none (by simp)
    simp [Shape.memberCall?, hdotted, hopen]
  have hproperty : Shape.propertyLine? (propertyLine owner name value) =
      some (owner, name, value.dropWhile isAsciiBlank) := by
    rw [Shape.propertyLine?, hdotted]
    simp [afterMark?_eq h]
  have hvalue : Expression.ofChars (value.dropWhile isAsciiBlank) = Expression.ofChars value := by
    rw [← Expression.ofChars_trim, trim_dropWhile_isAsciiBlank, Expression.ofChars_trim]
  rw [ofChars, hcall]
  simp only [hproperty, hvalue]

theorem ofChars_assignmentLine (hname : isIdentifier name = true) {value : List Char}
    {modifiers : List (List Char)} (hvalue : Segment (· ≠ ',') value)
    (hmodifiers : ∀ text ∈ modifiers, Segment (· ≠ ',') text) :
    ofChars (assignmentLine name value modifiers) = do
      let value ← Expression.ofChars value
      let modifiers ← ((modifiers.map trim).filter (· ≠ [])).mapM Modifier.ofChars
      return some (.assign (String.ofList name) value modifiers) := by
  have hword : identifier? (assignmentLine name value modifiers) =
      some (name, ' ' :: '=' :: ' ' :: [','].intercalate (value :: modifiers)) :=
    identifier?_append hname (by rintro c ⟨⟩; rfl)
  have hdotted : Shape.dotted? (assignmentLine name value modifiers) = none := by
    rw [Shape.dotted?, hword]
    rfl
  have hcall : Shape.memberCall? (assignmentLine name value modifiers) = none := by
    rw [Shape.memberCall?, hdotted]
    rfl
  have hproperty : Shape.propertyLine? (assignmentLine name value modifiers) = none := by
    rw [Shape.propertyLine?, hdotted]
    rfl
  have hparts : ∀ text ∈ value :: modifiers, Segment (· ≠ ',') text :=
    List.forall_mem_cons.2 ⟨hvalue, hmodifiers⟩
  have hwhole : Segment (fun _ => True) ([','].intercalate (value :: modifiers)) :=
    Segment.intercalate (.cons (by decide) (by decide) (by decide) trivial segment_nil)
      fun text htext => (hparts text htext).mono fun _ _ => trivial
  have hassignment : Shape.assignment? (assignmentLine name value modifiers) =
      some (name, ([','].intercalate (value :: modifiers)).dropWhile isAsciiBlank) := by
    rw [Shape.assignment?, hword]
    simp [afterMark?_eq hwhole.unbroken]
  obtain ⟨main, parts, hsplit, hmain, hlist⟩ :=
    splitDefinition_cases (([','].intercalate (value :: modifiers)).dropWhile isAsciiBlank)
  -- the blanks after the mark are gone from the first piece, but trimming takes them away anyway
  have htrimmed : (main :: parts).map trim = (value :: modifiers).map trim := by
    rw [← hsplit, ← map_trim_splitTopLevel_trim comma_of_isBlank, trim_dropWhile_isAsciiBlank,
      map_trim_splitTopLevel_trim comma_of_isBlank,
      splitTopLevel_intercalate rfl (fun c hc => by simpa using hc) (List.cons_ne_nil _ _)
        fun text htext => (hparts text htext).balanced]
  obtain ⟨hfirst, hothers⟩ := List.cons.inj htrimmed
  rw [ofChars, hcall, hproperty, hassignment]
  simp only [hmain, hlist, hfirst, hothers, Expression.ofChars_trim,
    Modifier.allOfChars_eq_mapM]

end Statement

/-- **Lines are read part by part.**  A method call is read as the call of what its arguments are
read as, a property line as the write of what its value is read as, and an assignment as that of
what its value and those of its modifiers that are not blank are read as.  The first part that
cannot be read gives the problem of the line. -/
theorem Instruction.ofChars_composed {owner name : List Char} (howner : isIdentifier owner = true)
    (hname : isIdentifier name = true) (number : Int) :
    (∀ arguments : List (List Char),
      (∀ text ∈ arguments, Segment (· ≠ ',') text ∧ isBlankText text = false) →
        let line := Statement.methodLine owner name arguments
        ofChars line number = do
          let arguments ← arguments.mapM Expression.ofChars
          return some ⟨.callMethod (String.ofList owner) (String.ofList name) arguments,
            number, String.ofList line⟩) ∧
    (∀ value : List Char, '\n' ∉ value →
      let line := Statement.propertyLine owner name value
      ofChars line number = do
        let value ← Expression.ofChars value
        return some ⟨.setProperty (String.ofList owner) (String.ofList name) value,
          number, String.ofList line⟩) ∧
    ∀ (value : List Char) (modifiers : List (List Char)), Segment (· ≠ ',') value →
      (∀ text ∈ modifiers, Segment (· ≠ ',') text) →
        let line := Statement.assignmentLine owner value modifiers
        ofChars line number = do
          let value ← Expression.ofChars value
          let modifiers ← ((modifiers.map trim).filter (· ≠ [])).mapM Modifier.ofChars
          return some
            ⟨.assign (String.ofList owner) value modifiers, number, String.ofList line⟩ := by
  refine ⟨fun arguments h => ?_, fun value h => ?_, fun value modifiers hvalue hmodifiers => ?_⟩
  · dsimp only
    rw [ofChars, Statement.ofChars_methodLine howner hname h]
    rcases arguments.mapM Expression.ofChars with problem | given <;> rfl
  · dsimp only
    rw [ofChars, Statement.ofChars_propertyLine howner hname h]
    rcases Expression.ofChars value with problem | given <;> rfl
  · dsimp only
    rw [ofChars, Statement.ofChars_assignmentLine howner hvalue hmodifiers]
    rcases Expression.ofChars value with problem | given
    · rfl
    rcases ((modifiers.map trim).filter (· ≠ [])).mapM Modifier.ofChars with problem | options
    · rfl
    · rfl

/-- A method call of two arguments, and an assignment that has a problem in its value and another
one in its modifier. -/
theorem Instruction.ofChars_composed_pair :
    isIdentifier ['v'] = true ∧ isIdentifier ['m'] = true ∧
      (∀ text ∈ [['a'], [' ', 'b', '.', 'x']],
        Segment (· ≠ ',') text ∧ isBlankText text = false) ∧
      Segment (· ≠ ',') ['1', '+'] ∧ Segment (· ≠ ',') ['f', '(', ',', ')'] ∧
      ofChars "v.m(a, b.x)".toList 7 = .ok (some
        ⟨.callMethod "v" "m" [.named "a", .property "b" "x"], 7, "v.m(a, b.x)"⟩) ∧
      ofChars "v = 1+,f(,)".toList 8 = .error (.missingOperand .plus) := by
  have harguments : ∀ text ∈ [['a'], [' ', 'b', '.', 'x']],
      Segment (· ≠ ',') text ∧ isBlankText text = false := by
    refine List.forall_mem_cons.2 ⟨⟨⟨.of_forall (by simp), by simp⟩, rfl⟩, ?_⟩
    exact List.forall_mem_singleton.2 ⟨⟨.of_forall (by simp), by simp⟩, rfl⟩
  have hvalue : Segment (· ≠ ',') ['1', '+'] := ⟨.of_forall (by simp), by simp⟩
  have hcomma : Segment (fun _ => True) [','] :=
    .cons (by decide) (by decide) (by decide) trivial segment_nil
  have hmodifier : Segment (· ≠ ',') ['f', '(', ',', ')'] :=
    .cons (by decide) (by decide) (by decide) (by decide) hcomma.group
  have hcomposed := ofChars_composed (show isIdentifier ['v'] = true from rfl)
    (show isIdentifier ['m'] = true from rfl)
  have hfirst : Expression.ofChars ['a'] = .ok (.named "a") :=
    Expression.ReadAs.ofChars_eq (.named rfl)
  have hsecond : Expression.ofChars [' ', 'b', '.', 'x'] = .ok (.property "b" "x") :=
    Expression.ReadAs.ofChars_eq (.property rfl)
  have hproblem : Expression.ofChars ['1', '+'] = .error (.missingOperand .plus) := by
    have hoperation : Shape.operation? (trim ['1', '+']) = some (['1'], .plus, []) := by
      decide +kernel
    have hnumber : Number.readNumber? (trim ['1', '+']) = none := by decide +kernel
    rw [Expression.ofChars_eq, hnumber]
    simp only [Shape.call?_of_operation? hoperation, hoperation]
    rfl
  refine ⟨rfl, rfl, harguments, hvalue, hmodifier, ?_, ?_⟩
  · have hcall := (hcomposed 7).1 _ harguments
    rw [List.mapM_cons, List.mapM_cons, hfirst, hsecond] at hcall
    exact hcall
  · have hassignment := (hcomposed 8).2.2 ['1', '+'] [['f', '(', ',', ')']] hvalue
      (List.forall_mem_singleton.2 hmodifier)
    rw [hproblem] at hassignment
    exact hassignment

end LiveVectors

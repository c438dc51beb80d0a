import LiveVectors.Proofs.Composition

/-!
# What splitting does to a text

Splitting a text at a separator loses nothing and cuts nowhere else than it should, whatever the
text is: parentheses need not match, and the depth may go below zero.

* `cutPlaces` and `isTopLevel` — where a list of pieces was cut, and where a text has a separator at
  depth zero, which is where it has as many opening as closing parentheses before it.
* `intercalate_splitFrom` — **putting the pieces together again gives the text**, for every limit.
* `cutPlaces_splitFrom` — **the cuts are all separators at depth zero**, in order.
* `splitTopLevel_exact` — the result, with what follows for a text that is cut once and for the
  modifiers of a definition.
-/

set_option autoImplicit false

namespace LiveVectors
namespace Nesting

open Text

/-! ## Places of separators -/

/-- Where the separators stood between pieces, if the first piece begins at `start`. -/
def cutPlaces (start : Nat) : List (List Char) → List Nat
  | [] => []
  | [_] => []
  | piece :: next :: rest =>
    (start + piece.length) :: cutPlaces (start + piece.length + 1) (next :: rest)

/-- Whether a separator stands at a place of a text with as many opening as closing parentheses
before it. -/
def isTopLevel (separator : Char) (text : List Char) (place : Nat) : Bool :=
  text[place]? == some separator && (text.take place).count '(' == (text.take place).count ')'

theorem cutPlaces_nil_cons (start : Nat) {pieces : List (List Char)} (h : pieces ≠ []) :
    cutPlaces start ([] :: pieces) = start :: cutPlaces (start + 1) pieces := by
  obtain ⟨piece, rest, rfl⟩ := List.exists_cons_of_ne_nil h
  rfl

/-- One more character in the first piece is like a later start. -/
theorem cutPlaces_consHead (start : Nat) (c : Char) {pieces : List (List Char)} (h : pieces ≠ []) :
    cutPlaces start (consHead c pieces) = cutPlaces (start + 1) pieces := by
  obtain ⟨piece, rest, rfl⟩ := List.exists_cons_of_ne_nil h
  cases rest with
  | nil => rfl
  | cons next rest =>
    have hlength : start + (c :: piece).length = start + 1 + piece.length := by
      rw [List.length_cons]
      omega
    rw [consHead, cutPlaces, cutPlaces, hlength]

/-- The depth is what the two kinds of parentheses differ by. -/
theorem depthAfter_eq_sub (text : List Char) :
    depthAfter text = (text.count '(' : Int) - text.count ')' := by
  induction text with
  | nil => rfl
  | cons c cs ih =>
    have hstep : stepDepth 0 c = (if c == '(' then 1 else 0) - (if c == ')' then 1 else 0) := by
      by_cases hopen : c = '('
      · subst hopen
        rfl
      by_cases hclose : c = ')'
      · subst hclose
        rfl
      · simp [stepDepth, hopen, hclose]
    rw [depthAfter_cons, ih, hstep, List.count_cons, List.count_cons]
    push_cast
    omega

/-- The separator that follows a text is at the top level where the text leads to depth zero. -/
theorem isTopLevel_append (separator : Char) (before : List Char) (c : Char) (cs : List Char) :
    isTopLevel separator (before ++ c :: cs) before.length =
      (depthAfter before == 0 && c == separator) := by
  have hdepth : (before.count '(' == before.count ')') = (depthAfter before == 0) := by
    rw [depthAfter_eq_sub, Bool.eq_iff_iff, beq_iff_eq, beq_iff_eq]
    omega
  rw [isTopLevel, List.getElem?_append_right (Nat.le_refl _), List.take_left', hdepth,
    Bool.and_comm]
  · simp
  · rfl

/-! ## Nothing is lost -/

variable {cut : Char → Bool} {separator : Char}

theorem intercalate_consHead (c : Char) {pieces : List (List Char)} (h : pieces ≠ []) :
    [separator].intercalate (consHead c pieces) = c :: [separator].intercalate pieces := by
  obtain ⟨piece, rest, rfl⟩ := List.exists_cons_of_ne_nil h
  cases rest with
  | nil => rfl
  | cons next rest => simp [consHead, List.intercalate_cons_of_ne_nil]

/-- **Putting pieces together undoes cutting**, however often the text was cut. -/
theorem intercalate_splitFrom (hcut : ∀ c, cut c = true → c = separator) (depth limit : Int)
    (made : Nat) (text : List Char) :
    [separator].intercalate (splitFrom cut depth limit made text) = text := by
  induction text generalizing depth made with
  | nil => rfl
  | cons c cs ih =>
    rw [splitFrom]
    split
    · rename_i hfound
      obtain rfl : c = separator := by
        simp only [isCut, Bool.and_eq_true] at hfound
        exact hcut c hfound.2
      split
      · simp [List.intercalate_cons_of_ne_nil]
      · rw [List.intercalate_cons_of_ne_nil (splitFrom_ne_nil cut depth limit _ cs), ih]
        rfl
    · rw [intercalate_consHead c (splitFrom_ne_nil cut _ limit made cs), ih]

/-! ## The cuts are the separators at depth zero -/

theorem isCut_eq (hopen : separator ≠ '(') (hclose : separator ≠ ')') (depth : Int) (c : Char) :
    isCut (· == separator) depth c = (depth == 0 && c == separator) := by
  by_cases hc : c = separator
  · subst hc
    rw [isCut, bne_iff_ne.2 hopen, bne_iff_ne.2 hclose, Bool.and_true, Bool.and_true]
  · rw [isCut, beq_false_of_ne hc, Bool.and_false, Bool.and_false]

/-- **Every separator at depth zero is a cut, and nothing else is.**  The text `before` has been
passed already. -/
theorem cutPlaces_splitFrom (hopen : separator ≠ '(') (hclose : separator ≠ ')')
    (before text : List Char) :
    cutPlaces before.length (splitFrom (· == separator) (depthAfter before) (-1) 0 text) =
      (List.range' before.length text.length).filter (isTopLevel separator (before ++ text)) := by
  induction text generalizing before with
  | nil => rfl
  | cons c cs ih =>
    have hwhole : before ++ c :: cs = (before ++ [c]) ++ cs := List.append_cons before c cs
    have hnext : depthAfter (before ++ [c]) = stepDepth (depthAfter before) c := by
      rw [depthAfter_append, depthAfter_cons, stepDepth_eq_add (depthAfter before), depthAfter_nil,
        Int.add_zero]
    have hlater := ih (before ++ [c])
    rw [hnext, List.length_append, List.length_singleton, ← hwhole] at hlater
    rw [List.length_cons, List.range'_succ, List.filter_cons, isTopLevel_append,
      splitFrom_neg_one_cons, isCut_eq hopen hclose]
    by_cases hfound : (depthAfter before == 0 && c == separator) = true
    · have hsame : stepDepth (depthAfter before) c = depthAfter before := by
        rw [Bool.and_eq_true, beq_iff_eq, beq_iff_eq] at hfound
        obtain ⟨-, rfl⟩ := hfound
        exact stepDepth_of_ne hopen hclose _
      rw [hsame] at hlater
      rw [if_pos hfound, if_pos hfound, ← hlater]
      exact cutPlaces_nil_cons _ (splitFrom_ne_nil _ _ _ _ _)
    · rw [if_neg hfound, if_neg hfound, ← hlater]
      exact cutPlaces_consHead _ c (splitFrom_ne_nil _ _ _ _ _)

theorem cutPlaces_splitTopLevel (hopen : separator ≠ '(') (hclose : separator ≠ ')')
    (text : List Char) :
    cutPlaces 0 (splitTopLevel (· == separator) (-1) text) =
      (List.range text.length).filter (isTopLevel separator text) := by
  rw [List.range_eq_range']
  exact cutPlaces_splitFrom hopen hclose [] text

/-- A text with a separator at depth zero is cut in two where it is cut once. -/
theorem exists_splitTopLevel_one (hopen : separator ≠ '(') (hclose : separator ≠ ')')
    {text : List Char} {place : Nat} (hplace : isTopLevel separator text place = true) :
    ∃ first rest, splitTopLevel (· == separator) 1 text = [first, rest] ∧
      splitTopLevel (· == separator) (-1) text =
        first :: splitTopLevel (· == separator) (-1) rest := by
  rcases splitTopLevel_one_cases (· == separator) text with ⟨hall, -⟩ | ⟨first, rest, hall, hone⟩
  · -- a text in one piece has no separator at depth zero
    have hplaces := cutPlaces_splitTopLevel hopen hclose text
    rw [hall] at hplaces
    have hlt : place < text.length := by
      simp only [isTopLevel, Bool.and_eq_true, beq_iff_eq] at hplace
      exact (List.getElem?_eq_some_iff.1 hplace.1).1
    have hnone := List.filter_eq_nil_iff.1 hplaces.symm place (List.mem_range.2 hlt)
    exact absurd hplace hnone
  · exact ⟨first, rest, hone, hall⟩

/-- **Splitting is lossless and exact**, for every text and every separator that is no parenthesis.
The pieces with the separator between them are the text, and the cuts are the places of the
separator with as many opening as closing parentheses before them.  A text that has such a place is
cut once into a first piece and a rest, and the pieces of the rest are the other pieces of the
text.  So the modifiers in the second part of a definition are what the pieces of the whole
definition after the first one are read as, trimmed and without the blank ones. -/
theorem splitTopLevel_exact (hopen : separator ≠ '(') (hclose : separator ≠ ')')
    (text : List Char) :
    [separator].intercalate (splitTopLevel (· == separator) (-1) text) = text ∧
    cutPlaces 0 (splitTopLevel (· == separator) (-1) text) =
      (List.range text.length).filter (isTopLevel separator text) ∧
    (∀ place, isTopLevel separator text place = true →
      ∃ first rest, splitTopLevel (· == separator) 1 text = [first, rest] ∧
        text = first ++ separator :: rest ∧
        splitTopLevel (· == separator) (-1) text =
          first :: splitTopLevel (· == separator) (-1) rest) ∧
    Modifier.listOfChars (Statement.splitDefinition text).2 =
      (((splitTopLevel (· == ',') (-1) text).tail.map trim).filter (· ≠ [])).mapM
        Modifier.ofChars := by
  have hjoin (limit : Int) :
      [separator].intercalate (splitTopLevel (· == separator) limit text) = text :=
    intercalate_splitFrom (fun c hc => by simpa using hc) 0 limit 0 text
  refine ⟨hjoin (-1), cutPlaces_splitTopLevel hopen hclose text, ?_, ?_⟩
  · intro place hplace
    obtain ⟨first, rest, hone, hall⟩ := exists_splitTopLevel_one hopen hclose hplace
    have htext := hjoin 1
    rw [hone] at htext
    exact ⟨first, rest, hone, by simpa [List.intercalate_cons_of_ne_nil] using htext.symm, hall⟩
  · obtain ⟨main, parts, hall, -, hmodifiers⟩ := Statement.splitDefinition_cases text
    rw [hmodifiers, hall, List.tail_cons, Modifier.allOfChars_eq_mapM]

/-- A definition whose last modifier has a parenthesis too many: the comma behind it is no cut. -/
theorem splitTopLevel_exact_unbalanced :
    (',' ≠ '(' ∧ ',' ≠ ')') ∧ isTopLevel ',' "f(1,2), a),b".toList 6 = true ∧
      [','].intercalate (splitTopLevel (· == ',') (-1) "f(1,2), a),b".toList) =
        "f(1,2), a),b".toList ∧
      cutPlaces 0 (splitTopLevel (· == ',') (-1) "f(1,2), a),b".toList) = [6] ∧
      splitTopLevel (· == ',') 1 "f(1,2), a),b".toList = ["f(1,2)".toList, " a),b".toList] ∧
      Modifier.listOfChars (Statement.splitDefinition "f(1,2), a),b".toList).2 =
        ["a),b".toList].mapM Modifier.ofChars := by
  obtain ⟨hjoin, hplaces, hone, hmodifiers⟩ :=
    splitTopLevel_exact (show ',' ≠ '(' by decide) (show ',' ≠ ')' by decide) "f(1,2), a),b".toList
  have hplace : isTopLevel ',' "f(1,2), a),b".toList 6 = true := by decide
  have hpieces : splitTopLevel (· == ',') (-1) "f(1,2), a),b".toList =
      ["f(1,2)".toList, " a),b".toList] := by decide
  have hrest : ((([" a),b".toList]).map trim).filter (· ≠ [])) = ["a),b".toList] := by decide
  refine ⟨⟨by decide, by decide⟩, hplace, hjoin, hplaces.trans (by decide), ?_, ?_⟩
  · obtain ⟨first, rest, hsplit, htext, hall⟩ := hone 6 hplace
    rw [hpieces, List.cons.injEq] at hall
    obtain ⟨rfl, -⟩ := hall
    obtain rfl : " a),b".toList = rest := by simpa using htext
    exact hsplit
  · rw [hmodifiers, hpieces, List.tail_cons, hrest]

end Nesting
end LiveVectors

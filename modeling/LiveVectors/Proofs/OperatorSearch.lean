import LiveVectors.Proofs.Shapes
import LiveVectors.Proofs.Splitting

/-!
# Where an operation is split

The search for the operator of an operation walks through the text once and keeps the depth and what
it has passed.  This file says what it looks for, as a condition on a place and on the text in front
of it, and shows that it finds the first such place.

* `AwaitsExponent` — a text ends in a numeral and the letter of an exponent, so that a sign after it
  belongs to the number; `endsInExponent_reverse_iff`.
* `HasLeftOperand` — a text ends in an operand, so that an operator may follow;
  `endsInOperand_reverse_iff`.
* `SplitsAt` — an operator stands at a place, at depth zero and with an operand in front of it.
* `findOperatorFrom_eq_find?` — **the walk is a search through the places**, in order.
* `findOperator?_least` — the result.
-/

set_option autoImplicit false

namespace LiveVectors
namespace Shape

open Text Nesting Number

/-! ## Exponents -/

/-- The text ends in an unsigned ASCII numeral and the letter of an exponent.  The numeral begins
the text, or follows a character that is neither a word character nor a dot. -/
def AwaitsExponent (text : List Char) : Prop :=
  ∃ front numeral letter, text = front ++ (numeral ++ [letter]) ∧
    IsMantissa Char.isDigit numeral ∧ (letter = 'e' ∨ letter = 'E') ∧
    ∀ c, front.getLast? = some c → isWord c = false ∧ c ≠ '.'

theorem isDotted_eq_false_iff {c : Char} : isDotted c = false ↔ isWord c = false ∧ c ≠ '.' := by
  rw [isDotted, Bool.or_eq_false_iff, beq_eq_false_iff_ne]

theorem isDotted_of_isMantissa {numeral : List Char} (h : IsMantissa Char.isDigit numeral) :
    ∀ c ∈ numeral, isDotted c = true := by
  intro c hc
  rcases h.mem_cases hc with hdigit | rfl
  · simp [isDotted, isWord, Char.isAlphanum, hdigit]
  · rfl

/-- **What a text ends with**: all of the word characters and dots up to another character. -/
theorem dottedTail_append {front tail : List Char} (htail : ∀ c ∈ tail, isDotted c = true)
    (hfront : ∀ c, front.getLast? = some c → isDotted c = false) :
    dottedTail (front ++ tail) = tail := by
  have hstop : front.reverse.takeWhile isDotted = [] := by
    cases hreverse : front.reverse with
    | nil => rfl
    | cons c before =>
      have hlast := hfront c (by rw [← List.head?_reverse, hreverse]; rfl)
      rw [List.takeWhile_cons, hlast, if_neg Bool.false_ne_true]
  rw [dottedTail, List.reverse_append,
    List.takeWhile_append_of_pos fun c hc => htail c (List.mem_reverse.1 hc), hstop,
    List.append_nil, List.reverse_reverse]

theorem endsInExponent_concat (text : List Char) (letter : Char) :
    endsInExponent (text ++ [letter]).reverse =
      ((letter == 'e' || letter == 'E') && isPlainNumeral (dottedTail text)) := by
  rw [List.reverse_append, List.reverse_singleton, List.singleton_append, endsInExponent]
  rfl

/-- **The test on a text given backwards** is for a numeral and the letter of an exponent. -/
theorem endsInExponent_reverse_iff {text : List Char} :
    endsInExponent text.reverse = true ↔ AwaitsExponent text := by
  constructor
  · intro h
    rcases List.eq_nil_or_concat' text with rfl | ⟨before, letter, rfl⟩
    · cases h
    · rw [endsInExponent_concat] at h
      simp only [Bool.and_eq_true, Bool.or_eq_true, beq_iff_eq] at h
      obtain ⟨hletter, hnumeral⟩ := h
      obtain ⟨front, hbefore, hfront⟩ := exists_eq_append_dottedTail before
      refine ⟨front, dottedTail before, letter, ?_, isMantissa_of_isPlainNumeral hnumeral, hletter,
        fun c hc => isDotted_eq_false_iff.1 (hfront c hc)⟩
      rw [← List.append_assoc, ← hbefore]
  · rintro ⟨front, numeral, letter, rfl, hnumeral, hletter, hfront⟩
    rw [← List.append_assoc, endsInExponent_concat,
      dottedTail_append (isDotted_of_isMantissa hnumeral)
        fun c hc => isDotted_eq_false_iff.2 (hfront c hc),
      isPlainNumeral_of_isMantissa hnumeral]
    simpa using hletter

/-! ## Operands -/

/-- The text ends in an operand: its last character that is no blank is no operator, and no numeral
waits for its exponent there. -/
def HasLeftOperand (text : List Char) : Prop :=
  ∃ left last blanks, text = left ++ last :: blanks ∧ isBlank last = false ∧
    (∀ c ∈ blanks, isBlank c = true) ∧ (∀ operator : Operator, last ≠ operator.symbol) ∧
    ¬ AwaitsExponent (left ++ [last])

theorem isSymbol_eq_true_iff {c : Char} :
    Operator.isSymbol c = true ↔ ∃ operator : Operator, c = operator.symbol := by
  rw [Operator.isSymbol, Option.isSome_iff_exists]
  simp only [Operator.ofSymbol?_eq_some_iff]

/-- The test on a text given backwards, where its last blanks are known. -/
theorem endsInOperand_append_cons {left blanks : List Char} {last : Char}
    (hlast : isBlank last = false) (hblanks : ∀ c ∈ blanks, isBlank c = true) :
    endsInOperand (left ++ last :: blanks).reverse = true ↔
      (∀ operator : Operator, last ≠ operator.symbol) ∧ ¬ AwaitsExponent (left ++ [last]) := by
  have hreverse : (left ++ last :: blanks).reverse = blanks.reverse ++ last :: left.reverse := by
    simp
  have hexponent :
      endsInExponent (last :: left.reverse) = true ↔ AwaitsExponent (left ++ [last]) := by
    rw [← endsInExponent_reverse_iff, List.reverse_append]
    rfl
  have hsymbol : Operator.isSymbol last = false ↔
      ∀ operator : Operator, last ≠ operator.symbol := by
    rw [← Bool.not_eq_true, isSymbol_eq_true_iff, not_exists]
  rw [hreverse, endsInOperand_append fun c hc => hblanks c (List.mem_reverse.1 hc), endsInOperand,
    List.dropWhile_cons, hlast, if_neg Bool.false_ne_true, Bool.and_eq_true, Bool.not_eq_true',
    Bool.not_eq_true', hsymbol, ← hexponent, Bool.not_eq_true]

/-- **The test on a text given backwards** is for an operand at its end. -/
theorem endsInOperand_reverse_iff {text : List Char} :
    endsInOperand text.reverse = true ↔ HasLeftOperand text := by
  constructor
  · intro h
    have hsolid := solid_trim (isBlankText_of_endsInOperand h)
    obtain ⟨before, after, -, hafter, htext⟩ := exists_eq_append_trim text
    obtain ⟨middle, last, hmiddle⟩ :=
      (List.eq_nil_or_concat' (trim text)).resolve_left hsolid.ne_nil
    have hlast : isBlank last = false := hsolid.last last (by rw [hmiddle]; simp)
    have hsplit : text = (before ++ middle) ++ last :: after := by
      rw [htext, hmiddle]
      simp
    rw [hsplit, endsInOperand_append_cons hlast hafter] at h
    exact ⟨before ++ middle, last, after, hsplit, hlast, hafter, h.1, h.2⟩
  · rintro ⟨left, last, blanks, rfl, hlast, hblanks, hsymbol, hexponent⟩
    exact (endsInOperand_append_cons hlast hblanks).2 ⟨hsymbol, hexponent⟩

/-! ## Places -/

/-- An operator stands at a place of a text, with as many opening as closing parentheses in front of
it, and what is in front of it ends in an operand. -/
structure SplitsAt (text : List Char) (place : Nat) : Prop where
  symbol : ∃ operator : Operator, text[place]? = some operator.symbol
  level : (text.take place).count '(' = (text.take place).count ')'
  operand : HasLeftOperand (text.take place)

/-- What the search tests at a place. -/
def isSplit (text : List Char) (place : Nat) : Bool :=
  (text[place]?).any Operator.isSymbol && depthAfter (text.take place) == 0 &&
    endsInOperand (text.take place).reverse

theorem isSplit_iff {text : List Char} {place : Nat} :
    isSplit text place = true ↔ SplitsAt text place := by
  have hsymbol : (text[place]?).any Operator.isSymbol = true ↔
      ∃ operator : Operator, text[place]? = some operator.symbol := by
    rw [Option.any_eq_true]
    simp only [isSymbol_eq_true_iff]
    exact ⟨fun ⟨c, hc, operator, hoperator⟩ => ⟨operator, by rw [hc, hoperator]⟩,
      fun ⟨operator, hoperator⟩ => ⟨_, hoperator, operator, rfl⟩⟩
  have hlevel : depthAfter (text.take place) = 0 ↔
      (text.take place).count '(' = (text.take place).count ')' := by
    rw [depthAfter_eq_sub]
    omega
  rw [isSplit, Bool.and_eq_true, Bool.and_eq_true, hsymbol, beq_iff_eq, hlevel,
    endsInOperand_reverse_iff]
  exact ⟨fun ⟨⟨h, h'⟩, h''⟩ => ⟨h, h', h''⟩, fun h => ⟨⟨h.symbol, h.level⟩, h.operand⟩⟩

theorem isSplit_eq_false_iff {text : List Char} {place : Nat} :
    isSplit text place = false ↔ ¬ SplitsAt text place := by
  rw [← isSplit_iff, Bool.not_eq_true]

/-- The condition on the character that follows a text. -/
theorem isSplit_append (before : List Char) (c : Char) (cs : List Char) :
    isSplit (before ++ c :: cs) before.length =
      (Operator.isSymbol c && depthAfter before == 0 && endsInOperand before.reverse) := by
  rw [isSplit, List.getElem?_append_right (Nat.le_refl _), List.take_left' rfl]
  simp

/-- **The walk is a search through the places** of a text, from the end of what it has passed on. -/
theorem findOperatorFrom_eq_find? (before text : List Char) :
    findOperatorFrom before.reverse (depthAfter before) text =
      (List.range' before.length text.length).find? (isSplit (before ++ text)) := by
  induction text generalizing before with
  | nil => rfl
  | cons c cs ih =>
    have hnext := ih (before ++ [c])
    rw [depthAfter_append, depthAfter_cons, depthAfter_nil, Int.add_zero, ← stepDepth_eq_add,
      List.length_append, List.length_singleton, ← List.append_cons, List.reverse_append] at hnext
    rw [findOperatorFrom, List.length_cons, List.range'_succ, List.find?_cons, isSplit_append,
      List.length_reverse]
    split <;> rename_i hfound
    · rw [hfound]
    · rw [Bool.eq_false_iff.2 hfound]
      exact hnext

theorem findOperator?_eq_find? (text : List Char) :
    findOperator? text = (List.range text.length).find? (isSplit text) := by
  rw [List.range_eq_range']
  exact findOperatorFrom_eq_find? [] text

/-- No place behind the text splits it. -/
theorem SplitsAt.lt_length {text : List Char} {place : Nat} (h : SplitsAt text place) :
    place < text.length := by
  obtain ⟨operator, hoperator⟩ := h.symbol
  exact (List.getElem?_eq_some_iff.1 hoperator).1

/-- **The first place that splits a text is found**, whatever the text is, and none is found only if
there is none. -/
theorem findOperator?_least (text : List Char) :
    (∀ place, findOperator? text = some place ↔ IsLeast {p | SplitsAt text p} place) ∧
    (findOperator? text = none ↔ ¬ ∃ place, SplitsAt text place) := by
  rw [findOperator?_eq_find?, List.find?_range_eq_none]
  simp only [List.find?_range_eq_some, List.mem_range, Bool.not_eq_true', isSplit_iff,
    isSplit_eq_false_iff]
  constructor
  · intro place
    constructor
    · rintro ⟨hplace, -, hearlier⟩
      refine ⟨hplace, fun other hother => ?_⟩
      by_contra hlt
      exact hearlier other (by omega) hother
    · rintro ⟨hplace, hleast⟩
      refine ⟨hplace, hplace.lt_length, fun other hlt hother => ?_⟩
      have hle : place ≤ other := hleast hother
      omega
  · constructor
    · rintro hnone ⟨place, hplace⟩
      exact hnone place hplace.lt_length hplace
    · intro hnone place _ hplace
      exact hnone ⟨place, hplace⟩

/-- The first sign belongs to the exponent of a number, and the operator after it is found. -/
example : findOperator? "2e-5 * (1 - x) + 3".toList = some 5 := by decide +kernel

end Shape
end LiveVectors

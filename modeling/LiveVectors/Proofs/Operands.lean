import LiveVectors.Proofs.Balance
import LiveVectors.Proofs.Lexemes

/-!
# Operands

An operation is split at the first operator that has an operand on its left.  This file says which
texts are operands, so that the split is where a reader expects it.

* `Operand` — no operator is found in the text, and one is found right after it
  (`Operand.operation?_eq`).
* `operand_of_dotted` and `operand_of_call` — names, properties and calls are operands, because
  what holds an operator in them is hidden by parentheses.
* `SignKnown` — the digit next to the exponent of a numeral is an ASCII digit, if the exponent has a
  sign (`signKnown_iff`).  The search for an operator knows the letter of an exponent after no other
  digit (`endsInExponent_iff`).
* `operand_of_signKnown` — such numerals are operands: their signs stand where an operand is still
  missing or an exponent has begun.  So no ASCII numeral holds an operator
  (`findOperator?_of_readNumeral?`).
-/

set_option autoImplicit false

namespace LiveVectors
namespace Shape

open Text Nesting Number

/-! ## Operands -/

/-- Whatever has a property that no operator has is no operator. -/
theorem isSymbol_eq_false {p : Char → Bool} (hp : ∀ operator : Operator, p operator.symbol = false)
    {c : Char} (h : p c = true) : Operator.isSymbol c = false := by
  rw [Operator.isSymbol, Option.isSome_eq_false_iff, Option.isNone_iff_eq_none,
    Option.eq_none_iff_forall_ne_some]
  intro operator hoperator
  rw [Operator.ofSymbol?_eq_some_iff.1 hoperator, hp operator] at h
  cases h

theorem isSymbol_of_isDigit {c : Char} (h : isDigit c = true) : Operator.isSymbol c = false :=
  isSymbol_eq_false (fun operator => by cases operator <;> decide) h

theorem isSymbol_of_isBlank {c : Char} (h : isBlank c = true) : Operator.isSymbol c = false :=
  isSymbol_eq_false (fun operator => by cases operator <;> decide) h

/-- Blanks after an operand do not matter. -/
theorem endsInOperand_append {blanks : List Char} (h : ∀ c ∈ blanks, isBlank c = true)
    (before : List Char) : endsInOperand (blanks ++ before) = endsInOperand before := by
  rw [endsInOperand, endsInOperand, List.dropWhile_append_of_pos h]

/-- A text that can stand in front of an operator: no operator is found in it, and one is found
right after it. -/
structure Operand (text : List Char) : Prop where
  solid : Solid text
  /-- The search for an operator passes the text. -/
  pass : ∀ rest, findOperatorFrom [] 0 (text ++ rest) = findOperatorFrom text.reverse 0 rest
  /-- An operator may follow. -/
  ends : endsInOperand text.reverse = true

theorem Operand.findOperator?_eq {text : List Char} (h : Operand text) :
    findOperator? text = none := by
  have hpass := h.pass []
  rwa [List.append_nil] at hpass

/-- An operand by itself has no operator. -/
theorem Operand.operation?_eq_none {text : List Char} (h : Operand text) :
    operation? text = none := by
  rw [operation?, h.findOperator?_eq]
  rfl

/-- **The operator after an operand is found**, and splits the text there. -/
theorem Operand.operation?_eq {left : List Char} (h : Operand left) {blanks : List Char}
    (hblanks : ∀ c ∈ blanks, isBlank c = true) (operator : Operator) (right : List Char) :
    operation? (left ++ (blanks ++ operator.symbol :: right)) =
      some (left ++ blanks, operator, right) := by
  have hsymbol : Operator.ofSymbol? operator.symbol = some operator :=
    Operator.ofSymbol?_eq_some_iff.2 rfl
  have hends : endsInOperand (blanks.reverse ++ left.reverse) = true := by
    rw [endsInOperand_append fun c hc => hblanks c (List.mem_reverse.1 hc), h.ends]
  have hfound : findOperator? (left ++ (blanks ++ operator.symbol :: right)) =
      some (left ++ blanks).length := by
    rw [findOperator?, h.pass, (Balanced.of_isBlank hblanks).findOperatorFrom_append (Int.le_refl 0)
        (fun _ _ hc => isSymbol_of_isBlank hc), findOperatorFrom, Operator.isSymbol, hsymbol, hends]
    simp [Nat.add_comm]
  rw [operation?, hfound, ← List.append_assoc]
  generalize left ++ blanks = front
  have hright : (front ++ operator.symbol :: right).drop (front.length + 1) = right := by
    rw [List.append_cons, List.drop_left' (by simp)]
  simp [hsymbol, hright]

/-- A balanced text without operators is passed. -/
theorem findOperatorFrom_of_balanced {free : Char → Prop} {text : List Char}
    (h : Balanced free text) (hfree : ∀ c, free c → Operator.isSymbol c = false)
    (rest : List Char) :
    findOperatorFrom [] 0 (text ++ rest) = findOperatorFrom text.reverse 0 rest := by
  rw [h.findOperatorFrom_append (Int.le_refl 0) fun _ => hfree, List.append_nil]

/-! ## Words and dots -/

/-- Whether a character is part of a word or a dot between words. -/
def isDotted (c : Char) : Bool := isWord c || c == '.'

theorem isDotted_cases {c : Char} (h : isDotted c = true) : isWord c = true ∨ c = '.' := by
  simpa [isDotted] using h

/-- The characters that are neither an operator nor a comma. -/
def Inert (c : Char) : Prop := Operator.isSymbol c = false ∧ c ≠ ','

theorem balanced_of_isDotted {text : List Char} (h : ∀ c ∈ text, isDotted c = true) :
    Balanced Inert text := by
  refine Balanced.of_forall fun c hc => ?_
  have hdotted := h c hc
  refine ⟨?_, ?_, isSymbol_eq_false (fun operator => by cases operator <;> decide) hdotted, ?_⟩ <;>
    rintro rfl <;> exact absurd hdotted (by decide)

theorem isBlank_of_isDotted {c : Char} (h : isDotted c = true) : isBlank c = false := by
  rcases isDotted_cases h with h | rfl
  · exact isBlank_of_isWord h
  · decide

/-- A numeral begins with no letter. -/
theorem isPlainNumeral_of_isWordStart {c : Char} (h : isWordStart c = true) (cs : List Char) :
    isPlainNumeral (c :: cs) = false := by
  have hdigit : c.isDigit = false := by
    by_contra hcore
    have hdigit := isDigit_of_coreIsDigit (Bool.of_not_eq_false hcore)
    rw [isDigit_of_isWordStart h] at hdigit
    cases hdigit
  have hpoint : c ≠ '.' := by
    rintro rfl
    cases h
  simp [isPlainNumeral, takeDigits?, hdigit, hpoint]

/-- A word that ends in the letter of an exponent is no numeral with an exponent. -/
theorem endsInExponent_of_isDotted {c : Char} {cs : List Char} (hstart : isWordStart c = true)
    (h : ∀ d ∈ cs, isDotted d = true) : endsInExponent (c :: cs).reverse = false := by
  rcases List.eq_nil_or_concat' cs with rfl | ⟨front, last, rfl⟩
  · simp [endsInExponent, isPlainNumeral, takeDigits?]
  · have hfront : ∀ d ∈ front.reverse ++ [c], isDotted d = true := by
      intro d hd
      rcases List.mem_append.1 hd with hd | hd
      · exact h d (by simp [List.mem_reverse.1 hd])
      · rw [List.mem_singleton.1 hd, isDotted, isWord_of_isWordStart hstart, Bool.true_or]
    have htake : (front.reverse ++ [c]).takeWhile (fun c => isWord c || c == '.') =
        front.reverse ++ [c] := List.takeWhile_eq_self_iff.2 hfront
    have hreverse : (c :: (front ++ [last])).reverse = last :: (front.reverse ++ [c]) := by simp
    rw [hreverse, endsInExponent, htake]
    simp [isPlainNumeral_of_isWordStart hstart]

/-- Words with dots between them. -/
structure Dotted (text : List Char) : Prop where
  /-- The first word is an identifier. -/
  start : ∃ c cs, text = c :: cs ∧ isWordStart c = true
  all : ∀ c ∈ text, isDotted c = true

theorem dotted_of_isIdentifier {name : List Char} (h : isIdentifier name = true) :
    Dotted name where
  start := by
    obtain ⟨c, cs, hname, hstart, -⟩ := exists_cons_of_isIdentifier h
    exact ⟨c, cs, hname, hstart⟩
  all c hc := by
    rw [isDotted, isWord_of_isIdentifier h c hc, Bool.true_or]

theorem Dotted.append_dot {first second : List Char} (h : Dotted first) (h' : Dotted second) :
    Dotted (first ++ '.' :: second) where
  start := by
    obtain ⟨c, cs, rfl, hstart⟩ := h.start
    exact ⟨c, cs ++ '.' :: second, rfl, hstart⟩
  all := List.forall_mem_append.2 ⟨h.all, List.forall_mem_cons.2 ⟨rfl, h'.all⟩⟩

/-- **Words with dots between them are operands.** -/
theorem operand_of_dotted {text : List Char} (h : Dotted text) : Operand text := by
  obtain ⟨c, cs, rfl, hstart⟩ := h.start
  have hexponent := endsInExponent_of_isDotted hstart fun d hd =>
    h.all d (List.mem_cons_of_mem _ hd)
  refine ⟨solid_of_forall (by simp) fun d hd => isBlank_of_isDotted (h.all d hd),
    findOperatorFrom_of_balanced (balanced_of_isDotted h.all) fun d hd => hd.1, ?_⟩
  cases hreverse : (c :: cs).reverse with
  | nil => simp at hreverse
  | cons last before =>
    have hlast := h.all last (by rw [← List.mem_reverse, hreverse]; simp)
    have hsymbol : Operator.isSymbol last = false :=
      isSymbol_eq_false (fun operator => by cases operator <;> decide) hlast
    rw [hreverse] at hexponent
    simp [endsInOperand, isBlank_of_isDotted hlast, hsymbol, hexponent]

/-- **A call is an operand**, whatever is called and whatever stands between the parentheses. -/
theorem operand_of_call {name inside : List Char} (h : Dotted name) {free : Char → Prop}
    (hinside : Balanced free inside) : Operand (name ++ '(' :: (inside ++ [')'])) := by
  have hname := operand_of_dotted h
  have hgroup : Balanced Inert ('(' :: (inside ++ ')' :: [])) :=
    .group (hinside.mono fun _ _ => trivial) (.nil _)
  refine ⟨?_, ?_, ?_⟩
  · have hlast : Solid [')'] := by
      refine solid_of_forall (List.cons_ne_nil _ _) ?_
      intro c hc
      rw [List.mem_singleton.1 hc]
      rfl
    simpa using hname.solid.append hlast ('(' :: inside)
  · intro rest
    rw [List.append_assoc, hname.pass,
      hgroup.findOperatorFrom_append (Int.le_refl 0) fun _ _ hc => hc.1, ← List.reverse_append]
  · simp [endsInOperand, endsInExponent, isBlank, Operator.isSymbol, Operator.ofSymbol?]

/-! ## Numerals -/

/-- Where no operand ends, no operator is found. -/
theorem findOperatorFrom_cons {before : List Char} {c : Char} (hopen : c ≠ '(') (hclose : c ≠ ')')
    (h : endsInOperand before = false) (cs : List Char) :
    findOperatorFrom before 0 (c :: cs) = findOperatorFrom (c :: before) 0 cs := by
  rw [findOperatorFrom, h, Bool.and_false, if_neg Bool.false_ne_true,
    stepDepth_of_ne hopen hclose]

/-- A sign is passed where no operand ends. -/
theorem findOperatorFrom_sign {sign before : List Char} (hsign : IsSign sign)
    (h : endsInOperand before = false) (rest : List Char) :
    findOperatorFrom before 0 (sign ++ rest) =
      findOperatorFrom (sign.reverse ++ before) 0 rest := by
  rcases hsign with rfl | rfl | rfl
  · rfl
  · exact findOperatorFrom_cons (by decide) (by decide) h rest
  · exact findOperatorFrom_cons (by decide) (by decide) h rest

theorem findOperatorFrom_digits {digits : List Char} (h : ∀ c ∈ digits, isDigit c = true ∨ c = '.')
    (before rest : List Char) :
    findOperatorFrom before 0 (digits ++ rest) =
      findOperatorFrom (digits.reverse ++ before) 0 rest := by
  have hbalanced : Balanced Inert digits := by
    refine Balanced.of_forall fun c hc => ?_
    rcases h c hc with hdigit | rfl
    · refine ⟨?_, ?_, isSymbol_of_isDigit hdigit, ?_⟩ <;> rintro rfl <;>
        exact absurd hdigit (by decide)
    · exact ⟨by decide, by decide, by decide, by decide⟩
  exact hbalanced.findOperatorFrom_append (Int.le_refl 0) (fun _ _ hc => hc.1) before rest

theorem findOperatorFrom_mantissa {sign mantissa : List Char} (hsign : IsSign sign)
    (hmantissa : IsMantissa isDigit mantissa) (rest : List Char) :
    findOperatorFrom [] 0 (sign ++ mantissa ++ rest) =
      findOperatorFrom (sign ++ mantissa).reverse 0 rest := by
  rw [List.append_assoc, findOperatorFrom_sign hsign rfl,
    findOperatorFrom_digits fun c hc => hmantissa.mem_cases hc, List.append_nil,
    List.reverse_append]

theorem findOperatorFrom_letter {letter : Char} (hletter : letter = 'e' ∨ letter = 'E')
    (before rest : List Char) :
    findOperatorFrom before 0 (letter :: rest) = findOperatorFrom (letter :: before) 0 rest := by
  have hsymbol : Operator.isSymbol letter = false := by
    rcases hletter with rfl | rfl <;> decide
  have hplain : stepDepth 0 letter = 0 := by
    rcases hletter with rfl | rfl <;> decide
  rw [findOperatorFrom, hsymbol, Bool.false_and, Bool.false_and, if_neg Bool.false_ne_true, hplain]

/-- The last digit of a text, perhaps with a point after it, is an ASCII digit. -/
def EndsInAsciiDigit (text : List Char) : Prop :=
  ∃ before last, last.isDigit = true ∧ (text = before ++ [last] ∨ text = before ++ [last, '.'])

theorem EndsInAsciiDigit.append {text : List Char} (h : EndsInAsciiDigit text)
    (before : List Char) : EndsInAsciiDigit (before ++ text) := by
  obtain ⟨middle, last, hlast, rfl | rfl⟩ := h
  · exact ⟨before ++ middle, last, hlast, .inl (by simp)⟩
  · exact ⟨before ++ middle, last, hlast, .inr (by simp)⟩

/-- The only digits among word characters and dots are ASCII digits. -/
theorem isDigit_core_of_isDotted {c : Char} (hdotted : isDotted c = true)
    (hdigit : isDigit c = true) : c.isDigit = true := by
  rcases isDotted_cases hdotted with hword | rfl
  · have hbound := (bounds_of_isWord hword).2
    exact isDigit_of_ascii (by omega) hdigit
  · cases hdigit

/-- The word characters and dots that a text ends with. -/
def dottedTail (text : List Char) : List Char := (text.reverse.takeWhile isDotted).reverse

/-- In front of the tail there is nothing, or a character of another kind. -/
theorem exists_eq_append_dottedTail (text : List Char) :
    ∃ front, text = front ++ dottedTail text ∧
      ∀ c, front.getLast? = some c → isDotted c = false := by
  refine ⟨(text.reverse.dropWhile isDotted).reverse, ?_, fun c hc => ?_⟩
  · rw [dottedTail, ← List.reverse_append, List.takeWhile_append_dropWhile, List.reverse_reverse]
  · have hstop := List.head?_dropWhile_not isDotted text.reverse
    rw [List.getLast?_reverse] at hc
    rwa [hc] at hstop

theorem isDotted_of_mem_dottedTail {text : List Char} {c : Char} (h : c ∈ dottedTail text) :
    isDotted c = true :=
  List.mem_takeWhile_imp (List.mem_reverse.1 h)

/-- A sign is no part of a word. -/
theorem dottedTail_append_of_isSign {sign : List Char} (hsign : IsSign sign) (text : List Char) :
    dottedTail (sign ++ text) = dottedTail text := by
  have hnil : sign.reverse.takeWhile isDotted = [] := by
    rcases hsign with rfl | rfl | rfl <;> decide
  rw [dottedTail, dottedTail, List.reverse_append, List.takeWhile_append, hnil, List.append_nil]
  split
  · rename_i hall
    rw [(List.takeWhile_prefix isDotted).eq_of_length hall]
  · rfl

theorem EndsInAsciiDigit.exists_mem_dottedTail {text : List Char} (h : EndsInAsciiDigit text) :
    ∃ c ∈ dottedTail text, c.isDigit = true := by
  obtain ⟨before, last, hlast, hends⟩ := h
  have hword : isDotted last = true := by
    simp [isDotted, isWord, Char.isAlphanum, hlast]
  have hpoint : isDotted '.' = true := rfl
  refine ⟨last, ?_, hlast⟩
  rcases hends with rfl | rfl <;> simp [dottedTail, hword, hpoint]

/-- **The letter of an exponent is known as such after an ASCII digit**, and not after a digit of
another script. -/
theorem endsInExponent_iff {letter : Char} {sign mantissa : List Char}
    (hletter : letter = 'e' ∨ letter = 'E') (hsign : IsSign sign)
    (hmantissa : IsMantissa isDigit mantissa) :
    endsInExponent (letter :: (sign ++ mantissa).reverse) = true ↔
      EndsInAsciiDigit (sign ++ mantissa) := by
  have hmark : (letter == 'e' || letter == 'E') = true := by simpa using hletter
  rw [endsInExponent, hmark, Bool.true_and]
  change isPlainNumeral (dottedTail (sign ++ mantissa)) = true ↔ _
  constructor
  · intro h
    obtain ⟨front, hfront, -⟩ := exists_eq_append_dottedTail (sign ++ mantissa)
    rw [hfront]
    exact EndsInAsciiDigit.append (isMantissa_of_isPlainNumeral h).exists_last front
  · intro h
    obtain ⟨c, hc, hdigit⟩ := h.exists_mem_dottedTail
    rw [dottedTail_append_of_isSign hsign] at hc ⊢
    -- the tail is the end of the mantissa
    obtain ⟨front, hfront, -⟩ := exists_eq_append_dottedTail mantissa
    rw [hfront] at hmantissa
    have htail := hmantissa.of_append rfl ⟨c, hc, isDigit_of_coreIsDigit hdigit⟩
    exact isPlainNumeral_of_isMantissa (htail.imp fun d hd hdigit =>
      isDigit_core_of_isDotted (isDotted_of_mem_dottedTail hd) hdigit)

theorem endsInOperand_letter {letter : Char} (hletter : letter = 'e' ∨ letter = 'E')
    (before : List Char) :
    endsInOperand (letter :: before) = !endsInExponent (letter :: before) := by
  have hblank : isBlank letter = false := by
    rcases hletter with rfl | rfl <;> decide
  have hsymbol : Operator.isSymbol letter = false := by
    rcases hletter with rfl | rfl <;> decide
  simp [endsInOperand, hblank, hsymbol]

/-- The sign of the exponent of a numeral is known as such, if there is one: the digit next to the
exponent is an ASCII digit. -/
def SignKnown (numeral : List Char) : Prop :=
  ∀ front letter sign digits, numeral = front ++ letter :: Operator.symbol sign :: digits →
    (letter = 'e' ∨ letter = 'E') → EndsInAsciiDigit front

theorem findOperatorFrom_exponent {sign mantissa exponent : List Char} (hsign : IsSign sign)
    (hmantissa : IsMantissa isDigit mantissa) (hexponent : IsExponent exponent)
    (hknown : SignKnown (sign ++ mantissa ++ exponent)) (rest : List Char) :
    findOperatorFrom (sign ++ mantissa).reverse 0 (exponent ++ rest) =
      findOperatorFrom (exponent.reverse ++ (sign ++ mantissa).reverse) 0 rest := by
  rcases hexponent with rfl | ⟨letter, inner, digits, hletter, hinner, -, hdigits, rfl⟩
  · rfl
  rw [List.cons_append, findOperatorFrom_letter hletter]
  -- after the letter no operand ends, unless the exponent has no sign
  have hpass : findOperatorFrom (letter :: (sign ++ mantissa).reverse) 0
        (inner ++ (digits ++ rest)) =
      findOperatorFrom (inner.reverse ++ letter :: (sign ++ mantissa).reverse) 0
        (digits ++ rest) := by
    have hends (operator : Operator)
        (h : SignKnown (sign ++ mantissa ++ letter :: operator.symbol :: digits)) :
        endsInOperand (letter :: (sign ++ mantissa).reverse) = false := by
      have hascii := h (sign ++ mantissa) letter operator digits rfl hletter
      rw [endsInOperand_letter hletter, (endsInExponent_iff hletter hsign hmantissa).2 hascii]
      rfl
    rcases hinner with rfl | rfl | rfl
    · rfl
    · exact findOperatorFrom_sign (.inr (.inl rfl)) (hends .plus hknown) _
    · exact findOperatorFrom_sign (.inr (.inr rfl)) (hends .minus hknown) _
  rw [List.append_assoc, hpass, findOperatorFrom_digits fun c hc => .inl (hdigits c hc)]
  simp

/-- The characters of a numeral are no blanks. -/
theorem isBlank_of_readNumeral? {text : List Char} {numeral : Numeral}
    (h : readNumeral? text = some numeral) : ∀ c ∈ text, isBlank c = false := by
  intro c hc
  rcases mem_cases_of_readNumeral? h hc with hdigit | hmark
  · by_contra hblank
    rw [isDigit_of_isBlank (Bool.of_not_eq_false hblank)] at hdigit
    cases hdigit
  · simp only [List.mem_cons, List.not_mem_nil, or_false] at hmark
    rcases hmark with rfl | rfl | rfl | rfl | rfl <;> rfl

/-- **Numerals are operands** if the sign of their exponent is known: none of their signs is an
operator. -/
theorem operand_of_signKnown {text : List Char} {numeral : Numeral}
    (h : readNumeral? text = some numeral) (hknown : SignKnown text) : Operand text := by
  have hblank := isBlank_of_readNumeral? h
  refine ⟨solid_of_forall (ne_nil_of_readNumeral? h) hblank, ?_, ?_⟩
  · intro rest
    obtain ⟨sign, mantissa, exponent, hsign, hmantissa, hexponent, rfl⟩ := shape_of_readNumeral? h
    rw [← List.append_assoc] at hknown
    rw [← List.append_assoc, List.append_assoc (sign ++ mantissa),
      findOperatorFrom_mantissa hsign hmantissa,
      findOperatorFrom_exponent hsign hmantissa hexponent hknown, ← List.reverse_append]
  · cases hreverse : text.reverse with
    | nil => exact absurd (List.reverse_eq_nil_iff.1 hreverse) (ne_nil_of_readNumeral? h)
    | cons last before =>
      have hlast : text.getLast? = some last := by
        rw [← List.head?_reverse, hreverse]
        rfl
      have hbare := hblank last (List.mem_of_getLast? hlast)
      rcases last_cases_of_readNumeral? h hlast with hdigit | rfl
      · have hletter : (last == 'e' || last == 'E') = false := by
          rw [Bool.or_eq_false_iff, beq_eq_false_iff_ne, beq_eq_false_iff_ne]
          constructor <;> rintro rfl <;> exact absurd hdigit (by decide)
        rw [endsInOperand, List.dropWhile_cons, hbare, if_neg Bool.false_ne_true]
        simp only [isSymbol_of_isDigit hdigit, endsInExponent, hletter, Bool.false_and,
          Bool.not_false, Bool.and_self]
      · simp [endsInOperand, endsInExponent, hbare, Operator.isSymbol, Operator.ofSymbol?]

/-- Operators are none of the other characters of numerals. -/
theorem symbol_cases (operator : Operator) :
    isDigit operator.symbol = false ∧ operator.symbol ∉ ['.', 'e', 'E'] := by
  cases operator <;> decide

theorem symbol_notMem_digits (operator : Operator) {digits : List Char}
    (h : ∀ c ∈ digits, isDigit c = true) : operator.symbol ∉ digits := by
  intro hmem
  have hdigit := (symbol_cases operator).1
  rw [h _ hmem] at hdigit
  cases hdigit

theorem symbol_notMem_mantissa (operator : Operator) {mantissa : List Char}
    (h : IsMantissa isDigit mantissa) : operator.symbol ∉ mantissa := by
  obtain ⟨hdigit, hmark⟩ := symbol_cases operator
  intro hmem
  rcases h.mem_cases hmem with hdigit' | hpoint
  · rw [hdigit'] at hdigit
    cases hdigit
  · rw [hpoint] at hmark
    exact hmark (by simp)

/-- What is not the sign of a text is in what follows it. -/
theorem exists_append_of_isSign {sign second front rest : List Char} {c : Char}
    (hsign : IsSign sign) (h : sign ++ second = front ++ c :: rest) :
    front = [] ∨ ∃ middle, front = sign ++ middle ∧ second = middle ++ c :: rest := by
  rcases front with _ | ⟨first, front⟩
  · exact .inl rfl
  refine .inr ?_
  rcases hsign with rfl | rfl | rfl
  · exact ⟨_, rfl, h⟩
  · obtain ⟨rfl, hrest⟩ := List.cons.inj h
    exact ⟨front, rfl, hrest⟩
  · obtain ⟨rfl, hrest⟩ := List.cons.inj h
    exact ⟨front, rfl, hrest⟩

/-- **Where an operator stands in a numeral**: in front of everything, or between the letter and the
digits of the exponent. -/
theorem front_cases_of_readNumeral? {front rest : List Char} {operator : Operator}
    {numeral : Numeral} (h : readNumeral? (front ++ operator.symbol :: rest) = some numeral) :
    front = [] ∨ ∃ sign mantissa letter, IsSign sign ∧ IsMantissa isDigit mantissa ∧
      (letter = 'e' ∨ letter = 'E') ∧ front = sign ++ mantissa ++ [letter] := by
  obtain ⟨sign, mantissa, exponent, hsign, hmantissa, hexponent, htext⟩ := shape_of_readNumeral? h
  rcases exists_append_of_isSign hsign htext.symm with hnil | ⟨unsigned, rfl, hunsigned⟩
  · exact .inl hnil
  refine .inr ⟨sign, mantissa, ?_⟩
  obtain ⟨tail, rfl, htail⟩ :=
    exists_append_of_notMem hunsigned (symbol_notMem_mantissa operator hmantissa)
  rcases hexponent with rfl | ⟨letter, inner, digits, hletter, hinner, -, hdigits, rfl⟩
  · simp at htail
  have hne : operator.symbol ∉ [letter] := by
    rw [List.mem_singleton]
    rintro rfl
    exact (symbol_cases operator).2 (by rcases hletter with h | h <;> simp [h])
  obtain ⟨after, rfl, hafter⟩ :=
    exists_append_of_notMem (show [letter] ++ (inner ++ digits) = _ from htail) hne
  refine ⟨letter, hsign, hmantissa, hletter, ?_⟩
  rcases exists_append_of_isSign hinner hafter with rfl | ⟨last, -, hlast⟩
  · simp
  · exact absurd (by simp [hlast]) (symbol_notMem_digits operator hdigits)

/-- In front of an exponent with a sign there is a number without an exponent. -/
theorem exists_mantissa_of_readNumeral? {front digits : List Char} {letter : Char}
    {operator : Operator} {numeral : Numeral}
    (h : readNumeral? (front ++ letter :: operator.symbol :: digits) = some numeral) :
    ∃ sign mantissa, IsSign sign ∧ IsMantissa isDigit mantissa ∧ (letter = 'e' ∨ letter = 'E') ∧
      front = sign ++ mantissa := by
  rw [List.append_cons] at h
  obtain hnil | ⟨sign, mantissa, _, hsign, hmantissa, hletter, hfront⟩ :=
    front_cases_of_readNumeral? h
  · exact absurd hnil (by simp)
  · obtain ⟨rfl, hsame⟩ := List.append_inj' hfront rfl
    exact ⟨sign, mantissa, hsign, hmantissa, List.singleton_inj.1 hsame ▸ hletter, rfl⟩

theorem letter_notMem_front {front digits : List Char} {letter : Char} {operator : Operator}
    {numeral : Numeral}
    (h : readNumeral? (front ++ letter :: operator.symbol :: digits) = some numeral)
    {letter' : Char} (hletter : letter' = 'e' ∨ letter' = 'E') : letter' ∉ front := by
  obtain ⟨sign, mantissa, hsign, hmantissa, -, rfl⟩ := exists_mantissa_of_readNumeral? h
  have hplain : isDigit letter' = false ∧ letter' ∉ ['.', '+', '-'] := by
    rcases hletter with rfl | rfl <;> decide
  rw [List.mem_append]
  rintro (hmem | hmem)
  · rcases hsign with rfl | rfl | rfl
    · cases hmem
    · exact hplain.2 (by simp_all)
    · exact hplain.2 (by simp_all)
  · rcases hmantissa.mem_cases hmem with hdigit | rfl
    · rw [hplain.1] at hdigit
      cases hdigit
    · exact hplain.2 (by simp)

/-- **The sign of an exponent is known after an ASCII digit.**  A numeral has one exponent, and so
there is one place to look at. -/
theorem signKnown_iff {front digits : List Char} {letter : Char} {operator : Operator}
    {numeral : Numeral}
    (h : readNumeral? (front ++ letter :: operator.symbol :: digits) = some numeral) :
    SignKnown (front ++ letter :: operator.symbol :: digits) ↔ EndsInAsciiDigit front := by
  obtain ⟨-, -, -, -, hletter, -⟩ := exists_mantissa_of_readNumeral? h
  refine ⟨fun hknown => hknown front letter operator digits rfl hletter, ?_⟩
  intro hascii front' letter' operator' digits' htext hletter'
  have h' := h
  rw [htext] at h'
  obtain ⟨middle, rfl, -⟩ := exists_append_of_notMem htext (letter_notMem_front h hletter')
  obtain ⟨middle', hfront, -⟩ := exists_append_of_notMem htext.symm (letter_notMem_front h' hletter)
  rw [List.append_assoc, List.self_eq_append_right, List.append_eq_nil_iff] at hfront
  rwa [hfront.1, List.append_nil]

/-- The sign of an exponent is known in a numeral of ASCII digits. -/
theorem signKnown_of_ascii {text : List Char} {numeral : Numeral}
    (h : readNumeral? text = some numeral)
    (hascii : ∀ c ∈ text, isDigit c = true → c.isDigit = true) : SignKnown text := by
  rintro front letter operator digits rfl -
  obtain ⟨sign, mantissa, -, hmantissa, -, rfl⟩ := exists_mantissa_of_readNumeral? h
  exact EndsInAsciiDigit.append
    (hmantissa.imp fun c hc => hascii c (by simp [hc])).exists_last sign

/-- **Numerals are operands**: none of their signs is an operator. -/
theorem operand_of_readNumeral? {text : List Char} {numeral : Numeral}
    (h : readNumeral? text = some numeral)
    (hascii : ∀ c ∈ text, isDigit c = true → c.isDigit = true) : Operand text :=
  operand_of_signKnown h (signKnown_of_ascii h hascii)

/-- **No numeral holds an operator.** -/
theorem findOperator?_of_readNumeral? {text : List Char} {numeral : Numeral}
    (h : readNumeral? text = some numeral)
    (hascii : ∀ c ∈ text, isDigit c = true → c.isDigit = true) : findOperator? text = none :=
  (operand_of_readNumeral? h hascii).findOperator?_eq

end Shape
end LiveVectors

import LiveVectors.Proofs.Readings

/-!
# Numbers in front of an operator

There are two descriptions of where a numeral ends.  The reader of numbers takes the digits of any
script; the search for an operator knows the letter of an exponent only after an ASCII digit.  So a
number can stand in front of every operator, unless the operator that is found first is the sign of
its own exponent.

* `readNumeral?_operator` — what goes on with an operator after a numeral is no numeral.
* `ofChars_of_operand` — an operand, an operator and a text that is not blank are an operation.
* `exists_operand_of_not_signKnown` — a numeral whose sign is not known is cut at that sign, and
  what stands in front of it is an opaque text.
* `read_numeral_operator` — the result.
-/

set_option autoImplicit false

namespace LiveVectors

open Text Shape

/-! ## Numerals that go on -/

namespace Number

/-- **What goes on with an operator after a numeral is no numeral**: operators stand in front of a
numeral or after the letter of its exponent, and no numeral ends in that letter. -/
theorem readNumeral?_operator {text blanks : List Char} {numeral : Numeral}
    (h : readNumeral? text = some numeral) (hblanks : ∀ c ∈ blanks, isBlank c = true)
    (operator : Operator) (rest : List Char) :
    readNumeral? (text ++ (blanks ++ operator.symbol :: rest)) = none := by
  rw [Option.eq_none_iff_forall_ne_some]
  intro longer hlonger
  rw [← List.append_assoc] at hlonger
  obtain hnil | ⟨sign, mantissa, letter, -, -, hletter, hfront⟩ :=
    front_cases_of_readNumeral? hlonger
  · exact ne_nil_of_readNumeral? h (List.append_eq_nil_iff.1 hnil).1
  have hplain : isDigit letter = false ∧ isBlank letter = false ∧ letter ≠ '.' := by
    rcases hletter with rfl | rfl <;> decide
  have hlast : (text ++ blanks).getLast? = some letter := by rw [hfront, List.getLast?_concat]
  rcases List.eq_nil_or_concat' blanks with rfl | ⟨front, blank, rfl⟩
  · rw [List.append_nil] at hlast
    rcases last_cases_of_readNumeral? h hlast with hdigit | hpoint
    · rw [hplain.1] at hdigit
      cases hdigit
    · exact hplain.2.2 hpoint
  · rw [← List.append_assoc, List.getLast?_concat, Option.some_inj] at hlast
    have hblank := hblanks blank (by simp)
    rw [hlast, hplain.2.1] at hblank
    cases hblank

/-- **A number with an operator and a text after it is no number.** -/
theorem readNumber?_operator {before text blanks right : List Char} {numeral : Numeral}
    (hbefore : ∀ c ∈ before, isBlank c = true) (h : readNumeral? text = some numeral)
    (hblanks : ∀ c ∈ blanks, isBlank c = true) (operator : Operator)
    (hright : isBlankText right = false) :
    readNumber? (before ++ (text ++ (blanks ++ operator.symbol :: right))) = none := by
  have hsolid := solid_of_forall (ne_nil_of_readNumeral? h) (isBlank_of_readNumeral? h)
  obtain ⟨rest, htrim, -⟩ :=
    exists_trim_append hbefore hsolid hright (blanks ++ [operator.symbol])
  rw [List.append_assoc, List.singleton_append, List.append_assoc, List.singleton_append] at htrim
  rw [readNumber?, htrim, readNumeral?_operator h hblanks operator rest]
  rfl

end Number

namespace Expression

open Number

/-! ## Reading an operation -/

/-- **An operand, an operator and a text that is not blank** are read as an operation, unless all of
it is a number. -/
theorem ofChars_of_operand {before left blanks right : List Char}
    (hbefore : ∀ c ∈ before, isBlank c = true) (hleft : Operand left)
    (hblanks : ∀ c ∈ blanks, isBlank c = true) {operator : Operator}
    (hright : isBlankText right = false)
    (hnumber : readNumber? (before ++ (left ++ (blanks ++ operator.symbol :: right))) = none) :
    ofChars (before ++ (left ++ (blanks ++ operator.symbol :: right))) = do
      return .operation operator (← ofChars left) (← ofChars right) := by
  obtain ⟨rest, htrim, hrest, hsame⟩ :=
    exists_trim_append hbefore hleft.solid hright (blanks ++ [operator.symbol])
  have hshape : trim (before ++ (left ++ (blanks ++ operator.symbol :: right))) =
      left ++ (blanks ++ operator.symbol :: rest) := by simpa using htrim
  have hoperation := hleft.operation?_eq hblanks operator rest
  have hcall := call?_of_operation? hoperation
  have hfirst : ofChars (left ++ blanks) = ofChars left :=
    ofChars_pad (List.forall_mem_nil _) hleft.solid hblanks
  have hsecond : ofChars rest = ofChars right := by
    rw [← ofChars_trim rest, hsame, ofChars_trim]
  rw [ofChars_eq, readNumber?_trim, hnumber, hshape]
  simp only [hcall, hoperation, hrest, hfirst, hsecond, Bool.false_eq_true, if_false]

/-! ## Numerals with a sign that is not known -/

/-- After a digit of another script, the letter of an exponent ends an operand. -/
theorem operand_letter {letter : Char} {sign mantissa : List Char}
    (hletter : letter = 'e' ∨ letter = 'E') (hsign : IsSign sign)
    (hmantissa : IsMantissa isDigit mantissa) (hascii : ¬ EndsInAsciiDigit (sign ++ mantissa))
    (hblank : ∀ c ∈ sign ++ mantissa ++ [letter], isBlank c = false) :
    Operand (sign ++ mantissa ++ [letter]) := by
  refine ⟨solid_of_forall (by simp) hblank, fun rest => ?_, ?_⟩
  · rw [List.append_assoc, findOperatorFrom_mantissa hsign hmantissa, List.singleton_append,
      findOperatorFrom_letter hletter, List.reverse_concat]
  · rw [List.reverse_concat, endsInOperand_letter hletter, Bool.not_eq_true', Bool.eq_false_iff,
      ne_eq, endsInExponent_iff hletter hsign hmantissa]
    exact hascii

/-- What begins like no identifier is read as a number, an operation or an opaque text. -/
theorem ofChars_of_head {c : Char} {cs : List Char} (hsolid : Solid (c :: cs))
    (hstart : isWordStart c = false) (hnumber : readNumber? (c :: cs) = none)
    (hoperation : operation? (c :: cs) = none) :
    ofChars (c :: cs) = .ok (.text (String.ofList (c :: cs))) := by
  have hword : identifier? (c :: cs) = none := by simp [identifier?, hstart]
  have htrim := hsolid.trim_eq
  have hread : ReadAs (c :: cs) (.text (String.ofList (trim (c :: cs)))) := by
    refine .text ?_ ?_ ?_ ?_ ?_ ?_ <;> rw [htrim]
    · exact hnumber
    · simp [call?, hword]
    · exact hoperation
    · simp [memberCall?, dotted?, hword]
    · simp [member?, dotted?, hword]
    · simp [isIdentifier, hword]
  rw [hread.ofChars_eq, htrim]

/-- **A numeral whose sign is not known is cut at that sign**: what stands in front of the sign is
an operand, and is read as an opaque text. -/
theorem exists_operand_of_not_signKnown {text : List Char} {numeral : Numeral}
    (h : readNumeral? text = some numeral) (hknown : ¬ SignKnown text) :
    ∃ front sign digits, text = front ++ Operator.symbol sign :: digits ∧ Operand front ∧
      ofChars front = .ok (.text (String.ofList front)) := by
  simp only [SignKnown, not_forall] at hknown
  obtain ⟨unsigned, letter, sign, digits, rfl, hletter, hascii⟩ := hknown
  obtain ⟨first, mantissa, hfirst, hmantissa, -, rfl⟩ := exists_mantissa_of_readNumeral? h
  rw [List.append_cons] at h
  have hoperand := operand_letter hletter hfirst hmantissa hascii fun c hc =>
    isBlank_of_readNumeral? h c (List.mem_append_left _ hc)
  refine ⟨first ++ mantissa ++ [letter], sign, digits, by simp, hoperand, ?_⟩
  -- no numeral ends in a letter, and none begins like an identifier
  have hnumeral : readNumeral? (first ++ mantissa ++ [letter]) = none := by
    rw [Option.eq_none_iff_forall_ne_some]
    intro shorter hshorter
    have hlast := last_cases_of_readNumeral? hshorter List.getLast?_concat
    rcases hletter with rfl | rfl <;> exact absurd hlast (by decide)
  obtain ⟨c, cs, hcons⟩ := List.exists_cons_of_ne_nil hoperand.solid.ne_nil
  have hnumber := readNumber?_of_readNumeral? hoperand.solid hnumeral
  have hoperation := hoperand.operation?_eq_none
  rw [hcons] at h hnumber hoperation ⊢
  exact ofChars_of_head (hcons ▸ hoperand.solid) (isWordStart_of_readNumeral? h) hnumber hoperation

/-! ## Literals -/

section Literal

variable {before text after right : List Char} {numeral : Numeral} {operator : Operator}

/-- A number whose sign is known is the left side of an operation. -/
theorem ofChars_of_signKnown {value : Float} (hbefore : ∀ c ∈ before, isBlank c = true)
    (h : readNumeral? text = some numeral) (hvalue : ofChars text = .ok (.number value))
    (hknown : SignKnown text) (hafter : ∀ c ∈ after, isBlank c = true)
    (hright : isBlankText right = false) :
    ofChars (before ++ (text ++ (after ++ operator.symbol :: right))) = do
      return .operation operator (.number value) (← ofChars right) := by
  rw [ofChars_of_operand hbefore (operand_of_signKnown h hknown) hafter hright
    (readNumber?_operator hbefore h hafter operator hright), hvalue]
  rfl

/-- A number whose sign is not known is split at that sign. -/
theorem ofChars_of_not_signKnown (hbefore : ∀ c ∈ before, isBlank c = true)
    (h : readNumeral? text = some numeral) (hknown : ¬ SignKnown text)
    (hafter : ∀ c ∈ after, isBlank c = true) (hright : isBlankText right = false) :
    ∃ front sign digits, text = front ++ Operator.symbol sign :: digits ∧ Solid front ∧
      ofChars (before ++ (text ++ (after ++ operator.symbol :: right))) = do
        return .operation sign (.text (String.ofList front))
          (← ofChars (digits ++ (after ++ operator.symbol :: right))) := by
  have hnumber := readNumber?_operator hbefore h hafter operator hright
  obtain ⟨front, sign, digits, rfl, hoperand, hread⟩ := exists_operand_of_not_signKnown h hknown
  refine ⟨front, sign, digits, rfl, hoperand.solid, ?_⟩
  have hcut : before ++ (front ++ sign.symbol :: digits ++ (after ++ operator.symbol :: right)) =
      before ++ (front ++ ([] ++ sign.symbol :: (digits ++
        (after ++ operator.symbol :: right)))) := by simp
  have hrest : isBlankText (digits ++ (after ++ operator.symbol :: right)) = false := by
    rw [isBlankText] at hright ⊢
    simp [List.all_append, hright]
  rw [hcut] at hnumber ⊢
  rw [ofChars_of_operand hbefore hoperand (List.forall_mem_nil _) hrest hnumber, hread]
  rfl

end Literal

/-- **Numbers in front of an operator.**  A text is a number, and an operator and a text that is not
blank follow it.

If no digit of another script stands next to the sign of its exponent, all of it is read as an
operation with the number on the left, and cannot be read if and only if the text after the operator
cannot.  Otherwise the sign of the exponent is the operator that is found, and what stands in front
of it is an opaque text. -/
theorem read_numeral_operator {numeral right : String} {value : Float} (operator : Operator)
    (hvalue : readNumber? numeral.toList = some value)
    (hright : isBlankText right.toList = false) :
    (SignKnown (trim numeral.toList) →
      read (numeral ++ String.singleton operator.symbol ++ right) = do
        return .operation operator (.number value) (← read right)) ∧
    (¬ SignKnown (trim numeral.toList) →
      ∃ front sign digits, numeral = front ++ String.singleton (Operator.symbol sign) ++ digits ∧
        read (numeral ++ String.singleton operator.symbol ++ right) = do
          return .operation sign (.text (String.ofList (trim front.toList)))
            (← read (digits ++ String.singleton operator.symbol ++ right))) := by
  obtain ⟨parsed, hparsed⟩ : ∃ parsed, readNumeral? (trim numeral.toList) = some parsed := by
    rw [readNumber?, Option.bind_eq_bind, Option.bind_eq_some_iff] at hvalue
    exact ⟨_, hvalue.choose_spec.1⟩
  have hbody : ofChars (trim numeral.toList) = .ok (.number value) := by
    rw [ofChars_eq, readNumber?_trim, readNumber?_trim, hvalue]
  obtain ⟨before, after, hbefore, hafter, hsplit⟩ := exists_eq_append_trim numeral.toList
  have htext : (numeral ++ String.singleton operator.symbol ++ right).toList =
      before ++ (trim numeral.toList ++ (after ++ operator.symbol :: right.toList)) := by
    simp only [String.toList_append, String.toList_singleton]
    conv_lhs => rw [hsplit]
    simp
  refine ⟨fun hknown => ?_, fun hknown => ?_⟩
  · rw [read, htext]
    exact ofChars_of_signKnown hbefore hparsed hbody hknown hafter hright
  · obtain ⟨front, sign, digits, hfront, hsolid, hread⟩ :=
      ofChars_of_not_signKnown hbefore hparsed hknown hafter hright
    refine ⟨String.ofList (before ++ front), sign, String.ofList (digits ++ after), ?_, ?_⟩
    · refine String.toList_injective ?_
      rw [hsplit, hfront]
      simp
    · have hfirst : trim (before ++ front) = front := by
        simpa using trim_pad hbefore hsolid (List.forall_mem_nil _)
      have hdigits : (String.ofList (digits ++ after) ++ String.singleton operator.symbol ++
          right).toList = digits ++ (after ++ operator.symbol :: right.toList) := by simp
      rw [read, read, htext, hdigits, String.toList_ofList, hfirst]
      exact hread

/-- A digit of another script at the beginning does no harm. -/
theorem read_numeral_operator_mixed :
    readNumber? " \u06635e-5 ".toList = some 0.00035 ∧ isBlankText "b".toList = false ∧
      SignKnown (trim " \u06635e-5 ".toList) ∧
      read (" \u06635e-5 " ++ String.singleton Operator.dividedBy.symbol ++ "b") = do
        return .operation .dividedBy (.number 0.00035) (← read "b") := by
  have hvalue : readNumber? " \u06635e-5 ".toList = some 0.00035 := by decide +kernel
  have hright : isBlankText "b".toList = false := by decide +kernel
  have hknown : SignKnown (trim " \u06635e-5 ".toList) := by
    have htrim : trim " \u06635e-5 ".toList =
        ['\u0663', '5'] ++ 'e' :: Operator.minus.symbol :: ['5'] := by decide +kernel
    have hsome : (readNumeral? (trim " \u06635e-5 ".toList)).isSome = true := by decide +kernel
    obtain ⟨numeral, hnumeral⟩ := Option.isSome_iff_exists.1 hsome
    rw [htrim] at hnumeral ⊢
    exact (signKnown_iff hnumeral).2 ⟨['\u0663'], '5', rfl, .inl rfl⟩
  exact ⟨hvalue, hright, hknown, (read_numeral_operator .dividedBy hvalue hright).1 hknown⟩

/-- **The sign of an exponent taken as an operator**: the digit next to the exponent is no ASCII
digit. -/
theorem exponent_sign_splits :
    ¬ ∀ (numeral right : String) (value : Float) (operator : Operator),
      readNumber? numeral.toList = some value → isBlankText right.toList = false →
      read (numeral ++ String.singleton operator.symbol ++ right) = do
        return .operation operator (.number value) (← read right) := by
  intro h
  have hone : ReadAs "1".toList (.number 1) := .number (by decide +kernel)
  have hsum : ReadAs "5+1".toList (.operation .plus (.number 5) (.number 1)) := by
    have hoperation : operation? (trim "5+1".toList) = some (['5'], .plus, ['1']) := by
      decide +kernel
    have hfive : ReadAs ['5'] (.number 5) := .number (by decide +kernel)
    exact .operation (by decide +kernel) hoperation (by decide +kernel) hfive hone
  have hletter : ReadAs "\u0663e".toList (.text "\u0663e") :=
    .text (by decide +kernel) (by decide +kernel) (by decide +kernel) (by decide +kernel)
      (by decide +kernel) (by decide +kernel)
  have hread : read ("\u0663e-5" ++ String.singleton Operator.plus.symbol ++ "1") =
      .ok (.operation .minus (.text "\u0663e") (.operation .plus (.number 5) (.number 1))) := by
    have hoperation : operation? (trim "\u0663e-5+1".toList) =
        some ("\u0663e".toList, .minus, "5+1".toList) := by decide +kernel
    exact readAs_iff.2 (.operation (by decide +kernel) hoperation (by decide +kernel) hletter hsum)
  have hsame := h "\u0663e-5" "1" 0.00003 .plus (by decide +kernel) (by decide +kernel)
  rw [hread, read, hone.ofChars_eq] at hsame
  exact absurd (Expression.operation.inj (Except.ok.inj hsame)).1 (by decide)

end Expression
end LiveVectors

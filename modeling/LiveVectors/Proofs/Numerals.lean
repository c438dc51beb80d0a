import LiveVectors.Proofs.Lexemes

/-!
# Numerals in other digits

The digits of a numeral may be those of any script.  Writing the ASCII digit of the same value for
each of them changes neither what is a numeral nor its value, so every number that a script can
write has an ASCII numeral.

* `asciiForm` — a character with the ASCII digit in place of a digit of another script.
* `readNumeral?_map_asciiForm` — a text in ASCII digits is the same numeral.
* `exists_ascii_of_readNumber?` — the result for numbers.
-/

set_option autoImplicit false

namespace LiveVectors

open Text

namespace Text

/-- The ASCII digit of the same value for a digit; any other character is left alone. -/
def asciiForm (c : Char) : Char :=
  match digitValue? c with
  | some value => Char.ofNat (48 + value)
  | none => c

theorem digitValue?_le {c : Char} {value : Nat} (h : digitValue? c = some value) : value ≤ 9 := by
  rw [digitValue?, Option.map_eq_some_iff] at h
  obtain ⟨start, hstart, rfl⟩ := h
  have hrange := List.find?_some hstart
  simp only [Bool.and_eq_true, decide_eq_true_eq] at hrange
  omega

theorem digitValue?_ofNat : ∀ value ≤ 9, digitValue? (Char.ofNat (48 + value)) = some value := by
  decide

@[simp] theorem digitValue?_asciiForm (c : Char) : digitValue? (asciiForm c) = digitValue? c := by
  unfold asciiForm
  split
  · rename_i value hvalue
    rw [digitValue?_ofNat value (digitValue?_le hvalue), hvalue]
  · rfl

@[simp] theorem isDigit_asciiForm (c : Char) : isDigit (asciiForm c) = isDigit c := by
  rw [isDigit, isDigit, digitValue?_asciiForm]

theorem asciiForm_of_not_isDigit {c : Char} (h : isDigit c = false) : asciiForm c = c := by
  rw [isDigit, Option.isSome_eq_false_iff, Option.isNone_iff_eq_none] at h
  rw [asciiForm, h]

/-- Marks are left alone, and nothing else becomes one. -/
theorem asciiForm_eq_iff {c mark : Char} (hmark : isDigit mark = false) :
    asciiForm c = mark ↔ c = mark := by
  cases h : isDigit c with
  | false => rw [asciiForm_of_not_isDigit h]
  | true =>
    constructor
    · rintro rfl
      rw [isDigit_asciiForm, h] at hmark
      cases hmark
    · rintro rfl
      rw [h] at hmark
      cases hmark

theorem isDigit_core_asciiForm {c : Char} (h : isDigit c = true) :
    (asciiForm c).isDigit = true := by
  have hdigits : ∀ value ≤ 9, (Char.ofNat (48 + value)).isDigit = true := by decide
  rw [isDigit, Option.isSome_iff_exists] at h
  obtain ⟨value, hvalue⟩ := h
  rw [asciiForm, hvalue]
  exact hdigits value (digitValue?_le hvalue)

theorem digitsValue_map_asciiForm (digits : List Char) :
    digitsValue (digits.map asciiForm) = digitsValue digits := by
  rw [digitsValue, digitsValue, List.foldl_map]
  simp only [digitValue?_asciiForm]

end Text

namespace Number

theorem takeSign_cons (c : Char) (cs : List Char) :
    takeSign (c :: cs) =
      if c = '+' then (false, cs) else if c = '-' then (true, cs) else (false, c :: cs) := by
  rcases eq_or_ne c '+' with rfl | hplus
  · rfl
  rcases eq_or_ne c '-' with rfl | hminus
  · rfl
  rw [if_neg hplus, if_neg hminus]
  unfold takeSign
  split
  · exact absurd (List.cons.inj ‹_›).1 hplus
  · exact absurd (List.cons.inj ‹_›).1 hminus
  · rfl

theorem takeSign_map_asciiForm (text : List Char) :
    takeSign (text.map asciiForm) = ((takeSign text).1, (takeSign text).2.map asciiForm) := by
  cases text with
  | nil => rfl
  | cons c cs =>
    rw [List.map_cons, takeSign_cons, takeSign_cons]
    simp only [asciiForm_eq_iff (show isDigit '+' = false by decide),
      asciiForm_eq_iff (show isDigit '-' = false by decide)]
    split
    · rfl
    split <;> rfl

theorem takeWhile_map_asciiForm (text : List Char) :
    (text.map asciiForm).takeWhile isDigit = (text.takeWhile isDigit).map asciiForm := by
  rw [List.takeWhile_map]
  simp only [Function.comp_def, isDigit_asciiForm]

theorem dropWhile_map_asciiForm (text : List Char) :
    (text.map asciiForm).dropWhile isDigit = (text.dropWhile isDigit).map asciiForm := by
  rw [List.dropWhile_map]
  simp only [Function.comp_def, isDigit_asciiForm]

theorem takeDigits?_map_asciiForm (text : List Char) :
    takeDigits? isDigit (text.map asciiForm) = (takeDigits? isDigit text).map fun parts =>
      (parts.1.map asciiForm, parts.2.1.map asciiForm, parts.2.2.map asciiForm) := by
  rw [takeDigits?, takeDigits?, takeWhile_map_asciiForm, dropWhile_map_asciiForm]
  generalize text.takeWhile isDigit = whole
  rcases text.dropWhile isDigit with _ | ⟨c, cs⟩
  · cases whole <;> rfl
  rcases eq_or_ne c '.' with rfl | hpoint
  · have hmark : asciiForm '.' = '.' := rfl
    rw [List.map_cons, hmark]
    simp only [takeWhile_map_asciiForm, dropWhile_map_asciiForm]
    generalize cs.takeWhile isDigit = fraction
    cases whole <;> cases fraction <;> rfl
  · have hpoint' : asciiForm c ≠ '.' := fun h => hpoint ((asciiForm_eq_iff (by decide)).1 h)
    cases whole <;> simp [hpoint, hpoint']

theorem readExponent?_map_asciiForm (text : List Char) :
    readExponent? (text.map asciiForm) = readExponent? text := by
  cases text with
  | nil => rfl
  | cons letter rest =>
    have hletter : ∀ mark : Char, isDigit mark = false →
        (asciiForm letter == mark) = (letter == mark) := fun mark hmark => by
      rw [Bool.eq_iff_iff, beq_iff_eq, beq_iff_eq, asciiForm_eq_iff hmark]
    have hall : ∀ digits : List Char, (digits.map asciiForm).all isDigit = digits.all isDigit :=
      fun digits => by
        rw [List.all_map]
        simp only [Function.comp_def, isDigit_asciiForm]
    have hnil : ∀ digits : List Char, (digits.map asciiForm != []) = (digits != []) := by
      intro digits
      cases digits <;> rfl
    rw [List.map_cons, readExponent?, readExponent?, takeSign_map_asciiForm]
    simp only [hletter 'e' (by decide), hletter 'E' (by decide), hall, hnil,
      digitsValue_map_asciiForm]

/-- A numeral in ASCII digits. -/
def Numeral.asciiForm (numeral : Numeral) : Numeral :=
  { numeral with
    whole := numeral.whole.map Text.asciiForm
    fraction := numeral.fraction.map Text.asciiForm }

theorem Numeral.value_asciiForm (numeral : Numeral) : numeral.asciiForm.value = numeral.value := by
  rw [value, value, asciiForm, ← List.map_append, digitsValue_map_asciiForm, List.length_map]

/-- **A text in ASCII digits is the same numeral.** -/
theorem readNumeral?_map_asciiForm (text : List Char) :
    readNumeral? (text.map asciiForm) = (readNumeral? text).map Numeral.asciiForm := by
  rw [readNumeral?, readNumeral?, takeSign_map_asciiForm]
  simp only [takeDigits?_map_asciiForm]
  rcases takeDigits? isDigit (takeSign text).2 with _ | ⟨whole, fraction, rest⟩
  · rfl
  simp only [Option.map_some, Option.bind_eq_bind, Option.bind_some, readExponent?_map_asciiForm]
  rcases readExponent? rest with _ | exponent <;> rfl

/-- **Every number that can be written has an ASCII numeral.** -/
theorem exists_ascii_of_readNumber? {text : List Char} {value : Float}
    (h : readNumber? text = some value) :
    ∃ chars, (∀ c ∈ chars, c.toNat < 128) ∧ (∀ c ∈ chars, isBlank c = false) ∧
      readNumber? chars = some value := by
  simp only [readNumber?, Option.bind_eq_bind, Option.bind_eq_some_iff] at h
  obtain ⟨numeral, hnumeral, hvalue⟩ := h
  have hreads : readNumeral? ((trim text).map asciiForm) = some numeral.asciiForm := by
    rw [readNumeral?_map_asciiForm, hnumeral, Option.map_some]
  have hascii : ∀ c ∈ (trim text).map asciiForm, c.toNat < 128 ∧ isBlank c = false := by
    intro c hc
    rcases mem_cases_of_readNumeral? hreads hc with hdigit | hmark
    · obtain ⟨d, -, rfl⟩ := List.mem_map.1 hc
      rw [isDigit_asciiForm] at hdigit
      have hword : isWord (asciiForm d) = true := by
        simp [isWord, Char.isAlphanum, isDigit_core_asciiForm hdigit]
      have hhigh := (bounds_of_isWord hword).2
      exact ⟨by omega, isBlank_of_isWord hword⟩
    · simp only [List.mem_cons, List.not_mem_nil, or_false] at hmark
      rcases hmark with rfl | rfl | rfl | rfl | rfl <;> exact ⟨by decide, rfl⟩
  have hsolid : Solid ((trim text).map asciiForm) :=
    solid_of_forall (ne_nil_of_readNumeral? hreads) fun c hc => (hascii c hc).2
  refine ⟨_, fun c hc => (hascii c hc).1, fun c hc => (hascii c hc).2, ?_⟩
  rw [readNumber?, hsolid.trim_eq, hreads, Option.bind_eq_bind, Option.bind_some,
    Numeral.value_asciiForm]
  exact hvalue

end Number
end LiveVectors

import LiveVectors.Number.Numeral
import LiveVectors.Text.Word
import Mathlib

/-!
# Lexemes

What expressions are made of: words, blanks and numerals, and what the readers of expressions see
of them.

* `identifier?_append` — a word is read up to the first character that is no part of it, and nothing
  else is read as one (`identifier?_eq_some_iff`).
* `trim_append` — blanks around a text make no difference to what trimming leaves of it; of a
  `Solid` text, which begins and ends with something, it leaves everything (`trim_pad`), and what
  it leaves is solid (`solid_trim`).
* `shape_of_readNumeral?` — a numeral is a sign, digits with a point, and an exponent.
-/

set_option autoImplicit false

namespace LiveVectors

open Text

/-! ## Characters -/

namespace Text

theorem isWord_of_isWordStart {c : Char} (h : isWordStart c = true) : isWord c = true := by
  rw [isWordStart, Bool.or_eq_true] at h
  rcases h with h | h <;> simp [isWord, Char.isAlphanum, h]

/-- Word characters are among the printable ASCII characters. -/
theorem bounds_of_isWord {c : Char} (h : isWord c = true) : 48 ≤ c.toNat ∧ c.toNat ≤ 122 := by
  simp only [isWord, Char.isAlphanum, Char.isAlpha, Char.isUpper, Char.isLower, Char.isDigit,
    Bool.or_eq_true, Bool.and_eq_true, decide_eq_true_eq, beq_iff_eq, UInt32.le_iff_toNat_le,
    ge_iff_le] at h
  change (((65 ≤ c.toNat ∧ c.toNat ≤ 90) ∨ (97 ≤ c.toNat ∧ c.toNat ≤ 122)) ∨
    (48 ≤ c.toNat ∧ c.toNat ≤ 57)) ∨ c = '_' at h
  rcases h with ((h | h) | h) | rfl
  · omega
  · omega
  · omega
  · decide

theorem isBlank_of_isWord {c : Char} (h : isWord c = true) : isBlank c = false := by
  obtain ⟨hlow, hhigh⟩ := bounds_of_isWord h
  simp only [isBlank, Bool.or_eq_false_iff, Bool.and_eq_false_iff, decide_eq_false_iff_not,
    beq_eq_false_iff_ne]
  omega

theorem bounds_of_isWordStart {c : Char} (h : isWordStart c = true) : 65 ≤ c.toNat := by
  simp only [isWordStart, Char.isAlpha, Char.isUpper, Char.isLower, Bool.or_eq_true,
    Bool.and_eq_true, decide_eq_true_eq, beq_iff_eq, UInt32.le_iff_toNat_le, ge_iff_le] at h
  change ((65 ≤ c.toNat ∧ c.toNat ≤ 90) ∨ (97 ≤ c.toNat ∧ c.toNat ≤ 122)) ∨ c = '_' at h
  rcases h with (h | h) | rfl
  · omega
  · omega
  · decide

/-- The only digits among the ASCII characters are those that core knows. -/
theorem isDigit_of_ascii {c : Char} (hascii : c.toNat < 128) (h : isDigit c = true) :
    c.isDigit = true := by
  rw [isDigit, digitValue?, Option.isSome_map, List.find?_isSome] at h
  obtain ⟨start, hstart, hrange⟩ := h
  have hzero : ∀ start ∈ digitZeros, start = 48 ∨ 128 ≤ start := by decide
  simp only [Bool.and_eq_true, decide_eq_true_eq] at hrange
  have hbounds : 48 ≤ c.toNat ∧ c.toNat ≤ 57 := by
    rcases hzero start hstart with rfl | hbig <;> omega
  simpa [Char.isDigit, UInt32.le_iff_toNat_le] using hbounds

/-- No blank is a digit. -/
theorem isDigit_of_isBlank {c : Char} (h : isBlank c = true) : isDigit c = false := by
  have hzeros : ∀ start ∈ digitZeros, start = 0x30 ∨ 0x660 ≤ start ∧
      (start + 9 < 0x1680 ∨ 0x1680 < start) ∧ (start + 9 < 0x2000 ∨ 0x3000 < start) := by
    decide
  rw [isDigit, digitValue?, Option.isSome_map, Option.isSome_eq_false_iff,
    Option.isNone_iff_eq_none, List.find?_eq_none]
  intro start hstart
  have hzero := hzeros start hstart
  simp only [isBlank, Bool.or_eq_true, Bool.and_eq_true, decide_eq_true_eq, beq_iff_eq] at h
  simp only [Bool.and_eq_true, decide_eq_true_eq]
  omega

/-- No identifier begins with a digit. -/
theorem isDigit_of_isWordStart {c : Char} (h : isWordStart c = true) : isDigit c = false := by
  have hlow := bounds_of_isWordStart h
  have hhigh := bounds_of_isWord (isWord_of_isWordStart h)
  by_contra hdigit
  have hcore := isDigit_of_ascii (by omega) (Bool.of_not_eq_false hdigit)
  simp only [Char.isDigit, Bool.and_eq_true, decide_eq_true_eq, UInt32.le_iff_toNat_le,
    ge_iff_le] at hcore
  change 48 ≤ c.toNat ∧ c.toNat ≤ 57 at hcore
  omega

/-! ## Words -/

/-- An identifier begins like one and goes on with word characters. -/
theorem exists_cons_of_isIdentifier {text : List Char} (h : isIdentifier text = true) :
    ∃ c cs, text = c :: cs ∧ isWordStart c = true ∧ ∀ d ∈ cs, isWord d = true := by
  cases text with
  | nil => simp [isIdentifier, identifier?] at h
  | cons c cs =>
    rw [isIdentifier, identifier?] at h
    by_cases hstart : isWordStart c = true
    · rw [if_pos hstart] at h
      cases hrest : cs.dropWhile isWord with
      | nil => exact ⟨c, cs, rfl, hstart, List.dropWhile_eq_nil_iff.1 hrest⟩
      | cons d ds => simp [hrest] at h
    · simp [hstart] at h

theorem isWord_of_isIdentifier {text : List Char} (h : isIdentifier text = true) :
    ∀ c ∈ text, isWord c = true := by
  obtain ⟨c, cs, rfl, hstart, hword⟩ := exists_cons_of_isIdentifier h
  exact List.forall_mem_cons.2 ⟨isWord_of_isWordStart hstart, hword⟩

/-- **A word is read as far as it goes.** -/
theorem identifier?_append {name rest : List Char} (h : isIdentifier name = true)
    (hrest : ∀ c, rest.head? = some c → isWord c = false) :
    identifier? (name ++ rest) = some (name, rest) := by
  obtain ⟨c, cs, rfl, hstart, hword⟩ := exists_cons_of_isIdentifier h
  have hstop : rest.takeWhile isWord = [] ∧ rest.dropWhile isWord = rest := by
    cases rest with
    | nil => exact ⟨rfl, rfl⟩
    | cons d ds => simp [hrest d rfl]
  rw [List.cons_append, identifier?, if_pos hstart, List.takeWhile_append_of_pos hword,
    List.dropWhile_append_of_pos hword, hstop.1, hstop.2, List.append_nil]

/-- **What a word is**: an identifier that goes on no further in what follows. -/
theorem identifier?_eq_some_iff {text name rest : List Char} :
    identifier? text = some (name, rest) ↔ isIdentifier name = true ∧ text = name ++ rest ∧
      ∀ c, rest.head? = some c → isWord c = false := by
  constructor
  · intro h
    have hsplit := append_of_identifier? h
    cases text with
    | nil => cases h
    | cons d ds =>
      rw [identifier?] at h
      split at h
      · rename_i hstart
        obtain ⟨rfl, rfl⟩ := Prod.mk.inj (Option.some.inj h)
        have hall : ∀ e ∈ ds.takeWhile isWord, isWord e = true := fun e he =>
          List.mem_takeWhile_imp he
        refine ⟨?_, hsplit.symm, fun c hc => ?_⟩
        · simp [isIdentifier, identifier?, hstart, List.dropWhile_eq_nil_iff.2 hall]
        · have hstop := List.head?_dropWhile_not isWord ds
          rwa [hc] at hstop
      · cases h
  · rintro ⟨hname, rfl, hrest⟩
    exact identifier?_append hname hrest

/-- What is not in the first part of a text is in the rest. -/
theorem exists_append_of_notMem {first second front rest : List Char} {c : Char}
    (h : first ++ second = front ++ c :: rest) (hc : c ∉ first) :
    ∃ middle, front = first ++ middle ∧ second = middle ++ c :: rest := by
  rcases List.append_eq_append_iff.1 h with ⟨middle, rfl, hsecond⟩ | ⟨middle, rfl, hmiddle⟩
  · exact ⟨middle, rfl, hsecond⟩
  · cases middle with
    | nil => exact ⟨[], by simp, by simpa using hmiddle.symm⟩
    | cons d middle =>
      obtain ⟨rfl, -⟩ := List.cons.inj hmiddle
      simp at hc

/-! ## Trimming -/

/-- A text that begins and ends with something. -/
structure Solid (text : List Char) : Prop where
  ne_nil : text ≠ []
  head : ∀ c, text.head? = some c → isBlank c = false
  last : ∀ c, text.getLast? = some c → isBlank c = false

theorem Solid.append {first second : List Char} (h : Solid first) (h' : Solid second)
    (middle : List Char) : Solid (first ++ (middle ++ second)) where
  ne_nil := by simp [h.ne_nil]
  head c hc := by
    rw [List.head?_append_of_ne_nil _ h.ne_nil] at hc
    exact h.head c hc
  last c hc := by
    rw [← List.append_assoc, List.getLast?_append_of_ne_nil _ h'.ne_nil] at hc
    exact h'.last c hc

/-- A text without blanks is solid. -/
theorem solid_of_forall {text : List Char} (hne : text ≠ []) (h : ∀ c ∈ text, isBlank c = false) :
    Solid text where
  ne_nil := hne
  head c hc := h c (List.mem_of_head? hc)
  last c hc := h c (List.mem_of_getLast? hc)

theorem dropWhile_isBlank_eq {text : List Char}
    (hhead : ∀ c, text.head? = some c → isBlank c = false) : text.dropWhile isBlank = text := by
  cases text with
  | nil => rfl
  | cons c cs => rw [List.dropWhile_cons, if_neg (by simp [hhead c rfl])]

theorem Solid.trim_eq {text : List Char} (h : Solid text) : trim text = text := by
  have hlast : ∀ c, text.reverse.head? = some c → isBlank c = false := by
    intro c hc
    rw [List.head?_reverse] at hc
    exact h.last c hc
  rw [trim, trimStart, dropWhile_isBlank_eq h.head, trimEnd, dropWhile_isBlank_eq hlast,
    List.reverse_reverse]

theorem trimStart_append {before : List Char} (hbefore : ∀ c ∈ before, isBlank c = true)
    (text : List Char) : trimStart (before ++ text) = trimStart text :=
  List.dropWhile_append_of_pos hbefore

theorem trimEnd_append {after : List Char} (hafter : ∀ c ∈ after, isBlank c = true)
    (text : List Char) : trimEnd (text ++ after) = trimEnd text := by
  rw [trimEnd, trimEnd, List.reverse_append,
    List.dropWhile_append_of_pos fun c hc => hafter c (List.mem_reverse.1 hc)]

/-- **Blanks around a text are trimmed away**, also where nothing else is left. -/
theorem trim_append {before after : List Char} (hbefore : ∀ c ∈ before, isBlank c = true)
    (text : List Char) (hafter : ∀ c ∈ after, isBlank c = true) :
    trim (before ++ (text ++ after)) = trim text := by
  rw [trim, trim, trimStart_append hbefore]
  by_cases hblank : (trimStart text).isEmpty = true
  · -- the whole text is blank, and so is the text with more blanks
    have hnil : trimStart text = [] := List.isEmpty_iff.1 hblank
    have hall : trimStart (text ++ after) = [] := by
      rw [trimStart, List.dropWhile_append]
      rw [trimStart] at hblank
      rw [if_pos hblank]
      exact List.dropWhile_eq_nil_iff.2 hafter
    rw [hnil, hall]
  · have hkeep : trimStart (text ++ after) = trimStart text ++ after := by
      rw [trimStart, List.dropWhile_append]
      exact if_neg hblank
    rw [hkeep, trimEnd_append hafter]

/-- **Trimming takes the blanks around a solid text away** and leaves the text. -/
theorem trim_pad {before text after : List Char} (hbefore : ∀ c ∈ before, isBlank c = true)
    (h : Solid text) (hafter : ∀ c ∈ after, isBlank c = true) :
    trim (before ++ (text ++ after)) = text :=
  (trim_append hbefore text hafter).trans h.trim_eq

theorem trimStart_eq_nil_iff {text : List Char} :
    trimStart text = [] ↔ isBlankText text = true := by
  rw [trimStart, List.dropWhile_eq_nil_iff, isBlankText, List.all_eq_true]

theorem trim_eq_nil {text : List Char} (h : isBlankText text = true) : trim text = [] := by
  rw [trim, trimStart_eq_nil_iff.2 h]
  rfl

theorem exists_eq_trimEnd_append (text : List Char) :
    ∃ after, (∀ c ∈ after, isBlank c = true) ∧ text = trimEnd text ++ after := by
  refine ⟨(text.reverse.takeWhile isBlank).reverse,
    fun c hc => List.mem_takeWhile_imp (List.mem_reverse.1 hc), ?_⟩
  rw [trimEnd, ← List.reverse_append, List.takeWhile_append_dropWhile, List.reverse_reverse]

/-- **Trimming takes nothing but blanks away.** -/
theorem exists_eq_append_trim (text : List Char) :
    ∃ before after, (∀ c ∈ before, isBlank c = true) ∧ (∀ c ∈ after, isBlank c = true) ∧
      text = before ++ (trim text ++ after) := by
  obtain ⟨after, hafter, hsplit⟩ := exists_eq_trimEnd_append (trimStart text)
  refine ⟨text.takeWhile isBlank, after, fun c hc => List.mem_takeWhile_imp hc, hafter, ?_⟩
  rw [trim, ← hsplit, trimStart, List.takeWhile_append_dropWhile]

theorem head_trimStart {text : List Char} {c : Char} (h : (trimStart text).head? = some c) :
    isBlank c = false := by
  have hstop := List.head?_dropWhile_not isBlank text
  rwa [← trimStart, h] at hstop

/-- **What is left of a text** that is not blank begins and ends with something. -/
theorem solid_trim {text : List Char} (h : isBlankText text = false) : Solid (trim text) := by
  have hlast : ∀ c, (trim text).getLast? = some c → isBlank c = false := by
    intro c hc
    rw [trim, trimEnd, List.getLast?_reverse] at hc
    exact head_trimStart hc
  have hne : trim text ≠ [] := by
    intro hnil
    rw [trim, trimEnd, List.reverse_eq_nil_iff, ← trimStart, trimStart_eq_nil_iff, isBlankText,
      List.all_reverse, ← isBlankText] at hnil
    -- only the empty text both is blank and begins with no blank
    cases hstart : trimStart text with
    | nil => rw [trimStart_eq_nil_iff, h] at hstart; cases hstart
    | cons c cs =>
      have hc : isBlank c = false := head_trimStart (by rw [hstart]; rfl)
      rw [hstart, isBlankText, List.all_cons, hc, Bool.false_and] at hnil
      cases hnil
  refine ⟨hne, fun c hc => ?_, hlast⟩
  obtain ⟨after, -, hsplit⟩ := exists_eq_trimEnd_append (trimStart text)
  have hstart : (trimStart text).head? = some c := by
    rw [hsplit, ← trim, List.head?_append_of_ne_nil _ hne]
    exact hc
  exact head_trimStart hstart

@[simp] theorem trim_trim (text : List Char) : trim (trim text) = trim text := by
  cases h : isBlankText text with
  | true => rw [trim_eq_nil h]; rfl
  | false => exact (solid_trim h).trim_eq

/-- A solid text is not blank. -/
theorem Solid.isBlankText_eq {text : List Char} (h : Solid text) (before after : List Char) :
    isBlankText (before ++ (text ++ after)) = false := by
  obtain ⟨c, cs, rfl⟩ := List.exists_cons_of_ne_nil h.ne_nil
  simp [isBlankText, h.head c rfl]

/-- Only blanks at the ends are trimmed. -/
theorem exists_trim_append {before left right : List Char}
    (hbefore : ∀ c ∈ before, isBlank c = true) (hleft : Solid left)
    (hright : isBlankText right = false) (middle : List Char) :
    ∃ rest, trim (before ++ (left ++ (middle ++ right))) = left ++ (middle ++ rest) ∧
      isBlankText rest = false ∧ trim rest = trim right := by
  obtain ⟨first, last, hfirst, hlast, hsplit⟩ := exists_eq_append_trim right
  have hsolid := solid_trim hright
  refine ⟨first ++ trim right, ?_, by simpa using hsolid.isBlankText_eq first [], ?_⟩
  · have htext : left ++ (middle ++ right) = left ++ (middle ++ first ++ trim right) ++ last := by
      simpa using hsplit
    rw [htext, trim_pad hbefore (hleft.append hsolid (middle ++ first)) hlast, List.append_assoc]
  · simpa using trim_append hfirst (trim right) (List.forall_mem_nil _)

end Text

/-! ## Numerals -/

namespace Number

/-- A sign or nothing. -/
def IsSign (text : List Char) : Prop := text = [] ∨ text = ['+'] ∨ text = ['-']

/-- Digits, at least one, with an optional point among or next to them. -/
def IsMantissa (digit : Char → Bool) (text : List Char) : Prop :=
  ∃ whole fraction, whole ++ fraction ≠ [] ∧ (∀ c ∈ whole ++ fraction, digit c = true) ∧
    (text = whole ∧ fraction = [] ∨ text = whole ++ '.' :: fraction)

theorem IsMantissa.mem_cases {digit : Char → Bool} {text : List Char} (h : IsMantissa digit text)
    {c : Char} (hc : c ∈ text) : digit c = true ∨ c = '.' := by
  obtain ⟨whole, fraction, -, hdigits, ⟨rfl, -⟩ | rfl⟩ := h
  · exact .inl (hdigits c (by simp [hc]))
  · rw [List.mem_append, List.mem_cons] at hc
    rcases hc with hc | hc | hc
    · exact .inl (hdigits c (by simp [hc]))
    · exact .inr hc
    · exact .inl (hdigits c (by simp [hc]))

theorem IsMantissa.ne_nil {digit : Char → Bool} {text : List Char} (h : IsMantissa digit text) :
    text ≠ [] := by
  obtain ⟨whole, fraction, hne, -, ⟨rfl, rfl⟩ | rfl⟩ := h
  · simpa using hne
  · simp

theorem IsMantissa.imp {digit digit' : Char → Bool} {text : List Char}
    (h : IsMantissa digit text) (himp : ∀ c ∈ text, digit c = true → digit' c = true) :
    IsMantissa digit' text := by
  obtain ⟨whole, fraction, hne, hdigits, hshape⟩ := h
  refine ⟨whole, fraction, hne, fun c hc => himp c ?_ (hdigits c hc), hshape⟩
  rcases hshape with ⟨rfl, rfl⟩ | rfl
  · simpa using hc
  · rw [List.mem_append] at hc
    rcases hc with hc | hc <;> simp [hc]

/-- A mantissa ends in a digit, perhaps with its point after it. -/
theorem IsMantissa.exists_last {digit : Char → Bool} {text : List Char}
    (h : IsMantissa digit text) :
    ∃ before last, digit last = true ∧
      (text = before ++ [last] ∨ text = before ++ [last, '.']) := by
  obtain ⟨whole, fraction, hne, hdigits, hshape⟩ := h
  obtain ⟨hwhole, hfraction⟩ := List.forall_mem_append.1 hdigits
  rcases List.eq_nil_or_concat' fraction with rfl | ⟨front, last, rfl⟩
  · -- without a fraction, the last digit is one of the whole part
    rw [List.append_nil] at hne
    obtain ⟨front, last, rfl⟩ := List.eq_nil_or_concat' whole |>.resolve_left hne
    refine ⟨front, last, hwhole last (by simp), ?_⟩
    simpa using hshape
  · obtain ⟨-, hnil⟩ | rfl := hshape
    · simp at hnil
    · exact ⟨whole ++ '.' :: front, last, hfraction last (by simp), .inl (by simp)⟩

/-- The end of a mantissa is a mantissa, if it has a digit. -/
theorem IsMantissa.of_append {digit : Char → Bool} (hpoint : digit '.' = false)
    {first second : List Char} (h : IsMantissa digit (first ++ second))
    (hsome : ∃ c ∈ second, digit c = true) : IsMantissa digit second := by
  obtain ⟨whole, fraction, -, hdigits, hshape⟩ := h
  obtain ⟨c, hc, hdigit⟩ := hsome
  have hdigits_of_mem {part : List Char} (hpart : ∀ d ∈ part, d ∈ whole ++ fraction)
      (hc : c ∈ part) : IsMantissa digit part :=
    ⟨part, [], by simpa using List.ne_nil_of_mem hc,
      by simpa using fun d hd => hdigits d (hpart d hd), .inl ⟨rfl, rfl⟩⟩
  rcases hshape with ⟨hsame, rfl⟩ | hsame
  · exact hdigits_of_mem (fun d hd => by rw [← hsame]; simp [hd]) hc
  rcases List.append_eq_append_iff.1 hsame with ⟨middle, rfl, rfl⟩ | ⟨middle, rfl, hmiddle⟩
  · -- the cut is in the whole part
    refine ⟨middle, fraction, ?_, fun d hd => hdigits d ?_, .inr rfl⟩
    · intro hnil
      obtain ⟨rfl, rfl⟩ := List.append_eq_nil_iff.1 hnil
      rw [List.nil_append, List.mem_singleton] at hc
      rw [hc, hpoint] at hdigit
      cases hdigit
    · rw [List.append_assoc]
      exact List.mem_append_right _ hd
  · cases middle with
    | nil =>
      obtain rfl : second = '.' :: fraction := by simpa using hmiddle.symm
      refine ⟨[], fraction, ?_, fun d hd => hdigits d (List.mem_append_right _ hd), .inr rfl⟩
      rcases List.mem_cons.1 hc with rfl | hc
      · rw [hpoint] at hdigit
        cases hdigit
      · exact List.ne_nil_of_mem hc
    | cons point middle =>
      obtain ⟨-, rfl⟩ := List.cons.inj hmiddle
      exact hdigits_of_mem (fun d hd => by simp [hd]) hc

/-- An exponent or nothing. -/
def IsExponent (text : List Char) : Prop :=
  text = [] ∨ ∃ letter sign digits, (letter = 'e' ∨ letter = 'E') ∧ IsSign sign ∧ digits ≠ [] ∧
    (∀ c ∈ digits, isDigit c = true) ∧ text = letter :: (sign ++ digits)

theorem exists_takeSign_eq (text : List Char) :
    ∃ sign, IsSign sign ∧ text = sign ++ (takeSign text).2 := by
  unfold takeSign
  split
  · exact ⟨['+'], .inr (.inl rfl), rfl⟩
  · exact ⟨['-'], .inr (.inr rfl), rfl⟩
  · exact ⟨[], .inl rfl, rfl⟩

theorem exists_mantissa_of_takeDigits? {digit : Char → Bool}
    {text whole fraction rest : List Char}
    (h : takeDigits? digit text = some (whole, fraction, rest)) :
    ∃ mantissa, IsMantissa digit mantissa ∧ text = mantissa ++ rest := by
  have hwhole : ∀ c ∈ text.takeWhile digit, digit c = true := fun c hc =>
    List.mem_takeWhile_imp hc
  have htext : text = text.takeWhile digit ++ text.dropWhile digit :=
    (List.takeWhile_append_dropWhile).symm
  rw [takeDigits?] at h
  split at h
  · rename_i after hafter
    have hfraction : ∀ c ∈ after.takeWhile digit, digit c = true := fun c hc =>
      List.mem_takeWhile_imp hc
    dsimp only at h
    split at h
    · cases h
    · rename_i hsome
      cases h
      refine ⟨_, ⟨text.takeWhile digit, after.takeWhile digit, ?_, ?_, .inr rfl⟩, ?_⟩
      · simpa using hsome
      · exact List.forall_mem_append.2 ⟨hwhole, hfraction⟩
      · rw [hafter] at htext
        rw [List.append_assoc, List.cons_append, List.takeWhile_append_dropWhile]
        exact htext
  · split at h
    · cases h
    · rename_i hsome
      cases h
      refine ⟨_, ⟨text.takeWhile digit, [], ?_, ?_, .inl ⟨rfl, rfl⟩⟩, htext⟩
      · simpa using hsome
      · simpa using hwhole

theorem isExponent_of_readExponent? {text : List Char} {exponent : Int}
    (h : readExponent? text = some exponent) : IsExponent text := by
  cases text with
  | nil => exact .inl rfl
  | cons letter rest =>
    obtain ⟨sign, hsign, hrest⟩ := exists_takeSign_eq rest
    rw [readExponent?] at h
    rcases htake : takeSign rest with ⟨negative, digits⟩
    rw [htake] at h hrest
    dsimp only at h
    split at h
    · rename_i hshape
      simp only [Bool.and_eq_true, Bool.or_eq_true, beq_iff_eq, bne_iff_ne,
        List.all_eq_true] at hshape
      obtain ⟨⟨hletter, hne⟩, hdigits⟩ := hshape
      exact .inr ⟨letter, sign, digits, hletter, hsign, hne, hdigits,
        congrArg (letter :: ·) hrest⟩
    · cases h

/-- **The shape of a numeral**: a sign, digits with a point, and an exponent. -/
theorem shape_of_readNumeral? {text : List Char} {numeral : Numeral}
    (h : readNumeral? text = some numeral) :
    ∃ sign mantissa exponent, IsSign sign ∧ IsMantissa isDigit mantissa ∧ IsExponent exponent ∧
      text = sign ++ (mantissa ++ exponent) := by
  simp only [readNumeral?, Option.bind_eq_bind, Option.bind_eq_some_iff] at h
  obtain ⟨⟨whole, fraction, rest⟩, hdigits, exponent, hexponent, -⟩ := h
  obtain ⟨sign, hsign, htext⟩ := exists_takeSign_eq text
  obtain ⟨mantissa, hmantissa, hunsigned⟩ := exists_mantissa_of_takeDigits? hdigits
  refine ⟨sign, mantissa, rest, hsign, hmantissa, isExponent_of_readExponent? hexponent, ?_⟩
  rw [← hunsigned]
  exact htext

/-- The characters of numerals. -/
theorem mem_cases_of_readNumeral? {text : List Char} {numeral : Numeral}
    (h : readNumeral? text = some numeral) {c : Char} (hc : c ∈ text) :
    isDigit c = true ∨ c ∈ ['+', '-', '.', 'e', 'E'] := by
  obtain ⟨sign, mantissa, exponent, hsign, hmantissa, hexponent, rfl⟩ := shape_of_readNumeral? h
  have hsign_mem : ∀ {sign : List Char}, IsSign sign → c ∈ sign →
      c ∈ ['+', '-', '.', 'e', 'E'] := by
    rintro sign (rfl | rfl | rfl) hc <;> simp_all
  rw [List.mem_append, List.mem_append] at hc
  rcases hc with hc | hc | hc
  · exact .inr (hsign_mem hsign hc)
  · rcases hmantissa.mem_cases hc with hdigit | rfl
    · exact .inl hdigit
    · exact .inr (by simp)
  · rcases hexponent with rfl | ⟨letter, inner, digits, hletter, hinner, -, hdigits, rfl⟩
    · cases hc
    · rw [List.mem_cons, List.mem_append] at hc
      rcases hc with rfl | hc | hc
      · exact .inr (by rcases hletter with rfl | rfl <;> simp)
      · exact .inr (hsign_mem hinner hc)
      · exact .inl (hdigits c hc)

/-- A numeral ends in a digit or in its point. -/
theorem last_cases_of_readNumeral? {text : List Char} {numeral : Numeral}
    (h : readNumeral? text = some numeral) {c : Char} (hc : text.getLast? = some c) :
    isDigit c = true ∨ c = '.' := by
  obtain ⟨sign, mantissa, exponent, -, hmantissa, hexponent, rfl⟩ := shape_of_readNumeral? h
  rcases hexponent with rfl | ⟨letter, inner, digits, -, -, hne, hdigits, rfl⟩
  · rw [List.append_nil, List.getLast?_append_of_ne_nil _ hmantissa.ne_nil] at hc
    exact hmantissa.mem_cases (List.mem_of_getLast? hc)
  · have hshape : sign ++ (mantissa ++ letter :: (inner ++ digits)) =
        (sign ++ (mantissa ++ letter :: inner)) ++ digits := by simp
    rw [hshape, List.getLast?_append_of_ne_nil _ hne] at hc
    exact .inl (hdigits c (List.mem_of_getLast? hc))

/-- What begins like an identifier is no numeral. -/
theorem readNumeral?_of_isWordStart {c : Char} (h : isWordStart c = true) (cs : List Char) :
    readNumeral? (c :: cs) = none := by
  have hne : ∀ d ∈ ['+', '-', '.'], c ≠ d := by
    rintro d hd rfl
    simp only [List.mem_cons, List.not_mem_nil, or_false] at hd
    rcases hd with rfl | rfl | rfl <;> cases h
  have hsign : takeSign (c :: cs) = (false, c :: cs) := by
    unfold takeSign
    split
    · rename_i heq
      exact absurd (List.cons.inj heq).1 (hne '+' (by simp))
    · rename_i heq
      exact absurd (List.cons.inj heq).1 (hne '-' (by simp))
    · rfl
  have hpoint : c ≠ '.' := hne '.' (by simp)
  simp [readNumeral?, hsign, takeDigits?, isDigit_of_isWordStart h, hpoint]

/-- No numeral begins like an identifier. -/
theorem isWordStart_of_readNumeral? {c : Char} {cs : List Char} {numeral : Numeral}
    (h : readNumeral? (c :: cs) = some numeral) : isWordStart c = false := by
  by_contra hstart
  rw [readNumeral?_of_isWordStart (Bool.of_not_eq_false hstart)] at h
  cases h

theorem ne_nil_of_readNumeral? {text : List Char} {numeral : Numeral}
    (h : readNumeral? text = some numeral) : text ≠ [] := by
  rintro rfl
  cases h

theorem readNumber?_trim (text : List Char) : readNumber? (trim text) = readNumber? text := by
  rw [readNumber?, trim_trim, readNumber?]

/-- What is no numeral is no number. -/
theorem readNumber?_of_readNumeral? {text : List Char} (h : Solid text)
    (hnumeral : readNumeral? text = none) : readNumber? text = none := by
  rw [readNumber?, h.trim_eq, hnumeral]
  rfl

theorem isPlainNumeral_of_isMantissa {text : List Char} (h : IsMantissa Char.isDigit text) :
    isPlainNumeral text = true := by
  obtain ⟨whole, fraction, hne, hdigits, ⟨rfl, rfl⟩ | rfl⟩ := h
  · rw [List.append_nil] at hne hdigits
    have htake : text.takeWhile Char.isDigit = text := List.takeWhile_eq_self_iff.2 hdigits
    have hdrop : text.dropWhile Char.isDigit = [] := List.dropWhile_eq_nil_iff.2 hdigits
    simp [isPlainNumeral, takeDigits?, htake, hdrop, hne]
  · obtain ⟨hwhole, hfraction⟩ := List.forall_mem_append.1 hdigits
    have hpoint : ('.' : Char).isDigit = false := rfl
    have htake : (whole ++ '.' :: fraction).takeWhile Char.isDigit = whole := by
      rw [List.takeWhile_append_of_pos hwhole, List.takeWhile_cons, hpoint]
      simp
    have hdrop : (whole ++ '.' :: fraction).dropWhile Char.isDigit = '.' :: fraction := by
      rw [List.dropWhile_append_of_pos hwhole, List.dropWhile_cons, hpoint]
      simp
    have htake' : fraction.takeWhile Char.isDigit = fraction :=
      List.takeWhile_eq_self_iff.2 hfraction
    have hdrop' : fraction.dropWhile Char.isDigit = [] := List.dropWhile_eq_nil_iff.2 hfraction
    have hsome : ¬ (whole = [] ∧ fraction = []) := fun h => hne (by rw [h.1, h.2]; rfl)
    simp [isPlainNumeral, takeDigits?, htake, hdrop, htake', hdrop', hsome]

theorem isMantissa_of_isPlainNumeral {text : List Char} (h : isPlainNumeral text = true) :
    IsMantissa Char.isDigit text := by
  rw [isPlainNumeral] at h
  split at h
  · rename_i whole fraction htake
    obtain ⟨mantissa, hmantissa, htext⟩ := exists_mantissa_of_takeDigits? htake
    rwa [htext, List.append_nil]
  · cases h

end Number

end LiveVectors

import LiveVectors.Proofs.Composition
import LiveVectors.Proofs.Lines
import LiveVectors.Proofs.NormalForm

/-!
# The two forms of a modifier

A modifier with a name has two written forms, `name: token token` and `name(token,token)`.  They are
read in different ways: the tokens of the first are the words of a text, and those of the second
are arguments between commas, which could be any expressions.  For tokens that are numbers or names
the two ways give the same.

* `Spaced` — a text of tokens with blanks between them.  Its words are the tokens
  (`Spaced.words_eq`).
* `IsAtom` — a token that is a number or a name.  As an argument it is read as the same
  (`IsAtom.ofChars_eq`), and atoms between commas are read one by one (`argumentsOfChars_atoms`).
* `Modifier.ofChars_forms` — the result.
-/

set_option autoImplicit false

namespace LiveVectors

open Text Nesting

/-! ## Tokens with blanks between them -/

namespace Text

/-- Tokens with at least one blank between each two of them, and no line feed among the blanks. -/
inductive Spaced : List (List Char) → List Char → Prop
  | nil : Spaced [] []
  | last (token : List Char) : Spaced [token] token
  | cons {token next gap text : List Char} {tokens : List (List Char)} (hne : gap ≠ [])
      (hgap : ∀ c ∈ gap, isBlank c = true ∧ c ≠ '\n') (h : Spaced (next :: tokens) text) :
      Spaced (token :: next :: tokens) (token ++ (gap ++ text))

theorem cutAt_of_forall {cut : Char → Bool} {text : List Char} (h : ∀ c ∈ text, cut c = false) :
    cutAt cut text = [text] := by
  induction text with
  | nil => rfl
  | cons c cs ih =>
    obtain ⟨hc, hcs⟩ := List.forall_mem_cons.1 h
    rw [cutAt, hc, if_neg Bool.false_ne_true, ih hcs]
    rfl

/-- A text without blanks is one word. -/
theorem words_of_forall {text : List Char} (hne : text ≠ []) (h : ∀ c ∈ text, isBlank c = false) :
    words text = [text] := by
  rw [words, cutAt_of_forall h, List.filter_singleton]
  simp [hne]

/-- **A blank ends a word.** -/
theorem words_append {c : Char} (hc : isBlank c = true) (first second : List Char) :
    words (first ++ c :: second) = words first ++ words second := by
  rw [words, cutAt_append hc, List.filter_append]
  rfl

theorem words_blanks_append {gap : List Char} (hgap : ∀ c ∈ gap, isBlank c = true)
    (text : List Char) : words (gap ++ text) = words text := by
  induction gap with
  | nil => rfl
  | cons c cs ih =>
    obtain ⟨hc, hcs⟩ := List.forall_mem_cons.1 hgap
    have hsplit := words_append hc [] (cs ++ text)
    rw [List.nil_append] at hsplit
    rw [List.cons_append, hsplit, ih hcs]
    rfl

/-- **The words of spaced tokens are the tokens.** -/
theorem Spaced.words_eq {tokens : List (List Char)} {text : List Char} (h : Spaced tokens text)
    (htokens : ∀ token ∈ tokens, token ≠ [] ∧ ∀ c ∈ token, isBlank c = false) :
    words text = tokens := by
  induction h with
  | nil => rfl
  | last token =>
    obtain ⟨hne, hsolid⟩ := htokens token List.mem_cons_self
    exact words_of_forall hne hsolid
  | @cons token next gap text tokens hgapne hgap h ih =>
    obtain ⟨⟨hne, hsolid⟩, hothers⟩ := List.forall_mem_cons.1 htokens
    obtain ⟨c, cs, rfl⟩ := List.exists_cons_of_ne_nil hgapne
    obtain ⟨hc, hcs⟩ := List.forall_mem_cons.1 hgap
    rw [List.cons_append, words_append hc.1, words_of_forall hne hsolid,
      words_blanks_append (fun d hd => (hcs d hd).1), ih hothers]
    rfl

/-- Spaced tokens end no line, if no token does. -/
theorem Spaced.unbroken {tokens : List (List Char)} {text : List Char} (h : Spaced tokens text)
    (htokens : ∀ token ∈ tokens, '\n' ∉ token) : '\n' ∉ text := by
  induction h with
  | nil => exact List.not_mem_nil
  | last token => exact htokens token List.mem_cons_self
  | cons _ hgap _ ih =>
    obtain ⟨htoken, hothers⟩ := List.forall_mem_cons.1 htokens
    have hlater := ih hothers
    simp only [List.mem_append, not_or]
    exact ⟨htoken, fun hmem => (hgap _ hmem).2 rfl, hlater⟩

/-- Spaced tokens begin with no blank, if no token does. -/
theorem Spaced.head {tokens : List (List Char)} {text : List Char} (h : Spaced tokens text)
    (htokens : ∀ token ∈ tokens, token ≠ [] ∧ ∀ c ∈ token, isBlank c = false) {c : Char}
    (hc : text.head? = some c) : isBlank c = false := by
  have hfirst {token : List Char} (htoken : token ∈ tokens) (hhead : token.head? = some c) :
      isBlank c = false := (htokens token htoken).2 c (List.mem_of_head? hhead)
  cases h with
  | nil => cases hc
  | last token => exact hfirst List.mem_cons_self hc
  | cons =>
    rw [List.head?_append_of_ne_nil _ (htokens _ List.mem_cons_self).1] at hc
    exact hfirst List.mem_cons_self hc

end Text

/-! ## Numbers and names -/

namespace Expression

/-- A token without blanks that is a number or a name. -/
structure IsAtom (token : List Char) : Prop where
  unspaced : ∀ c ∈ token, isBlank c = false
  atomic : (∃ value, ofToken token = .number value) ∨ ∃ name, ofToken token = .named name

namespace IsAtom

variable {token : List Char}

theorem ne_nil (h : IsAtom token) : token ≠ [] := by
  rintro rfl
  have htext : ofToken [] = .text "" := rfl
  rcases h.atomic with ⟨value, hvalue⟩ | ⟨name, hname⟩
  · cases htext.symm.trans hvalue
  · cases htext.symm.trans hname

theorem trim_eq (h : IsAtom token) : trim token = token :=
  (solid_of_forall h.ne_nil h.unspaced).trim_eq

/-- **What an atom is**: an identifier, or a text that is a number. -/
theorem cases (h : IsAtom token) :
    isIdentifier token = true ∨ ∃ value, Number.readNumber? token = some value := by
  have htoken := h.atomic
  rw [ofToken, h.trim_eq] at htoken
  by_cases hname : isIdentifier token = true
  · exact .inl hname
  · rw [if_neg hname] at htoken
    cases hnumber : Number.readNumber? token with
    | some value => exact .inr ⟨value, rfl⟩
    | none => simp [hnumber] at htoken

/-- No number is an identifier. -/
theorem isIdentifier_of_readNumber? (h : Solid token) {value : Float}
    (hnumber : Number.readNumber? token = some value) : isIdentifier token = false := by
  by_contra hname
  have hpadded : Solid (token ++ []) := by rwa [List.append_nil]
  have hnone := Shape.readNumber?_of_name (Bool.of_not_eq_false hname) hpadded
  rw [List.append_nil, hnumber] at hnone
  cases hnone

theorem of_isIdentifier (h : isIdentifier token = true) : IsAtom token where
  unspaced c hc := isBlank_of_isWord (isWord_of_isIdentifier h c hc)
  atomic := by
    have hsolid : Solid token := (Shape.operand_of_dotted (Shape.dotted_of_isIdentifier h)).solid
    exact .inr ⟨String.ofList token, by rw [ofToken, hsolid.trim_eq, if_pos h]⟩

theorem of_readNumber? (hne : token ≠ []) (hunspaced : ∀ c ∈ token, isBlank c = false)
    (h : (Number.readNumber? token).isSome = true) : IsAtom token where
  unspaced := hunspaced
  atomic := by
    have hsolid := solid_of_forall hne hunspaced
    obtain ⟨value, hvalue⟩ := Option.isSome_iff_exists.1 h
    refine .inl ⟨value, ?_⟩
    rw [ofToken, hsolid.trim_eq, isIdentifier_of_readNumber? hsolid hvalue, hvalue]
    rfl

/-- **As an argument an atom is read as it is as a token.** -/
theorem ofChars_eq (h : IsAtom token) : ofChars token = .ok (ofToken token) := by
  have hsolid : Solid token := solid_of_forall h.ne_nil h.unspaced
  rcases h.cases with hname | ⟨value, hnumber⟩
  · have hread : ReadAs token (.named (String.ofList (trim token))) :=
      .named (hsolid.trim_eq.symm ▸ hname)
    rw [hread.ofChars_eq, ofToken, hsolid.trim_eq, if_pos hname]
  · rw [ofChars_of_readNumber? hsolid hnumber, ofToken, hsolid.trim_eq,
      isIdentifier_of_readNumber? hsolid hnumber, hnumber]
    rfl

/-- An atom can stand between commas. -/
theorem segment (h : IsAtom token) : Segment (· ≠ ',') token := by
  rcases h.cases with hname | ⟨value, hnumber⟩
  · exact NumberStyle.segment_of_isIdentifier hname
  · rw [Number.readNumber?, h.trim_eq, Option.bind_eq_bind, Option.bind_eq_some_iff] at hnumber
    obtain ⟨numeral, hnumeral, -⟩ := hnumber
    have hother {c : Char} (hdigit : isDigit c = false) (hmark : c ∉ ['+', '-', '.', 'e', 'E']) :
        c ∉ token := by
      intro hc
      rcases Number.mem_cases_of_readNumeral? hnumeral hc with hcase | hcase
      · rw [hdigit] at hcase
        cases hcase
      · exact hmark hcase
    refine ⟨Balanced.of_forall fun c hc => ⟨?_, ?_, ?_⟩, hother (by decide) (by decide)⟩ <;>
      rintro rfl <;> exact hother (by decide) (by decide) hc

end IsAtom

variable {tokens : List (List Char)}

theorem segment_atoms (h : ∀ token ∈ tokens, IsAtom token) :
    Segment (fun _ => True) ([','].intercalate tokens) :=
  Segment.intercalate (.cons (by decide) (by decide) (by decide) trivial segment_nil)
    fun token htoken => (h token htoken).segment.mono fun _ _ => trivial

/-- **Atoms between commas are read one by one.** -/
theorem argumentsOfChars_atoms (h : ∀ token ∈ tokens, IsAtom token) :
    argumentsOfChars ([','].intercalate tokens) = .ok (tokens.map ofToken) := by
  have hblank : ∀ token ∈ tokens, isBlankText token = false := fun token htoken => by
    have hsolid := solid_of_forall (h token htoken).ne_nil (h token htoken).unspaced
    simpa using hsolid.isBlankText_eq [] []
  have htexts := argumentTexts_intercalate fun token htoken =>
    ⟨(h token htoken).segment, hblank token htoken⟩
  refine argumentsOfChars_eq_ok_iff.2 ⟨tokens.map fun token => (token, ofToken token), ?_, ?_, ?_⟩
  · rw [htexts, List.map_map]
    exact (List.map_id tokens).symm
  · rw [List.map_map]
    rfl
  · exact List.forall_mem_map.2 fun token htoken =>
      ⟨hblank token htoken, (h token htoken).ofChars_eq⟩

end Expression

/-! ## The forms -/

namespace Modifier

/-- The form `name: values`, with the values as they stand. -/
def colonForm (name values : List Char) : List Char := name ++ ':' :: ' ' :: values

/-- The form `name(argument,argument)`. -/
def callForm (name : List Char) (arguments : List (List Char)) : List Char :=
  name ++ '(' :: ([','].intercalate arguments ++ [')'])

variable {name : List Char}

theorem ofChars_colonForm (hname : isIdentifier name = true) {values : List Char}
    (hline : '\n' ∉ values) (hhead : ∀ c, values.head? = some c → isBlank c = false) :
    ofChars (colonForm name values) =
      .ok (.option (String.ofList name) ((words values).map Expression.ofToken)) := by
  have hword : identifier? (colonForm name values) = some (name, ':' :: ' ' :: values) :=
    identifier?_append hname (by rintro c ⟨⟩; rfl)
  have hvalues : values.dropWhile isAsciiBlank = values := by
    cases values with
    | nil => rfl
    | cons c cs =>
      have hc : isAsciiBlank c = false := by
        by_contra hblank
        have hblank := isBlank_of_isAsciiBlank (Bool.of_not_eq_false hblank)
        rw [hhead c rfl] at hblank
        cases hblank
      rw [List.dropWhile_cons, hc, if_neg Bool.false_ne_true]
  have hspace : isAsciiBlank ' ' = true := rfl
  have hmark : isAsciiBlank ':' = false := rfl
  have hkeyed : Shape.keyed? (colonForm name values) = some (name, values) := by
    simp [Shape.keyed?, hword, Shape.afterMark?, hspace, hmark, hvalues, hline]
  simp only [ofChars, hkeyed]

theorem ofChars_callForm (hname : isIdentifier name = true) {arguments : List (List Char)}
    {values : List Expression} (hinside : '\n' ∉ [','].intercalate arguments)
    (hcall : Expression.ofChars (callForm name arguments) =
      .ok (.call (String.ofList name) values)) :
    ofChars (callForm name arguments) = .ok (.option (String.ofList name) values) := by
  have hword : identifier? (callForm name arguments) =
      some (name, '(' :: ([','].intercalate arguments ++ [')'])) :=
    identifier?_append hname (Shape.head_group _)
  have hkeyed : Shape.keyed? (callForm name arguments) = none := by
    have hopen : isAsciiBlank '(' = false := rfl
    simp [Shape.keyed?, hword, Shape.afterMark?, hopen]
  have hloose : Shape.loose? (callForm name arguments) =
      some (name, [','].intercalate arguments) := by
    have henclosed := Shape.enclosed?_eq_some_iff.2 ⟨rfl, hinside⟩
    simp [Shape.loose?, hword, henclosed]
  simp only [ofChars, hkeyed, hloose, hcall]
  rfl

/-- **The two forms of a modifier agree.**  For every name and all tokens without blanks that are
numbers or names, none of them included, whatever blanks stand between them in the first form: both
forms are read as the same modifier, and its arguments are what the tokens are, in order. -/
theorem ofChars_forms (hname : isIdentifier name = true) {tokens : List (List Char)}
    (h : ∀ token ∈ tokens, Expression.IsAtom token) {values : List Char}
    (hvalues : Spaced tokens values) :
    ofChars (colonForm name values) = ofChars (callForm name tokens) ∧
      ofChars (callForm name tokens) =
        .ok (.option (String.ofList name) (tokens.map Expression.ofToken)) := by
  have hsolid : ∀ token ∈ tokens, token ≠ [] ∧ ∀ c ∈ token, isBlank c = false :=
    fun token htoken => ⟨(h token htoken).ne_nil, (h token htoken).unspaced⟩
  have hcolon : ofChars (colonForm name values) =
      .ok (.option (String.ofList name) (tokens.map Expression.ofToken)) := by
    have hline := hvalues.unbroken fun token htoken => (h token htoken).segment.unbroken
    rw [ofChars_colonForm hname hline fun c hc => hvalues.head hsolid hc, hvalues.words_eq hsolid]
  have hsegment := Expression.segment_atoms h
  have hcall : Shape.call? (callForm name tokens) = some (name, [','].intercalate tokens) :=
    Shape.call?_eq_some_iff.2 ⟨hname, hsegment, rfl⟩
  have hread := Expression.ofChars_of_call? (Shape.operand_of_call? hcall).solid
    (Shape.readNumber?_of_call? hcall) hcall (Expression.argumentsOfChars_atoms h)
  have hform := ofChars_callForm hname hsegment.unbroken hread
  exact ⟨hcolon.trans hform.symm, hform⟩

/-- A signed number with an exponent, and a name, with a blank and a tabulator between them. -/
theorem ofChars_forms_origin :
    (isIdentifier "origin".toList = true ∧
      (∀ token ∈ ["+1.5e-3".toList, "x".toList], Expression.IsAtom token) ∧
      Spaced ["+1.5e-3".toList, "x".toList] "+1.5e-3 \tx".toList) ∧
      read "origin: +1.5e-3 \tx" = read "origin(+1.5e-3,x)" := by
  have hname : isIdentifier "origin".toList = true := by decide
  have hnumeral : Number.readNumeral? "+1.5e-3".toList = some ⟨false, ['1'], ['5'], -3⟩ := by
    decide +kernel
  have hnumber : Expression.IsAtom "+1.5e-3".toList :=
    .of_readNumber? (by decide) (Shape.isBlank_of_readNumeral? hnumeral) (by decide +kernel)
  have hatoms : ∀ token ∈ ["+1.5e-3".toList, "x".toList], Expression.IsAtom token :=
    List.forall_mem_cons.2 ⟨hnumber, List.forall_mem_singleton.2 (.of_isIdentifier (by decide))⟩
  have htext : "+1.5e-3 \tx".toList = "+1.5e-3".toList ++ ([' ', '\t'] ++ "x".toList) := by decide
  have hspaced : Spaced ["+1.5e-3".toList, "x".toList] "+1.5e-3 \tx".toList := by
    rw [htext]
    exact .cons (by decide) (List.forall_mem_cons.2 ⟨⟨rfl, by decide⟩,
      List.forall_mem_singleton.2 ⟨rfl, by decide⟩⟩) (.last _)
  have hcolon : "origin: +1.5e-3 \tx".toList =
      colonForm "origin".toList "+1.5e-3 \tx".toList := by decide
  have hcall : "origin(+1.5e-3,x)".toList =
      callForm "origin".toList ["+1.5e-3".toList, "x".toList] := by decide
  refine ⟨⟨hname, hatoms, hspaced⟩, ?_⟩
  rw [read, read, hcolon, hcall]
  exact (ofChars_forms hname hatoms hspaced).1

end Modifier
end LiveVectors

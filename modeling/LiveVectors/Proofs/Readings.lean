import LiveVectors.Proofs.Shapes
import LiveVectors.Script.Reading

/-!
# What texts are read as

The reader tries one shape after the other.  The relation `ReadAs` says what a text is read as
without an order of trials: calls, method calls, properties and names exclude each other and
everything else, so only operations and opaque texts have to say what they are not.

* `ofChars_eq` — the reader as a sequence of trials; `ofChars_of_call?` and its relatives say what
  comes of each shape, on condition that no earlier shape fits.
* `argumentTexts` — the texts of the arguments between parentheses; `argumentTexts_intercalate` says
  that they are what commas were put between.
* `ReadAs` — a text is read as an expression; `readAs_iff` says that the reader agrees.
-/

set_option autoImplicit false

namespace LiveVectors

open Text Nesting

namespace Nesting

theorem length_lt_room {pieces : List (List Char)} {piece : List Char} (h : piece ∈ pieces) :
    piece.length < room pieces := by
  induction pieces with
  | nil => cases h
  | cons first others ih =>
    rw [room]
    rcases List.mem_cons.1 h with rfl | h
    · omega
    · have := ih h
      omega

/-- No piece is longer than the text. -/
theorem length_le_of_mem_splitTopLevel {cut : Char → Bool} {limit : Int} {text piece : List Char}
    (h : piece ∈ splitTopLevel cut limit text) : piece.length ≤ text.length := by
  have hroom := length_lt_room h
  rw [room_splitTopLevel] at hroom
  omega

end Nesting

namespace Expression

/-! ## Equations of the reader -/

variable {text : List Char}

/-- What the reader makes of a text: the first shape that fits decides. -/
theorem ofChars_eq (text : List Char) :
    ofChars text =
      match Number.readNumber? (trim text) with
      | some value => .ok (.number value)
      | none =>
        match Shape.call? (trim text) with
        | some (name, inside) => do
          return .call (String.ofList name) (← argumentsOfChars inside)
        | none =>
          match Shape.operation? (trim text) with
          | some (left, operator, right) =>
            if isBlankText right then .error (.missingOperand operator)
            else do return .operation operator (← ofChars left) (← ofChars right)
          | none =>
            match Shape.memberCall? (trim text) with
            | some (owner, name, inside) => do
              return .methodCall (String.ofList owner) (String.ofList name)
                (← argumentsOfChars inside)
            | none =>
              match Shape.member? (trim text) with
              | some (owner, name) => .ok (.property (String.ofList owner) (String.ofList name))
              | none => .ok (ofToken (trim text)) := by
  rw [ofChars]
  rcases Number.readNumber? (trim text) with _ | value
  swap
  · rfl
  dsimp only
  split
  · rename_i hcall
    simp only [hcall]
  rename_i hcall
  simp only [hcall]
  split
  · rename_i hoperation
    simp only [hoperation]
  rename_i hoperation
  simp only [hoperation]
  split
  · rename_i hmemberCall
    simp only [hmemberCall]
  rename_i hmemberCall
  rcases Shape.member? (trim text) with _ | ⟨owner, name⟩ <;> simp only [hmemberCall]

/-- The reader trims what it is given. -/
theorem ofChars_trim (text : List Char) : ofChars (trim text) = ofChars text := by
  rw [ofChars_eq, ofChars_eq text, trim_trim]

/-- Blanks around a text do not matter. -/
theorem ofChars_pad {before after : List Char} (hbefore : ∀ c ∈ before, isBlank c = true)
    (h : Solid text) (hafter : ∀ c ∈ after, isBlank c = true) :
    ofChars (before ++ (text ++ after)) = ofChars text := by
  rw [← ofChars_trim, trim_pad hbefore h hafter]

theorem ofChars_of_readNumber? (h : Solid text) {value : Float}
    (hnumber : Number.readNumber? text = some value) : ofChars text = .ok (.number value) := by
  rw [ofChars_eq, h.trim_eq, hnumber]

theorem ofChars_of_call? (h : Solid text) {name inside : List Char} {arguments : List Expression}
    (hnumber : Number.readNumber? text = none) (hcall : Shape.call? text = some (name, inside))
    (harguments : argumentsOfChars inside = .ok arguments) :
    ofChars text = .ok (.call (String.ofList name) arguments) := by
  rw [ofChars_eq, h.trim_eq]
  simp only [hnumber, hcall, harguments]
  rfl

theorem ofChars_of_operation? (h : Solid text) {left right : List Char} {operator : Operator}
    {first second : Expression} (hnumber : Number.readNumber? text = none)
    (hcall : Shape.call? text = none)
    (hoperation : Shape.operation? text = some (left, operator, right))
    (hright : isBlankText right = false) (hfirst : ofChars left = .ok first)
    (hsecond : ofChars right = .ok second) :
    ofChars text = .ok (.operation operator first second) := by
  rw [ofChars_eq, h.trim_eq]
  simp only [hnumber, hcall, hoperation, hright, hfirst, hsecond, Bool.false_eq_true, if_false]
  rfl

/-! ## Arguments -/

/-- The texts of the arguments that a text between parentheses has; a text of blanks has none. -/
def argumentTexts (inside : List Char) : List (List Char) :=
  if isBlankText inside then [] else splitTopLevel (· == ',') (-1) inside

theorem length_le_of_mem_argumentTexts {inside part : List Char} (h : part ∈ argumentTexts inside) :
    part.length ≤ inside.length := by
  rw [argumentTexts] at h
  split at h
  · cases h
  · exact length_le_of_mem_splitTopLevel h

/-- The arguments between parentheses have no commas of their own. -/
theorem segment_of_mem_argumentTexts {free : Char → Prop} {inside part : List Char}
    (h : Segment free inside) (hpart : part ∈ argumentTexts inside) : Segment (· ≠ ',') part := by
  rw [argumentTexts] at hpart
  split at hpart
  · cases hpart
  · exact (h.of_mem_splitTopLevel hpart).mono fun c hc => by simpa using hc.2

theorem argumentsOfChars_eq (inside : List Char) :
    argumentsOfChars inside =
      if (argumentTexts inside).any isBlankText then .error (.emptyArgument (String.ofList inside))
      else allOfChars (argumentTexts inside) := by
  rw [argumentsOfChars, argumentTexts]
  split
  · rw [List.any_nil, if_neg Bool.false_ne_true, allOfChars]
  · rfl

/-- **Texts are read one by one**, and all of them have to be readable.  The pairs are the texts
with what they are read as. -/
theorem allOfChars_eq_ok_iff {texts : List (List Char)} {es : List Expression} :
    allOfChars texts = .ok es ↔ ∃ arguments : List (List Char × Expression),
      texts = arguments.map Prod.fst ∧ es = arguments.map Prod.snd ∧
        ∀ argument ∈ arguments, ofChars argument.1 = .ok argument.2 := by
  constructor
  · intro h
    induction texts generalizing es with
    | nil =>
      rw [allOfChars, Except.ok.injEq] at h
      exact ⟨[], rfl, h.symm, List.forall_mem_nil _⟩
    | cons text rest ih =>
      rw [allOfChars] at h
      rcases hfirst : ofChars text with problem | first
      · rw [hfirst] at h
        cases h
      rcases hrest : allOfChars rest with problem | others
      · rw [hfirst, hrest] at h
        cases h
      rw [hfirst, hrest] at h
      obtain rfl : first :: others = es := Except.ok.inj h
      obtain ⟨arguments, rfl, rfl, hread⟩ := ih hrest
      exact ⟨(text, first) :: arguments, rfl, rfl, List.forall_mem_cons.2 ⟨hfirst, hread⟩⟩
  · rintro ⟨arguments, rfl, rfl, hread⟩
    induction arguments with
    | nil => rw [List.map_nil, List.map_nil, allOfChars]
    | cons argument rest ih =>
      obtain ⟨hfirst, hrest⟩ := List.forall_mem_cons.1 hread
      rw [List.map_cons, List.map_cons, allOfChars, hfirst, ih hrest]
      rfl

theorem argumentsOfChars_eq_ok_iff {inside : List Char} {es : List Expression} :
    argumentsOfChars inside = .ok es ↔ ∃ arguments : List (List Char × Expression),
      argumentTexts inside = arguments.map Prod.fst ∧ es = arguments.map Prod.snd ∧
        ∀ argument ∈ arguments,
          isBlankText argument.1 = false ∧ ofChars argument.1 = .ok argument.2 := by
  rw [argumentsOfChars_eq]
  constructor
  · intro h
    split at h
    · cases h
    · rename_i hsolid
      simp only [List.any_eq_true, not_exists, not_and, Bool.not_eq_true] at hsolid
      obtain ⟨arguments, htexts, hes, hread⟩ := allOfChars_eq_ok_iff.1 h
      refine ⟨arguments, htexts, hes, fun argument hmem => ⟨hsolid _ ?_, hread argument hmem⟩⟩
      rw [htexts]
      exact List.mem_map_of_mem hmem
  · rintro ⟨arguments, htexts, hes, hread⟩
    have hsolid : (argumentTexts inside).any isBlankText = false := by
      rw [htexts, List.any_map, List.any_eq_false]
      intro argument hmem
      simp [(hread argument hmem).1]
    rw [hsolid, if_neg Bool.false_ne_true]
    exact allOfChars_eq_ok_iff.2
      ⟨arguments, htexts, hes, fun argument hmem => (hread argument hmem).2⟩

/-- **Arguments that commas were put between** are found again. -/
theorem argumentTexts_intercalate {texts : List (List Char)}
    (h : ∀ text ∈ texts, Segment (· ≠ ',') text ∧ isBlankText text = false) :
    argumentTexts ([','].intercalate texts) = texts := by
  cases texts with
  | nil => rfl
  | cons first others =>
    have hsolid : isBlankText ([','].intercalate (first :: others)) = false := by
      have hfirst := (h first List.mem_cons_self).2
      cases others with
      | nil => rwa [List.intercalate_singleton]
      | cons second rest =>
        rw [List.intercalate_cons_cons, List.append_assoc, isBlankText, List.all_append,
          ← isBlankText, hfirst, Bool.false_and]
    rw [argumentTexts, hsolid, if_neg Bool.false_ne_true]
    exact splitTopLevel_intercalate rfl (fun c hc => by simpa using hc) (List.cons_ne_nil _ _)
      fun text htext => (h text htext).1.balanced

/-- **Nothing comes before a method call**: the shapes that are tried first do not fit. -/
theorem ofChars_of_memberCall? {text owner name inside : List Char}
    (h : Shape.memberCall? (trim text) = some (owner, name, inside)) :
    ofChars text = do
      return .methodCall (String.ofList owner) (String.ofList name)
        (← argumentsOfChars inside) := by
  have hoperand := Shape.operand_of_memberCall? h
  have hdotted := Shape.dotted?_of_memberCall? h
  have hnumber := Shape.readNumber?_of_dotted? hoperand.solid hdotted
  have hcall := Shape.call?_of_dotted? hdotted
  have hoperation := hoperand.operation?_eq_none
  rw [ofChars_eq, hnumber]
  simp only [hcall, hoperation, h]

/-! ## The relation -/

/-- A text is read as an expression.  The arguments of a call are the pairs of their texts and what
these are read as. -/
inductive ReadAs : List Char → Expression → Prop
  | number {text : List Char} {value : Float}
      (hnumber : Number.readNumber? (trim text) = some value) : ReadAs text (.number value)
  | call {text name inside : List Char} {arguments : List (List Char × Expression)}
      (hcall : Shape.call? (trim text) = some (name, inside))
      (htexts : argumentTexts inside = arguments.map Prod.fst)
      (hsolid : ∀ argument ∈ arguments, isBlankText argument.1 = false)
      (harguments : ∀ argument ∈ arguments, ReadAs argument.1 argument.2) :
      ReadAs text (.call (String.ofList name) (arguments.map Prod.snd))
  | operation {text left right : List Char} {operator : Operator} {first second : Expression}
      (hnumber : Number.readNumber? (trim text) = none)
      (hoperation : Shape.operation? (trim text) = some (left, operator, right))
      (hright : isBlankText right = false)
      (hfirst : ReadAs left first) (hsecond : ReadAs right second) :
      ReadAs text (.operation operator first second)
  | methodCall {text owner name inside : List Char} {arguments : List (List Char × Expression)}
      (hmemberCall : Shape.memberCall? (trim text) = some (owner, name, inside))
      (htexts : argumentTexts inside = arguments.map Prod.fst)
      (hsolid : ∀ argument ∈ arguments, isBlankText argument.1 = false)
      (harguments : ∀ argument ∈ arguments, ReadAs argument.1 argument.2) :
      ReadAs text (.methodCall (String.ofList owner) (String.ofList name) (arguments.map Prod.snd))
  | property {text owner name : List Char}
      (hmember : Shape.member? (trim text) = some (owner, name)) :
      ReadAs text (.property (String.ofList owner) (String.ofList name))
  | named {text : List Char} (hname : isIdentifier (trim text) = true) :
      ReadAs text (.named (String.ofList (trim text)))
  | text {text : List Char} (hnumber : Number.readNumber? (trim text) = none)
      (hcall : Shape.call? (trim text) = none) (hoperation : Shape.operation? (trim text) = none)
      (hmemberCall : Shape.memberCall? (trim text) = none)
      (hmember : Shape.member? (trim text) = none) (hname : isIdentifier (trim text) = false) :
      ReadAs text (.text (String.ofList (trim text)))

/-! ## The relation is what the reader does -/

theorem ofToken_trim (text : List Char) (hnumber : Number.readNumber? (trim text) = none) :
    ofToken (trim text) = if isIdentifier (trim text) then .named (String.ofList (trim text))
      else .text (String.ofList (trim text)) := by
  rw [ofToken, trim_trim, hnumber]

/-- What the reader gives is what the text is read as. -/
theorem readAs_of_ofChars {text : List Char} {e : Expression} (h : ofChars text = .ok e) :
    ReadAs text e := by
  have htrim := length_trim_le text
  rw [ofChars_eq] at h
  split at h
  · rename_i hnumber
    cases h
    exact .number hnumber
  rename_i hnumber
  split at h
  · rename_i name inside hcall
    have hshorter := Shape.length_of_call? hcall
    rcases hinside : argumentsOfChars inside with problem | es
    · rw [hinside] at h
      cases h
    rw [hinside] at h
    cases h
    obtain ⟨arguments, htexts, rfl, hread⟩ := argumentsOfChars_eq_ok_iff.1 hinside
    refine .call hcall htexts (fun argument hmem => (hread argument hmem).1) fun argument hmem => ?_
    have hpart := length_le_of_mem_argumentTexts (htexts ▸ List.mem_map_of_mem hmem)
    exact readAs_of_ofChars (hread argument hmem).2
  rename_i hcall
  split at h
  · rename_i left operator right hoperation
    have hshorter := Shape.length_of_operation? hoperation
    split at h
    · cases h
    rename_i hright
    rcases hfirst : ofChars left with problem | first
    · rw [hfirst] at h
      cases h
    rcases hsecond : ofChars right with problem | second
    · rw [hfirst, hsecond] at h
      cases h
    rw [hfirst, hsecond] at h
    cases h
    exact .operation hnumber hoperation (Bool.eq_false_iff.2 hright) (readAs_of_ofChars hfirst)
      (readAs_of_ofChars hsecond)
  rename_i hoperation
  split at h
  · rename_i owner name inside hmemberCall
    have hshorter := Shape.length_of_memberCall? hmemberCall
    rcases hinside : argumentsOfChars inside with problem | es
    · rw [hinside] at h
      cases h
    rw [hinside] at h
    cases h
    obtain ⟨arguments, htexts, rfl, hread⟩ := argumentsOfChars_eq_ok_iff.1 hinside
    refine .methodCall hmemberCall htexts (fun argument hmem => (hread argument hmem).1)
      fun argument hmem => ?_
    have hpart := length_le_of_mem_argumentTexts (htexts ▸ List.mem_map_of_mem hmem)
    exact readAs_of_ofChars (hread argument hmem).2
  rename_i hmemberCall
  split at h
  · rename_i owner name hmember
    cases h
    exact .property hmember
  · rename_i hmember
    rw [ofToken_trim text hnumber] at h
    split at h
    · rename_i hname
      cases h
      exact .named hname
    · rename_i hname
      cases h
      exact .text hnumber hcall hoperation hmemberCall hmember (Bool.eq_false_iff.2 hname)
termination_by text.length

/-- What a text is read as is what the reader gives. -/
theorem ReadAs.ofChars_eq {text : List Char} {e : Expression} (h : ReadAs text e) :
    ofChars text = .ok e := by
  induction h with
  | number hnumber => rw [Expression.ofChars_eq, hnumber]
  | call hcall htexts hsolid _ ih =>
    rw [Expression.ofChars_eq, Shape.readNumber?_of_call? hcall]
    have harguments := argumentsOfChars_eq_ok_iff.2
      ⟨_, htexts, rfl, fun argument hmem => ⟨hsolid argument hmem, ih argument hmem⟩⟩
    simp only [hcall, harguments]
    rfl
  | operation hnumber hoperation hright _ _ ihfirst ihsecond =>
    rw [Expression.ofChars_eq, hnumber]
    have hcall := Shape.call?_of_operation? hoperation
    simp only [hcall, hoperation, hright, ihfirst, ihsecond, Bool.false_eq_true, if_false]
    rfl
  | methodCall hmemberCall htexts hsolid _ ih =>
    have harguments := argumentsOfChars_eq_ok_iff.2
      ⟨_, htexts, rfl, fun argument hmem => ⟨hsolid argument hmem, ih argument hmem⟩⟩
    rw [ofChars_of_memberCall? hmemberCall, harguments]
    rfl
  | property hmember =>
    have hoperand := Shape.operand_of_member? hmember
    have hdotted := Shape.dotted?_of_member? hmember
    rw [Expression.ofChars_eq, Shape.readNumber?_of_dotted? hoperand.solid hdotted]
    have hcall := Shape.call?_of_dotted? hdotted
    have hoperation := hoperand.operation?_eq_none
    have hmemberCall := Shape.memberCall?_of_member? hmember
    simp only [hcall, hoperation, hmemberCall, hmember]
  | @named text hname =>
    have hoperand := Shape.operand_of_dotted (Shape.dotted_of_isIdentifier hname)
    have hnumber : Number.readNumber? (trim text) = none := by
      rw [← List.append_nil (trim text)]
      exact Shape.readNumber?_of_name hname (by rw [List.append_nil]; exact hoperand.solid)
    have hoperation := hoperand.operation?_eq_none
    have hdotted := Shape.dotted?_name hname
    rw [Expression.ofChars_eq, ofToken_trim text hnumber, if_pos hname, hnumber]
    simp [Shape.call?_name hname, hoperation, Shape.memberCall?, Shape.member?, hdotted]
  | @text text hnumber hcall hoperation hmemberCall hmember hname =>
    rw [Expression.ofChars_eq, ofToken_trim text hnumber, hname, hnumber]
    simp only [hcall, hoperation, hmemberCall, hmember, Bool.false_eq_true, if_false]

/-- **The relation is what the reader does.** -/
theorem readAs_iff {text : List Char} {e : Expression} : ofChars text = .ok e ↔ ReadAs text e :=
  ⟨readAs_of_ofChars, ReadAs.ofChars_eq⟩

end Expression
end LiveVectors

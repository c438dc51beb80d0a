import LiveVectors.Proofs.Numerals
import LiveVectors.Proofs.Readings
import LiveVectors.Proofs.Writing

/-!
# Normal forms

An expression that was read from some text can be written down anew: names and opaque texts as they
are, numbers in ASCII, one blank after every comma and one on each side of every operator.  Reading
this normal form gives the expression back, however odd the text was that it came from.

* `NumberStyle` — a way to write numbers, and `NumberStyle.normalForm`, the text of an expression.
* `segment_normalForm` — the normal form of what stood between commas can stand between commas.
* `operand_normalForm` — the normal form of what stood in front of an operator can stand there.
* `ofChars_normalForm` — the induction over what texts are read as, and
  `Expression.read_normalForm`, the result.
-/

set_option autoImplicit false

namespace LiveVectors

open Text Nesting

/-! ## Texts of expressions -/

/-- A way to write numbers: each number that some text is read as has a literal. -/
structure NumberStyle where
  chars : Float → List Char
  exists_literal : ∀ {text : List Char} {value : Float}, Number.readNumber? text = some value →
    ∃ literal : Writing.Literal, literal.chars = chars value ∧ literal.value = value

/-- There is such a way, because every numeral can be put into ASCII digits. -/
instance : Nonempty NumberStyle := by
  classical
  refine ⟨⟨fun value => if h : ∃ literal : Writing.Literal, literal.value = value
    then h.choose.chars else [], fun {text value} hread => ?_⟩⟩
  obtain ⟨chars, hascii, hbare, hreads⟩ := Number.exists_ascii_of_readNumber? hread
  have hexists : ∃ literal : Writing.Literal, literal.value = value :=
    ⟨⟨chars, value, hascii, hbare, hreads⟩, rfl⟩
  exact ⟨hexists.choose, by rw [dif_pos hexists], hexists.choose_spec⟩

namespace NumberStyle

mutual

/-- The text of an expression. -/
def normalForm (style : NumberStyle) : Expression → List Char
  | .number value => style.chars value
  | .text value => value.toList
  | .named name => name.toList
  | .call name arguments =>
    name.toList ++ '(' :: ([',', ' '].intercalate (style.normalForms arguments) ++ [')'])
  | .operation operator left right =>
    style.normalForm left ++ ' ' :: operator.symbol :: ' ' :: style.normalForm right
  | .methodCall owner method arguments =>
    owner.toList ++ '.' ::
      (method.toList ++ '(' :: ([',', ' '].intercalate (style.normalForms arguments) ++ [')']))
  | .property owner name => owner.toList ++ '.' :: name.toList

/-- The texts of several expressions. -/
def normalForms (style : NumberStyle) : List Expression → List (List Char)
  | [] => []
  | e :: rest => style.normalForm e :: style.normalForms rest

end

theorem normalForms_eq_map (style : NumberStyle) (es : List Expression) :
    style.normalForms es = es.map style.normalForm := by
  induction es with
  | nil => rfl
  | cons e rest ih => rw [normalForms, ih, List.map_cons]

open Expression

variable (style : NumberStyle)

/-! ## Between commas -/

theorem segment_of_isDotted {text : List Char} (h : ∀ c ∈ text, Shape.isDotted c = true) :
    Segment (· ≠ ',') text := by
  refine ⟨(Shape.balanced_of_isDotted h).mono fun c hc => hc.2, fun hmem => ?_⟩
  cases h _ hmem

theorem segment_of_isIdentifier {name : List Char} (h : isIdentifier name = true) :
    Segment (· ≠ ',') name :=
  segment_of_isDotted (Shape.dotted_of_isIdentifier h).all

theorem segment_symbol (operator : Operator) {rest : List Char} (h : Segment (· ≠ ',') rest) :
    Segment (· ≠ ',') (operator.symbol :: rest) := by
  cases operator <;> exact .cons (by decide) (by decide) (by decide) (by decide) h

/-- The arguments of a call that was found in a text can be put between its parentheses, if each of
them can be put between commas where its text could. -/
theorem segment_arguments {inside : List Char} {arguments : List (List Char × Expression)}
    (hinside : Segment (fun _ => True) inside)
    (htexts : argumentTexts inside = arguments.map Prod.fst)
    (h : ∀ argument ∈ arguments, Segment (· ≠ ',') argument.1 →
      Segment (· ≠ ',') (style.normalForm argument.2)) :
    Segment (fun _ => True) ([',', ' '].intercalate
      (style.normalForms (arguments.map Prod.snd))) := by
  have hseparator : Segment (fun _ => True) [',', ' '] :=
    .cons (by decide) (by decide) (by decide) trivial
      (.cons (by decide) (by decide) (by decide) trivial segment_nil)
  rw [normalForms_eq_map, List.map_map]
  refine Segment.intercalate hseparator (List.forall_mem_map.2 fun argument hmem => ?_)
  have hpart := segment_of_mem_argumentTexts hinside (htexts ▸ List.mem_map_of_mem hmem)
  exact (h argument hmem hpart).mono fun _ _ => trivial

/-- **Between commas the normal form can stand for the text**: it has no commas of its own, its
parentheses have their partners, and it ends no line. -/
theorem segment_normalForm {text : List Char} {e : Expression} (h : ReadAs text e)
    (hsegment : Segment (· ≠ ',') text) : Segment (· ≠ ',') (style.normalForm e) := by
  induction h with
  | number hnumber =>
    obtain ⟨literal, hchars, -⟩ := style.exists_literal hnumber
    rw [normalForm, ← hchars]
    exact ⟨literal.balanced, literal.plain.not_mem_newline⟩
  | @call text name inside arguments hcall htexts _ _ ih =>
    obtain ⟨hname, hinside, -⟩ := Shape.call?_eq_some_iff.1 hcall
    rw [normalForm, String.toList_ofList]
    exact (segment_of_isIdentifier hname).append (style.segment_arguments hinside htexts ih).group
  | @operation text left right operator first second _ hoperation _ _ _ ihfirst ihsecond =>
    obtain ⟨hsplit, -, hdepth, -⟩ := Shape.operation?_eq_some_iff.1 hoperation
    have hsymbol : depthAfter [operator.symbol] = 0 := by cases operator <;> rfl
    have hwhole := hsegment.trim
    rw [hsplit] at hwhole
    obtain ⟨hleft, hrest⟩ := hwhole.of_append hdepth
    obtain ⟨-, hright⟩ := Segment.of_append (show Segment _ ([operator.symbol] ++ right) from hrest)
      hsymbol
    have hblank : ∀ {rest : List Char}, Segment (· ≠ ',') rest → Segment (· ≠ ',') (' ' :: rest) :=
      .cons (by decide) (by decide) (by decide) (by decide)
    exact (ihfirst hleft).append (hblank (segment_symbol operator (hblank (ihsecond hright))))
  | @methodCall text owner name inside arguments hmemberCall htexts _ _ ih =>
    obtain ⟨howner, hname, hinside, -⟩ := Shape.memberCall?_eq_some_iff.1 hmemberCall
    rw [normalForm, String.toList_ofList, String.toList_ofList]
    refine (segment_of_isIdentifier howner).append (.cons (by decide) (by decide) (by decide)
      (by decide) ?_)
    exact (segment_of_isIdentifier hname).append (style.segment_arguments hinside htexts ih).group
  | property hmember =>
    obtain ⟨howner, hname, -⟩ := Shape.member?_eq_some_iff.1 hmember
    rw [normalForm, String.toList_ofList, String.toList_ofList]
    exact segment_of_isDotted ((Shape.dotted_of_isIdentifier howner).append_dot
      (Shape.dotted_of_isIdentifier hname)).all
  | named hname =>
    rw [normalForm, String.toList_ofList]
    exact segment_of_isIdentifier hname
  | text =>
    rw [normalForm, String.toList_ofList]
    exact hsegment.trim

/-! ## Shapes of normal forms -/

variable {name owner inside : List Char} {arguments : List (List Char × Expression)}

theorem call?_normalForm {text : List Char} (hcall : Shape.call? text = some (name, inside))
    (htexts : argumentTexts inside = arguments.map Prod.fst)
    (h : ∀ argument ∈ arguments, ReadAs argument.1 argument.2) :
    Shape.call? (style.normalForm (.call (String.ofList name) (arguments.map Prod.snd))) =
      some (name, [',', ' '].intercalate (style.normalForms (arguments.map Prod.snd))) := by
  obtain ⟨hname, hinside, -⟩ := Shape.call?_eq_some_iff.1 hcall
  rw [normalForm, String.toList_ofList]
  exact Shape.call?_eq_some_iff.2 ⟨hname, style.segment_arguments hinside htexts
    (fun argument hmem => style.segment_normalForm (h argument hmem)), rfl⟩

theorem memberCall?_normalForm {text : List Char}
    (hmemberCall : Shape.memberCall? text = some (owner, name, inside))
    (htexts : argumentTexts inside = arguments.map Prod.fst)
    (h : ∀ argument ∈ arguments, ReadAs argument.1 argument.2) :
    Shape.memberCall? (style.normalForm
        (.methodCall (String.ofList owner) (String.ofList name) (arguments.map Prod.snd))) =
      some (owner, name, [',', ' '].intercalate (style.normalForms (arguments.map Prod.snd))) := by
  obtain ⟨howner, hname, hinside, -⟩ := Shape.memberCall?_eq_some_iff.1 hmemberCall
  rw [normalForm, String.toList_ofList, String.toList_ofList]
  exact Shape.memberCall?_eq_some_iff.2
    ⟨howner, hname, style.segment_arguments hinside htexts
    (fun argument hmem => style.segment_normalForm (h argument hmem)), rfl⟩

theorem member?_normalForm {text : List Char} (hmember : Shape.member? text = some (owner, name)) :
    Shape.member? (style.normalForm (.property (String.ofList owner) (String.ofList name))) =
      some (owner, name) := by
  obtain ⟨howner, hname, -⟩ := Shape.member?_eq_some_iff.1 hmember
  rw [normalForm, String.toList_ofList, String.toList_ofList]
  exact Shape.member?_eq_some_iff.2 ⟨howner, hname, rfl⟩

/-! ## In front of an operator -/

/-- **In front of an operator the normal form can stand for the text**: no operator is found in it,
and one is found right after it. -/
theorem operand_normalForm {text : List Char} {e : Expression} (h : ReadAs text e)
    (hoperand : Shape.Operand (trim text)) : Shape.Operand (style.normalForm e) := by
  cases h with
  | number hnumber =>
    obtain ⟨literal, hchars, -⟩ := style.exists_literal hnumber
    obtain ⟨numeral, hnumeral⟩ := literal.exists_numeral
    rw [normalForm, ← hchars]
    exact Shape.operand_of_readNumeral? hnumeral literal.isDigit_core
  | call hcall htexts _ harguments =>
    exact Shape.operand_of_call? (style.call?_normalForm hcall htexts harguments)
  | operation _ hoperation =>
    rw [hoperand.operation?_eq_none] at hoperation
    cases hoperation
  | methodCall hmemberCall htexts _ harguments =>
    exact Shape.operand_of_memberCall? (style.memberCall?_normalForm hmemberCall htexts harguments)
  | property hmember => exact Shape.operand_of_member? (style.member?_normalForm hmember)
  | named hname =>
    rw [normalForm, String.toList_ofList]
    exact hoperand
  | text =>
    rw [normalForm, String.toList_ofList]
    exact hoperand

/-- The normal form of a text that is not blank begins and ends with something. -/
theorem solid_normalForm {text : List Char} {e : Expression} (h : ReadAs text e)
    (htext : isBlankText text = false) : Solid (style.normalForm e) := by
  induction h with
  | number hnumber =>
    obtain ⟨literal, hchars, -⟩ := style.exists_literal hnumber
    rw [normalForm, ← hchars]
    exact literal.solid
  | call hcall htexts _ harguments =>
    exact (Shape.operand_of_call? (style.call?_normalForm hcall htexts harguments)).solid
  | operation _ hoperation hright hfirst _ _ ihsecond =>
    have hleft := style.operand_normalForm hfirst (Shape.operand_left hoperation)
    exact hleft.solid.append (ihsecond hright) [' ', _, ' ']
  | methodCall hmemberCall htexts _ harguments =>
    exact (Shape.operand_of_memberCall?
      (style.memberCall?_normalForm hmemberCall htexts harguments)).solid
  | property hmember => exact (Shape.operand_of_member? (style.member?_normalForm hmember)).solid
  | named =>
    rw [normalForm, String.toList_ofList]
    exact solid_trim htext
  | text =>
    rw [normalForm, String.toList_ofList]
    exact solid_trim htext

/-! ## Reading normal forms -/

/-- A blank after every comma is a blank in front of every text but the first. -/
theorem intercalate_blank (first : List Char) (others : List (List Char)) :
    [',', ' '].intercalate (first :: others) =
      [','].intercalate (first :: others.map (' ' :: ·)) := by
  induction others generalizing first with
  | nil => rfl
  | cons second rest ih =>
    rw [List.intercalate_cons_cons, ih, List.map_cons, List.intercalate_cons_cons]
    cases rest with
    | nil => simp
    | cons third rest => simp [List.intercalate_cons_cons]

/-- **Arguments are read one by one**, with the blanks in front of them. -/
theorem argumentsOfChars_normalForms {es : List Expression}
    (h : ∀ e ∈ es, Segment (· ≠ ',') (style.normalForm e) ∧ Solid (style.normalForm e) ∧
      ofChars (style.normalForm e) = .ok e) :
    argumentsOfChars ([',', ' '].intercalate (style.normalForms es)) = .ok es := by
  cases es with
  | nil => exact argumentsOfChars_eq_ok_iff.2 ⟨[], rfl, rfl, List.forall_mem_nil _⟩
  | cons first others =>
    obtain ⟨⟨hsegment, hsolid, hread⟩, hothers⟩ := List.forall_mem_cons.1 h
    have hblank : ∀ c ∈ [' '], isBlank c = true := List.forall_mem_singleton.2 rfl
    let pairs := (style.normalForm first, first) ::
      others.map fun e => (' ' :: style.normalForm e, e)
    have hpairs : ∀ pair ∈ pairs, Segment (· ≠ ',') pair.1 ∧ isBlankText pair.1 = false ∧
        ofChars pair.1 = .ok pair.2 := by
      refine List.forall_mem_cons.2 ⟨⟨hsegment, ?_, hread⟩, List.forall_mem_map.2 fun e he => ?_⟩
      · simpa using hsolid.isBlankText_eq [] []
      · obtain ⟨hsegment, hsolid, hread⟩ := hothers e he
        refine ⟨.cons (by decide) (by decide) (by decide) (by decide) hsegment, ?_, ?_⟩
        · simpa using hsolid.isBlankText_eq [' '] []
        · rw [← hread, ← ofChars_pad hblank hsolid (List.forall_mem_nil _), List.append_nil]
          rfl
    have htexts : argumentTexts ([',', ' '].intercalate (style.normalForms (first :: others))) =
        pairs.map Prod.fst := by
      have hjoin : [',', ' '].intercalate (style.normalForms (first :: others)) =
          [','].intercalate (pairs.map Prod.fst) := by
        rw [normalForms_eq_map, List.map_cons, intercalate_blank]
        simp [pairs, Function.comp_def]
      rw [hjoin]
      exact argumentTexts_intercalate (List.forall_mem_map.2 fun pair hpair =>
        ⟨(hpairs pair hpair).1, (hpairs pair hpair).2.1⟩)
    refine argumentsOfChars_eq_ok_iff.2 ⟨pairs, htexts, ?_, fun pair hpair => (hpairs pair hpair).2⟩
    simp [pairs, Function.comp_def]

/-- What a call that was found in a text has between its parentheses is read as before. -/
theorem argumentsOfChars_arguments {inside : List Char} {arguments : List (List Char × Expression)}
    (hinside : Segment (fun _ => True) inside)
    (htexts : argumentTexts inside = arguments.map Prod.fst)
    (hsolid : ∀ argument ∈ arguments, isBlankText argument.1 = false)
    (h : ∀ argument ∈ arguments, ReadAs argument.1 argument.2)
    (hread : ∀ argument ∈ arguments, ofChars (style.normalForm argument.2) = .ok argument.2) :
    argumentsOfChars ([',', ' '].intercalate (style.normalForms (arguments.map Prod.snd))) =
      .ok (arguments.map Prod.snd) := by
  refine style.argumentsOfChars_normalForms (List.forall_mem_map.2 fun argument hmem => ?_)
  refine ⟨style.segment_normalForm (h argument hmem) ?_,
    style.solid_normalForm (h argument hmem) (hsolid argument hmem), hread argument hmem⟩
  exact segment_of_mem_argumentTexts hinside (htexts ▸ List.mem_map_of_mem hmem)

/-- No numeral holds a blank. -/
theorem readNumber?_of_blank {text : List Char} (hsolid : Solid text) (h : ' ' ∈ text) :
    Number.readNumber? text = none := by
  refine Number.readNumber?_of_readNumeral? hsolid (Option.eq_none_iff_forall_ne_some.2 ?_)
  intro numeral hnumeral
  rcases Number.mem_cases_of_readNumeral? hnumeral h with hdigit | hmark
  · exact absurd hdigit (by decide)
  · exact absurd hmark (by decide)

/-- **A normal form is read as the expression that it is the normal form of.** -/
theorem ofChars_normalForm {text : List Char} {e : Expression} (h : ReadAs text e) :
    ofChars (style.normalForm e) = .ok e := by
  have hblank : ∀ c ∈ [' '], isBlank c = true := List.forall_mem_singleton.2 rfl
  induction h with
  | number hnumber =>
    obtain ⟨literal, hchars, rfl⟩ := style.exists_literal hnumber
    rw [normalForm, ← hchars]
    exact ofChars_of_readNumber? literal.solid literal.reads
  | call hcall htexts hsolid harguments ih =>
    obtain ⟨-, hinside, -⟩ := Shape.call?_eq_some_iff.1 hcall
    have hshape := style.call?_normalForm hcall htexts harguments
    exact ofChars_of_call? (Shape.operand_of_call? hshape).solid
      (Shape.readNumber?_of_call? hshape) hshape
      (style.argumentsOfChars_arguments hinside htexts hsolid harguments ih)
  | @operation text left right operator first second hnumber hoperation hright hfirst hsecond
      ihfirst ihsecond =>
    have hleft := style.operand_normalForm hfirst (Shape.operand_left hoperation)
    have hlast := style.solid_normalForm hsecond hright
    have hshape : Shape.operation? (style.normalForm (.operation operator first second)) =
        some (style.normalForm first ++ [' '], operator, ' ' :: style.normalForm second) :=
      hleft.operation?_eq hblank operator (' ' :: style.normalForm second)
    have hsolid : Solid (style.normalForm (.operation operator first second)) :=
      hleft.solid.append hlast [' ', operator.symbol, ' ']
    refine ofChars_of_operation? hsolid (readNumber?_of_blank hsolid ?_)
      (Shape.call?_of_operation? hshape) hshape ?_ ?_ ?_
    · rw [normalForm]
      simp
    · simpa using hlast.isBlankText_eq [' '] []
    · rw [← ihfirst]
      exact ofChars_pad (List.forall_mem_nil _) hleft.solid hblank
    · rw [← ihsecond, ← ofChars_pad hblank hlast (List.forall_mem_nil _), List.append_nil]
      rfl
  | methodCall hmemberCall htexts hsolid harguments ih =>
    obtain ⟨-, -, hinside, -⟩ := Shape.memberCall?_eq_some_iff.1 hmemberCall
    have hshape := style.memberCall?_normalForm hmemberCall htexts harguments
    have hoperand := Shape.operand_of_memberCall? hshape
    rw [← hoperand.solid.trim_eq] at hshape
    rw [ofChars_of_memberCall? hshape,
      style.argumentsOfChars_arguments hinside htexts hsolid harguments ih]
    rfl
  | property hmember =>
    have hshape := style.member?_normalForm hmember
    rw [← (Shape.operand_of_member? hshape).solid.trim_eq] at hshape
    exact (ReadAs.property hshape).ofChars_eq
  | @named text hname =>
    rw [normalForm, String.toList_ofList, ofChars_trim]
    exact (ReadAs.named hname).ofChars_eq
  | @text text hnumber hcall hoperation hmemberCall hmember hname =>
    rw [normalForm, String.toList_ofList, ofChars_trim]
    exact (ReadAs.text hnumber hcall hoperation hmemberCall hmember hname).ofChars_eq

end NumberStyle

/-- **Every expression has a normal form.**  Whatever text an expression was read from, its normal
form in any way to write numbers is read as the same expression. -/
theorem Expression.read_normalForm (style : NumberStyle) {text : String} {e : Expression}
    (h : read text = .ok e) : read (String.ofList (style.normalForm e)) = .ok e := by
  rw [read, String.toList_ofList]
  exact style.ofChars_normalForm (readAs_of_ofChars h)

/-- An opaque text with parentheses that do not belong together, less a number in other digits. -/
theorem Expression.read_normalForm_difference :
    read " )a(-\u0663" = .ok (.operation .minus (.text ")a(") (.number 3)) ∧
      ∀ style : NumberStyle,
        style.normalForm (.operation .minus (.text ")a(") (.number 3)) =
            ")a( - ".toList ++ style.chars 3 ∧
          read (String.ofList (style.normalForm (.operation .minus (.text ")a(") (.number 3)))) =
            .ok (.operation .minus (.text ")a(") (.number 3)) := by
  have hoperation : Shape.operation? (trim " )a(-\u0663".toList) =
      some (")a(".toList, .minus, "\u0663".toList) := by decide +kernel
  have hleft : ReadAs ")a(".toList (.text ")a(") :=
    .text (by decide +kernel) (by decide +kernel) (by decide +kernel) (by decide +kernel)
      (by decide +kernel) (by decide +kernel)
  have hright : ReadAs "\u0663".toList (.number 3) := .number (by decide +kernel)
  have hread : read " )a(-\u0663" = .ok (.operation .minus (.text ")a(") (.number 3)) :=
    readAs_iff.2 (.operation (by decide +kernel) hoperation (by decide +kernel) hleft hright)
  exact ⟨hread, fun style => ⟨rfl, read_normalForm style hread⟩⟩

end LiveVectors

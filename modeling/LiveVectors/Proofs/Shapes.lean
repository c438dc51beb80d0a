import LiveVectors.Proofs.Operands
import LiveVectors.Proofs.Segments

/-!
# What shapes are

The reader recognises the shape of a text by searches through it.  This file says for every shape
which texts have it, without a search, so that nothing later looks into the searches again.

* `closed?_group` and its relatives — what the searches find in texts of a known shape.
* `call?_eq_some_iff`, `memberCall?_eq_some_iff` and `member?_eq_some_iff` — the texts of calls,
  method calls and properties.  What stands between the parentheses of a call is a segment.
* `operation?_eq_some_iff` — where the operator of an operation stands: in front of it there is a
  text at depth zero that ends in an operand and in which no operator is found.
* `operand_left` — the left side of an operation holds no operator that would split it again.
* `operand_of_call?`, `readNumber?_of_call?` and their relatives — which shapes exclude each other.
-/

set_option autoImplicit false

namespace LiveVectors

open Text Nesting

namespace Shape

/-! ## Texts with a shape -/

/-- What does not begin with a parenthesis is not closed by one. -/
theorem closed?_eq_none {text : List Char} (h : text.head? ≠ some '(') : closed? text = none := by
  have hopen : enclosed? text = none := by
    cases text with
    | nil => rfl
    | cons c cs =>
      have hne : c ≠ '(' := fun heq => h (by rw [heq]; rfl)
      simp [enclosed?, hne]
  rw [closed?, hopen, ite_self]

theorem closed?_group {free : Char → Prop} {inside : List Char} (h : Balanced free inside)
    (hline : '\n' ∉ inside) : closed? ('(' :: (inside ++ [')'])) = some inside := by
  have hcontains : (inside ++ [')']).contains '\n' = false := by
    simpa using hline
  rw [closed?, closesAtEnd_group h, List.isEmpty_nil, if_pos rfl, enclosed?, hcontains]
  simp

/-- A text that goes on after a name. -/
theorem call?_append {name rest : List Char} (hname : isIdentifier name = true)
    (hrest : ∀ c, rest.head? = some c → isWord c = false) :
    call? (name ++ rest) = (closed? rest).map fun inside => (name, inside) := by
  simp only [call?, identifier?_append hname hrest, Option.bind_eq_bind, Option.bind_some]
  cases closed? rest <;> rfl

theorem dotted?_append {owner name rest : List Char} (howner : isIdentifier owner = true)
    (hname : isIdentifier name = true) (hrest : ∀ c, rest.head? = some c → isWord c = false) :
    dotted? (owner ++ '.' :: (name ++ rest)) = some (owner, name, rest) := by
  have hdot : ∀ c, ('.' :: (name ++ rest)).head? = some c → isWord c = false := by
    rintro c ⟨⟩
    rfl
  simp [dotted?, identifier?_append howner hdot, afterDot?, identifier?_append hname hrest]

/-- A name by itself is no call and no member. -/
theorem call?_name {name : List Char} (hname : isIdentifier name = true) : call? name = none := by
  have happend := call?_append hname (show ∀ c, [].head? = some c → isWord c = false from nofun)
  rw [List.append_nil, closed?_eq_none (by simp)] at happend
  exact happend

theorem dotted?_name {name : List Char} (hname : isIdentifier name = true) :
    dotted? name = none := by
  have hword := identifier?_append hname
    (show ∀ c, [].head? = some c → isWord c = false from nofun)
  rw [List.append_nil] at hword
  simp [dotted?, hword, afterDot?]

/-- What goes on with a dot is no call. -/
theorem call?_dot {owner : List Char} (howner : isIdentifier owner = true) (rest : List Char) :
    call? (owner ++ '.' :: rest) = none := by
  have hdot : ∀ c, ('.' :: rest).head? = some c → isWord c = false := by
    rintro c ⟨⟩
    rfl
  rw [call?_append howner hdot, closed?_eq_none (by simp)]
  rfl

theorem call?_group {free : Char → Prop} {name inside : List Char}
    (hname : isIdentifier name = true) (h : Balanced free inside) (hline : '\n' ∉ inside) :
    call? (name ++ '(' :: (inside ++ [')'])) = some (name, inside) := by
  have hopen : ∀ c, ('(' :: (inside ++ [')'])).head? = some c → isWord c = false := by
    rintro c ⟨⟩
    rfl
  rw [call?_append hname hopen, closed?_group h hline]
  rfl

theorem memberCall?_group {free : Char → Prop} {owner name inside : List Char}
    (howner : isIdentifier owner = true) (hname : isIdentifier name = true)
    (h : Balanced free inside) (hline : '\n' ∉ inside) :
    memberCall? (owner ++ '.' :: (name ++ '(' :: (inside ++ [')']))) =
      some (owner, name, inside) := by
  have hopen : ∀ c, ('(' :: (inside ++ [')'])).head? = some c → isWord c = false := by
    rintro c ⟨⟩
    rfl
  simp [memberCall?, dotted?_append howner hname hopen, closed?_group h hline]

theorem dotted?_member {owner name : List Char} (howner : isIdentifier owner = true)
    (hname : isIdentifier name = true) :
    dotted? (owner ++ '.' :: name) = some (owner, name, []) := by
  have happend := dotted?_append howner hname
    (show ∀ c, [].head? = some c → isWord c = false from nofun)
  rwa [List.append_nil] at happend

/-! ## Parentheses and dots -/

theorem enclosed?_eq_some_iff {text inside : List Char} :
    enclosed? text = some inside ↔ text = '(' :: (inside ++ [')']) ∧ '\n' ∉ inside := by
  constructor
  · intro h
    cases text with
    | nil => cases h
    | cons c rest =>
      rw [enclosed?] at h
      split at h
      · rename_i hshape
        simp only [Bool.and_eq_true, beq_iff_eq, Bool.not_eq_true'] at hshape
        obtain ⟨⟨rfl, hlast⟩, hline⟩ := hshape
        obtain ⟨front, rfl⟩ := List.getLast?_eq_some_iff.1 hlast
        obtain rfl : front = inside := by simpa using h
        exact ⟨rfl, by simpa using hline⟩
      · cases h
  · rintro ⟨rfl, hline⟩
    simp [enclosed?, hline]

/-- **Closed texts**: a segment between parentheses. -/
theorem closed?_eq_some_iff {text inside : List Char} :
    closed? text = some inside ↔
      Segment (fun _ => True) inside ∧ text = '(' :: (inside ++ [')']) := by
  constructor
  · intro h
    rw [closed?] at h
    split at h
    · rename_i hcloses
      obtain ⟨rfl, hline⟩ := enclosed?_eq_some_iff.1 h
      obtain ⟨found, hfound, hsame⟩ := closesAtEnd_cons_iff.1 hcloses
      obtain rfl : inside = found := List.append_cancel_right hsame
      exact ⟨⟨hfound, hline⟩, rfl⟩
    · cases h
  · rintro ⟨hinside, rfl⟩
    exact closed?_group hinside.balanced hinside.unbroken

theorem head_group (inside : List Char) :
    ∀ c, ('(' :: (inside ++ [')'])).head? = some c → isWord c = false := by
  rintro c ⟨⟩
  rfl

/-- **Calls**: a name, and a segment between parentheses. -/
theorem call?_eq_some_iff {text name inside : List Char} :
    call? text = some (name, inside) ↔ isIdentifier name = true ∧ Segment (fun _ => True) inside ∧
      text = name ++ '(' :: (inside ++ [')']) := by
  constructor
  · intro h
    simp only [call?, Option.bind_eq_bind, Option.bind_eq_some_iff, Option.pure_def, Prod.exists,
      Option.some.injEq, Prod.mk.injEq] at h
    obtain ⟨name, rest, hword, inside, hclosed, rfl, rfl⟩ := h
    obtain ⟨hname, rfl, -⟩ := identifier?_eq_some_iff.1 hword
    obtain ⟨hinside, rfl⟩ := closed?_eq_some_iff.1 hclosed
    exact ⟨hname, hinside, rfl⟩
  · rintro ⟨hname, hinside, rfl⟩
    exact call?_group hname hinside.balanced hinside.unbroken

theorem dotted?_eq_some_iff {text owner name rest : List Char} :
    dotted? text = some (owner, name, rest) ↔ isIdentifier owner = true ∧
      isIdentifier name = true ∧ text = owner ++ '.' :: (name ++ rest) ∧
      ∀ c, rest.head? = some c → isWord c = false := by
  constructor
  · intro h
    simp only [dotted?, Option.bind_eq_bind, Option.bind_eq_some_iff, Option.pure_def, Prod.exists,
      Option.some.injEq, Prod.mk.injEq] at h
    obtain ⟨owner, middle, hfirst, member, hdot, name, rest, hsecond, rfl, rfl, rfl⟩ := h
    obtain ⟨howner, rfl, -⟩ := identifier?_eq_some_iff.1 hfirst
    obtain ⟨hname, rfl, hrest⟩ := identifier?_eq_some_iff.1 hsecond
    obtain rfl : middle = '.' :: (name ++ rest) := by
      cases middle with
      | nil => cases hdot
      | cons c cs =>
        rw [afterDot?] at hdot
        split at hdot
        · rename_i hc
          rw [eq_of_beq hc, Option.some.inj hdot]
        · cases hdot
    exact ⟨howner, hname, rfl, hrest⟩
  · rintro ⟨howner, hname, rfl, hrest⟩
    exact dotted?_append howner hname hrest

/-- **Method calls**: two names with a dot between them, and a segment between parentheses. -/
theorem memberCall?_eq_some_iff {text owner name inside : List Char} :
    memberCall? text = some (owner, name, inside) ↔ isIdentifier owner = true ∧
      isIdentifier name = true ∧ Segment (fun _ => True) inside ∧
      text = owner ++ '.' :: (name ++ '(' :: (inside ++ [')'])) := by
  constructor
  · intro h
    simp only [memberCall?, Option.bind_eq_bind, Option.bind_eq_some_iff, Option.pure_def,
      Prod.exists, Option.some.injEq, Prod.mk.injEq] at h
    obtain ⟨owner, name, rest, hdotted, inside, hclosed, rfl, rfl, rfl⟩ := h
    obtain ⟨howner, hname, rfl, -⟩ := dotted?_eq_some_iff.1 hdotted
    obtain ⟨hinside, rfl⟩ := closed?_eq_some_iff.1 hclosed
    exact ⟨howner, hname, hinside, rfl⟩
  · rintro ⟨howner, hname, hinside, rfl⟩
    exact memberCall?_group howner hname hinside.balanced hinside.unbroken

/-- **Properties**: two names with a dot between them. -/
theorem member?_eq_some_iff {text owner name : List Char} :
    member? text = some (owner, name) ↔ isIdentifier owner = true ∧ isIdentifier name = true ∧
      text = owner ++ '.' :: name := by
  constructor
  · intro h
    simp only [member?, Option.bind_eq_bind, Option.bind_eq_some_iff, Prod.exists] at h
    obtain ⟨owner, name, rest, hdotted, hparts⟩ := h
    split at hparts
    · rename_i hrest
      obtain ⟨rfl, rfl⟩ := Prod.mk.inj (Option.some.inj hparts)
      obtain ⟨howner, hname, rfl, -⟩ := dotted?_eq_some_iff.1 hdotted
      rw [eq_of_beq hrest, List.append_nil]
      exact ⟨howner, hname, rfl⟩
    · cases hparts
  · rintro ⟨howner, hname, rfl⟩
    rw [member?, dotted?_member howner hname]
    rfl

/-! ## Operations -/

/-- **A search goes on where it stopped**: in the second part of a text it knows of the first part
what is in front and how deep it is. -/
theorem findOperatorFrom_append (before : List Char) (depth : Int) (first second : List Char) :
    findOperatorFrom before depth (first ++ second) =
      (findOperatorFrom before depth first).or
        (findOperatorFrom (first.reverse ++ before) (depth + depthAfter first) second) := by
  induction first generalizing before depth with
  | nil => simp [findOperatorFrom]
  | cons c cs ih =>
    rw [List.cons_append, findOperatorFrom, findOperatorFrom]
    split
    · rfl
    · rw [ih, depthAfter_cons, stepDepth_eq_add]
      simp [Int.add_assoc]

/-- What is known of the place where a search finds an operator. -/
theorem exists_of_findOperatorFrom {before : List Char} {depth : Int} {text : List Char} {n : Nat}
    (h : findOperatorFrom before depth text = some n) :
    ∃ front c rest, text = front ++ c :: rest ∧ n = before.length + front.length ∧
      findOperatorFrom before depth front = none ∧ depth + depthAfter front = 0 ∧
      endsInOperand (front.reverse ++ before) = true := by
  induction text generalizing before depth with
  | nil => cases h
  | cons c cs ih =>
    rw [findOperatorFrom] at h
    split at h
    · rename_i hfound
      simp only [Bool.and_eq_true, beq_iff_eq] at hfound
      obtain ⟨⟨-, hdepth⟩, hends⟩ := hfound
      exact ⟨[], c, cs, rfl, (Option.some.inj h).symm, rfl, by simpa using hdepth, hends⟩
    · rename_i hpass
      obtain ⟨front, d, rest, rfl, hn, hnone, hdepth, hends⟩ := ih h
      refine ⟨c :: front, d, rest, rfl, ?_, ?_, ?_, ?_⟩
      · rw [hn, List.length_cons, List.length_cons]
        omega
      · rw [findOperatorFrom, if_neg hpass, hnone]
      · rw [depthAfter_cons]
        rw [stepDepth_eq_add] at hdepth
        omega
      · simpa using hends

/-- **Operations**: an operator, in front of which is a text that ends in an operand at depth zero
and in which no operator is found. -/
theorem operation?_eq_some_iff {text left right : List Char} {operator : Operator} :
    operation? text = some (left, operator, right) ↔
      text = left ++ operator.symbol :: right ∧ findOperator? left = none ∧
        depthAfter left = 0 ∧ endsInOperand left.reverse = true := by
  constructor
  · intro h
    simp only [operation?, Option.bind_eq_bind, Option.bind_eq_some_iff, Option.pure_def,
      Option.some.injEq, Prod.mk.injEq] at h
    obtain ⟨index, hindex, symbol, hat, operator, hsymbol, rfl, rfl, rfl⟩ := h
    obtain ⟨front, c, rest, rfl, rfl, hnone, hdepth, hends⟩ := exists_of_findOperatorFrom hindex
    obtain rfl : c = symbol := by simpa using hat
    obtain rfl := Operator.ofSymbol?_eq_some_iff.1 hsymbol
    have hright : (front ++ operator.symbol :: rest).drop (front.length + 1) = rest := by
      rw [List.append_cons, List.drop_left' (by simp)]
    simp only [List.length_nil, Nat.zero_add, List.take_left', hright, List.append_nil,
      Int.zero_add] at *
    exact ⟨trivial, hnone, hdepth, hends⟩
  · rintro ⟨rfl, hnone, hdepth, hends⟩
    have hsymbol : Operator.ofSymbol? operator.symbol = some operator :=
      Operator.ofSymbol?_eq_some_iff.2 rfl
    have hfound : findOperator? (left ++ operator.symbol :: right) = some left.length := by
      rw [findOperator?] at hnone ⊢
      rw [findOperatorFrom_append, hnone, hdepth, List.append_nil, findOperatorFrom,
        Operator.isSymbol, hsymbol, hends]
      simp
    have hright : (left ++ operator.symbol :: right).drop (left.length + 1) = right := by
      rw [List.append_cons, List.drop_left' (by simp)]
    simp [operation?, hfound, hsymbol, hright]

/-- **What can stand in front of an operator**: a solid text at depth zero that ends in an operand
and in which no operator is found. -/
theorem operand_of_findOperator? {text : List Char} (hsolid : Solid text)
    (hnone : findOperator? text = none) (hdepth : depthAfter text = 0)
    (hends : endsInOperand text.reverse = true) : Operand text where
  solid := hsolid
  pass rest := by
    rw [findOperator?] at hnone
    rw [findOperatorFrom_append, hnone, hdepth, List.append_nil]
    rfl
  ends := hends

/-- No operator is found in the first part of a text if none is found in the whole. -/
theorem findOperator?_of_append {first second : List Char}
    (h : findOperator? (first ++ second) = none) : findOperator? first = none := by
  rw [findOperator?, findOperatorFrom_append, Option.or_eq_none_iff] at h
  exact h.1

theorem isBlankText_of_endsInOperand {text : List Char} (h : endsInOperand text.reverse = true) :
    isBlankText text = false := by
  by_contra hblank
  rw [Bool.not_eq_false, isBlankText, List.all_eq_true] at hblank
  have hnone : text.reverse.dropWhile isBlank = [] :=
    List.dropWhile_eq_nil_iff.2 fun c hc => hblank c (List.mem_reverse.1 hc)
  rw [endsInOperand, hnone] at h
  cases h

/-- **The left side of an operation is an operand**, once the blanks after it are gone. -/
theorem operand_left {text left right : List Char} {operator : Operator}
    (h : operation? (trim text) = some (left, operator, right)) : Operand (trim left) := by
  obtain ⟨hsplit, hnone, hdepth, hends⟩ := operation?_eq_some_iff.1 h
  have hblank := isBlankText_of_endsInOperand hends
  have hne : left ≠ [] := by
    rintro rfl
    cases hblank
  have htext : isBlankText text = false := by
    by_contra htext
    rw [trim_eq_nil (Bool.of_not_eq_false htext)] at hsplit
    exact hne (List.append_eq_nil_iff.1 hsplit.symm).1
  -- the whole text begins with no blank, so that only blanks at the end are trimmed
  have hstart : trimStart left = left := dropWhile_isBlank_eq fun c hc =>
    (solid_trim htext).head c (by rwa [hsplit, List.head?_append_of_ne_nil _ hne])
  obtain ⟨after, hafter, hleft⟩ := exists_eq_trimEnd_append left
  have htrim : left = trim left ++ after := by rw [trim, hstart, ← hleft]
  have hzero := (Balanced.of_isBlank hafter).depthAfter_eq
  refine operand_of_findOperator? (solid_trim hblank) ?_ ?_ ?_
  · rw [htrim] at hnone
    exact findOperator?_of_append hnone
  · rw [htrim, depthAfter_append] at hdepth
    omega
  · rw [htrim, List.reverse_append,
      endsInOperand_append fun c hc => hafter c (List.mem_reverse.1 hc)] at hends
    exact hends

/-! ## Which shapes exclude each other -/

/-- What begins with a name is no number. -/
theorem readNumber?_of_name {name rest : List Char} (hname : isIdentifier name = true)
    (hsolid : Solid (name ++ rest)) : Number.readNumber? (name ++ rest) = none := by
  obtain ⟨c, cs, rfl, hstart, -⟩ := exists_cons_of_isIdentifier hname
  exact Number.readNumber?_of_readNumeral? hsolid
    (Number.readNumeral?_of_isWordStart hstart (cs ++ rest))

/-- **A call is an operand**, so that no operator splits it. -/
theorem operand_of_call? {text name inside : List Char} (h : call? text = some (name, inside)) :
    Operand text := by
  obtain ⟨hname, hinside, rfl⟩ := call?_eq_some_iff.1 h
  exact operand_of_call (dotted_of_isIdentifier hname) hinside.balanced

theorem call?_of_operation? {text : List Char} {parts : List Char × Operator × List Char}
    (h : operation? text = some parts) : call? text = none := by
  rw [Option.eq_none_iff_forall_ne_some]
  rintro ⟨name, inside⟩ hcall
  rw [(operand_of_call? hcall).operation?_eq_none] at h
  cases h

theorem readNumber?_of_call? {text name inside : List Char}
    (h : call? text = some (name, inside)) : Number.readNumber? text = none := by
  have hsolid := (operand_of_call? h).solid
  obtain ⟨hname, -, rfl⟩ := call?_eq_some_iff.1 h
  exact readNumber?_of_name hname hsolid

/-- **What has a dot after its first name is no call.** -/
theorem call?_of_dotted? {text : List Char} {parts : List Char × List Char × List Char}
    (h : dotted? text = some parts) : call? text = none := by
  obtain ⟨howner, -, rfl, -⟩ := dotted?_eq_some_iff.1 h
  exact call?_dot howner _

theorem readNumber?_of_dotted? {text : List Char} {parts : List Char × List Char × List Char}
    (hsolid : Solid text) (h : dotted? text = some parts) : Number.readNumber? text = none := by
  obtain ⟨howner, -, rfl, -⟩ := dotted?_eq_some_iff.1 h
  exact readNumber?_of_name howner hsolid

theorem dotted?_of_memberCall? {text owner name inside : List Char}
    (h : memberCall? text = some (owner, name, inside)) :
    dotted? text = some (owner, name, '(' :: (inside ++ [')'])) := by
  obtain ⟨howner, hname, -, rfl⟩ := memberCall?_eq_some_iff.1 h
  exact dotted?_append howner hname (head_group inside)

theorem operand_of_memberCall? {text owner name inside : List Char}
    (h : memberCall? text = some (owner, name, inside)) : Operand text := by
  obtain ⟨howner, hname, hinside, rfl⟩ := memberCall?_eq_some_iff.1 h
  have hdotted := (dotted_of_isIdentifier howner).append_dot (dotted_of_isIdentifier hname)
  simpa using operand_of_call hdotted hinside.balanced

theorem dotted?_of_member? {text owner name : List Char} (h : member? text = some (owner, name)) :
    dotted? text = some (owner, name, []) := by
  obtain ⟨howner, hname, rfl⟩ := member?_eq_some_iff.1 h
  exact dotted?_member howner hname

theorem operand_of_member? {text owner name : List Char} (h : member? text = some (owner, name)) :
    Operand text := by
  obtain ⟨howner, hname, rfl⟩ := member?_eq_some_iff.1 h
  exact operand_of_dotted
    ((dotted_of_isIdentifier howner).append_dot (dotted_of_isIdentifier hname))

/-- A method call goes on after its second name, and a property does not. -/
theorem memberCall?_of_member? {text owner name : List Char}
    (h : member? text = some (owner, name)) : memberCall? text = none := by
  rw [memberCall?, dotted?_of_member? h]
  rfl

end Shape
end LiveVectors

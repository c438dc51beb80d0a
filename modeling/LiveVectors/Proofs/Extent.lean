import LiveVectors.Proofs.Composition

/-!
# How far reading goes

The reader calls itself on the operands and the arguments that it finds in a text.  This file takes
one turn of the reader apart from the recursion: a turn finds the outline of the text, which is all
of its expression but what the parts of the text are read as.  The parts are shorter than the text
together, so that the reader comes to an end, and so that no expression has more nodes than its text
has characters.

* `nodes` — the number of nodes of an expression.
* `Outline`, `outline` and `readOnce` — one turn of the reader; `ofChars_eq_readOnce` says that the
  reader is such turns and nothing else.
* `length_parts_lt` — **the parts of an outline are shorter than the text**, together.
* `iterate_readOnce` — **turns run out**: one more than the text has characters is enough.
* `nodes_le_length` — **expressions are no larger than their texts**.
* `ofChars_bounded` — the result.
-/

set_option autoImplicit false

namespace LiveVectors
namespace Expression

open Text Nesting

/-! ## Nodes -/

mutual

/-- The number of nodes of an expression. -/
def nodes : Expression → Nat
  | .number _ => 1
  | .text _ => 1
  | .named _ => 1
  | .call _ arguments => 1 + nodesOfAll arguments
  | .operation _ left right => 1 + (nodes left + nodes right)
  | .methodCall _ _ arguments => 1 + nodesOfAll arguments
  | .property _ _ => 1

/-- The number of nodes of several expressions. -/
def nodesOfAll : List Expression → Nat
  | [] => 0
  | e :: rest => nodes e + nodesOfAll rest

end

theorem nodes_ofToken (token : List Char) : (ofToken token).nodes = 1 := by
  rw [ofToken]
  split
  · rfl
  · split <;> rfl

/-! ## Outlines -/

/-- The outer shape of an expression, with the texts that are still to be read. -/
inductive Outline where
  /-- Nothing is left to be read. -/
  | leaf (e : Expression) (single : e.nodes = 1)
  | call (name : String) (parts : List (List Char))
  | operation (operator : Operator) (left right : List Char)
  | methodCall (owner method : String) (parts : List (List Char))

namespace Outline

/-- The texts that are still to be read. -/
def parts : Outline → List (List Char)
  | leaf _ _ => []
  | call _ parts => parts
  | operation _ left right => [left, right]
  | methodCall _ _ parts => parts

variable (reader : List Char → Except SyntaxProblem Expression)

/-- The expression with an outline, if `reader` reads the texts in it. -/
def fill : Outline → Except SyntaxProblem Expression
  | leaf e _ => .ok e
  | call name parts => do return .call name (← parts.mapM reader)
  | operation operator left right => do return .operation operator (← reader left) (← reader right)
  | methodCall owner method parts => do return .methodCall owner method (← parts.mapM reader)

end Outline

/-- The texts of the arguments between parentheses, none of which may be blank. -/
def argumentParts (inside : List Char) : Except SyntaxProblem (List (List Char)) :=
  if (argumentTexts inside).any isBlankText then .error (.emptyArgument (String.ofList inside))
  else .ok (argumentTexts inside)

/-- The outline of a text. -/
def outline (text : List Char) : Except SyntaxProblem Outline :=
  match Number.readNumber? (trim text) with
  | some value => .ok (.leaf (.number value) rfl)
  | none =>
    match Shape.call? (trim text) with
    | some (name, inside) => do return .call (String.ofList name) (← argumentParts inside)
    | none =>
      match Shape.operation? (trim text) with
      | some (left, operator, right) =>
        if isBlankText right then .error (.missingOperand operator)
        else .ok (.operation operator left right)
      | none =>
        match Shape.memberCall? (trim text) with
        | some (owner, name, inside) => do
          return .methodCall (String.ofList owner) (String.ofList name) (← argumentParts inside)
        | none =>
          match Shape.member? (trim text) with
          | some (owner, name) =>
            .ok (.leaf (.property (String.ofList owner) (String.ofList name)) rfl)
          | none => .ok (.leaf (ofToken (trim text)) (nodes_ofToken _))

/-- One turn of the reader: the outline of a text, filled by another reader. -/
def readOnce (reader : List Char → Except SyntaxProblem Expression) (text : List Char) :
    Except SyntaxProblem Expression :=
  outline text >>= fun shape => shape.fill reader

theorem argumentsOfChars_eq_parts (inside : List Char) :
    argumentsOfChars inside = argumentParts inside >>= fun parts => parts.mapM ofChars := by
  rw [argumentsOfChars_eq, argumentParts]
  split
  · rfl
  · exact allOfChars_eq_mapM _

/-- **The reader is one turn after the other**: it calls itself on the parts of the outline, and on
nothing else. -/
theorem ofChars_eq_readOnce (text : List Char) : ofChars text = readOnce ofChars text := by
  rw [ofChars_eq, readOnce, outline]
  rcases Number.readNumber? (trim text) with _ | value
  swap
  · rfl
  rcases Shape.call? (trim text) with _ | ⟨name, inside⟩
  swap
  · dsimp only
    rw [argumentsOfChars_eq_parts]
    rcases argumentParts inside with problem | parts <;> rfl
  rcases Shape.operation? (trim text) with _ | ⟨left, operator, right⟩
  swap
  · dsimp only
    split <;> rfl
  rcases Shape.memberCall? (trim text) with _ | ⟨owner, name, inside⟩
  swap
  · dsimp only
    rw [argumentsOfChars_eq_parts]
    rcases argumentParts inside with problem | parts <;> rfl
  rcases Shape.member? (trim text) with _ | ⟨owner, name⟩ <;> rfl

/-! ## What outlines can be -/

/-- **What the outline of a text can be**: the shape of the trimmed text decides. -/
theorem outline_cases {text : List Char} {shape : Outline} (h : outline text = .ok shape) :
    (∃ e single, shape = .leaf e single) ∨
    (∃ name inside parts, Shape.call? (trim text) = some (name, inside) ∧
      argumentParts inside = .ok parts ∧ shape = .call (String.ofList name) parts) ∨
    (∃ left operator right, Shape.operation? (trim text) = some (left, operator, right) ∧
      isBlankText right = false ∧ shape = .operation operator left right) ∨
    ∃ owner name inside parts, Shape.memberCall? (trim text) = some (owner, name, inside) ∧
      argumentParts inside = .ok parts ∧
      shape = .methodCall (String.ofList owner) (String.ofList name) parts := by
  rw [outline] at h
  split at h
  · exact .inl ⟨_, _, (Except.ok.inj h).symm⟩
  split at h
  · rename_i name inside hcall
    rcases hparts : argumentParts inside with problem | parts <;> rw [hparts] at h
    · cases h
    · exact .inr (.inl ⟨name, inside, parts, hcall, hparts, (Except.ok.inj h).symm⟩)
  split at h
  · rename_i left operator right hoperation
    split at h
    · cases h
    · rename_i hright
      exact .inr (.inr (.inl ⟨left, operator, right, hoperation, Bool.eq_false_iff.2 hright,
        (Except.ok.inj h).symm⟩))
  split at h
  · rename_i owner name inside hmemberCall
    rcases hparts : argumentParts inside with problem | parts <;> rw [hparts] at h
    · cases h
    · exact .inr (.inr (.inr ⟨owner, name, inside, parts, hmemberCall, hparts,
        (Except.ok.inj h).symm⟩))
  split at h
  · exact .inl ⟨_, _, (Except.ok.inj h).symm⟩
  · exact .inl ⟨_, _, (Except.ok.inj h).symm⟩

/-- The characters that several texts have without the blanks at their ends. -/
def trimmedLength (texts : List (List Char)) : Nat := (texts.map fun text => (trim text).length).sum

theorem trimmedLength_add_length_le_room (texts : List (List Char)) :
    trimmedLength texts + texts.length ≤ room texts := by
  induction texts with
  | nil => exact Nat.le_refl 0
  | cons text rest ih =>
    have htext : (trim text).length ≤ text.length := length_trim_le text
    rw [trimmedLength] at ih
    rw [trimmedLength, room, List.map_cons, List.sum_cons, List.length_cons]
    omega

/-- **Arguments are not blank, and together they are no longer than what stands between the
parentheses.** -/
theorem argumentParts_bounded {inside : List Char} {parts : List (List Char)}
    (h : argumentParts inside = .ok parts) :
    (∀ part ∈ parts, isBlankText part = false) ∧ trimmedLength parts ≤ inside.length := by
  rw [argumentParts] at h
  split at h
  · cases h
  · rename_i hsolid
    obtain rfl := Except.ok.inj h
    refine ⟨by simpa using hsolid, ?_⟩
    rw [argumentTexts]
    split
    · exact Nat.zero_le _
    · have hroom := trimmedLength_add_length_le_room (splitTopLevel (· == ',') (-1) inside)
      rw [room_splitTopLevel] at hroom
      have hsome : 0 < (splitTopLevel (· == ',') (-1) inside).length :=
        List.length_pos_iff.2 (splitFrom_ne_nil _ _ _ _ _)
      omega

/-- **The parts of an outline are not blank, and together they are shorter than the text**, if there
are any. -/
theorem length_parts_lt {text : List Char} {shape : Outline} (h : outline text = .ok shape) :
    (∀ part ∈ shape.parts, isBlankText part = false) ∧
      (shape.parts = [] ∨ trimmedLength shape.parts < (trim text).length) := by
  rcases outline_cases h with ⟨e, single, rfl⟩ | ⟨name, inside, parts, hcall, hparts, rfl⟩ |
    ⟨left, operator, right, hoperation, hright, rfl⟩ |
    ⟨owner, name, inside, parts, hmemberCall, hparts, rfl⟩
  · exact ⟨List.forall_mem_nil _, .inl rfl⟩
  · obtain ⟨hsolid, harguments⟩ := argumentParts_bounded hparts
    have hinside : inside.length + 2 < (trim text).length := Shape.length_of_call? hcall
    exact ⟨hsolid, .inr (show trimmedLength parts < _ by omega)⟩
  · obtain ⟨hsplit, -, -, hends⟩ := Shape.operation?_eq_some_iff.1 hoperation
    have hleft : (trim left).length ≤ left.length := length_trim_le left
    have hright' : (trim right).length ≤ right.length := length_trim_le right
    refine ⟨List.forall_mem_cons.2 ⟨Shape.isBlankText_of_endsInOperand hends,
      List.forall_mem_singleton.2 hright⟩, .inr ?_⟩
    show (trim left).length + ((trim right).length + 0) < (trim text).length
    rw [hsplit, List.length_append, List.length_cons]
    omega
  · obtain ⟨hsolid, harguments⟩ := argumentParts_bounded hparts
    have hinside : inside.length + 2 < (trim text).length := Shape.length_of_memberCall? hmemberCall
    exact ⟨hsolid, .inr (show trimmedLength parts < _ by omega)⟩

/-- Each part of an outline is shorter than the text. -/
theorem length_lt_of_mem_parts {text part : List Char} {shape : Outline}
    (h : outline text = .ok shape) (hpart : part ∈ shape.parts) :
    (trim part).length < (trim text).length := by
  have hone : (trim part).length ≤ trimmedLength shape.parts :=
    List.single_le_sum (fun _ _ => Nat.zero_le _) _ (List.mem_map_of_mem hpart)
  have hall : trimmedLength shape.parts < (trim text).length :=
    (length_parts_lt h).2.resolve_left (List.ne_nil_of_mem hpart)
  omega

/-! ## Turns run out -/

theorem mapM_congr {reader reader' : List Char → Except SyntaxProblem Expression}
    {texts : List (List Char)} (h : ∀ text ∈ texts, reader text = reader' text) :
    texts.mapM reader = texts.mapM reader' := by
  induction texts with
  | nil => rfl
  | cons text rest ih =>
    obtain ⟨htext, hrest⟩ := List.forall_mem_cons.1 h
    rw [List.mapM_cons, List.mapM_cons, htext, ih hrest]

/-- Readers that agree on the parts of an outline fill it with the same. -/
theorem Outline.fill_congr {reader reader' : List Char → Except SyntaxProblem Expression}
    {shape : Outline} (h : ∀ part ∈ shape.parts, reader part = reader' part) :
    shape.fill reader = shape.fill reader' := by
  cases shape with
  | leaf e single => rfl
  | call name texts =>
    have htexts : texts.mapM reader = texts.mapM reader' := mapM_congr h
    rw [fill, fill, htexts]
  | operation operator left right =>
    rw [fill, fill, h left (by simp [parts]), h right (by simp [parts])]
  | methodCall owner method texts =>
    have htexts : texts.mapM reader = texts.mapM reader' := mapM_congr h
    rw [fill, fill, htexts]

/-- **Turns run out.**  After more turns than the text has characters nothing is left of the reader
that they began with. -/
theorem iterate_readOnce (reader : List Char → Except SyntaxProblem Expression) {n : Nat}
    {text : List Char} (h : (trim text).length < n) :
    (readOnce^[n]) reader text = ofChars text := by
  induction n generalizing text with
  | zero => omega
  | succ n ih =>
    rw [Function.iterate_succ_apply', ofChars_eq_readOnce, readOnce, readOnce]
    rcases hshape : outline text with problem | shape
    · rfl
    · refine Outline.fill_congr fun part hpart => ih ?_
      have hshorter := length_lt_of_mem_parts hshape hpart
      omega

/-! ## Expressions are no larger than their texts -/

theorem nodesOfAll_le_of_mapM {reader : List Char → Except SyntaxProblem Expression}
    {texts : List (List Char)} {es : List Expression} (h : texts.mapM reader = .ok es)
    (hread : ∀ text ∈ texts, ∀ e, reader text = .ok e → e.nodes ≤ (trim text).length) :
    nodesOfAll es ≤ trimmedLength texts := by
  induction texts generalizing es with
  | nil =>
    obtain rfl : [] = es := Except.ok.inj h
    exact Nat.zero_le _
  | cons text rest ih =>
    obtain ⟨htext, hrest⟩ := List.forall_mem_cons.1 hread
    rw [List.mapM_cons] at h
    rcases hfirst : reader text with problem | first
    · rw [hfirst] at h
      cases h
    rcases hothers : rest.mapM reader with problem | others
    · rw [hfirst, hothers] at h
      cases h
    rw [hfirst, hothers] at h
    obtain rfl : first :: others = es := Except.ok.inj h
    have hone : first.nodes ≤ (trim text).length := htext first hfirst
    have hmore : nodesOfAll others ≤ trimmedLength rest := ih hothers hrest
    rw [trimmedLength] at hmore
    rw [nodesOfAll, trimmedLength, List.map_cons, List.sum_cons]
    omega

/-- **A turn adds one node** to what the parts are read as. -/
theorem Outline.nodes_fill_le {reader : List Char → Except SyntaxProblem Expression}
    {shape : Outline} {e : Expression} (h : shape.fill reader = .ok e)
    (hread : ∀ part ∈ shape.parts, ∀ e, reader part = .ok e → e.nodes ≤ (trim part).length) :
    e.nodes ≤ 1 + trimmedLength shape.parts := by
  cases shape with
  | leaf e' single =>
    obtain rfl : e' = e := Except.ok.inj h
    omega
  | call name parts =>
    rcases hes : parts.mapM reader with problem | es <;> rw [fill, hes] at h
    · cases h
    · obtain rfl : Expression.call name es = e := Except.ok.inj h
      exact Nat.add_le_add_left (nodesOfAll_le_of_mapM hes hread) 1
  | operation operator left right =>
    rcases hfirst : reader left with problem | first
    · rw [fill, hfirst] at h
      cases h
    rcases hsecond : reader right with problem | second
    · rw [fill, hfirst, hsecond] at h
      cases h
    rw [fill, hfirst, hsecond] at h
    obtain rfl : Expression.operation operator first second = e := Except.ok.inj h
    have hleft : first.nodes ≤ (trim left).length := hread left (by simp [parts]) first hfirst
    have hright : second.nodes ≤ (trim right).length :=
      hread right (by simp [parts]) second hsecond
    show 1 + (first.nodes + second.nodes) ≤ 1 + ((trim left).length + ((trim right).length + 0))
    omega
  | methodCall owner method parts =>
    rcases hes : parts.mapM reader with problem | es <;> rw [fill, hes] at h
    · cases h
    · obtain rfl : Expression.methodCall owner method es = e := Except.ok.inj h
      exact Nat.add_le_add_left (nodesOfAll_le_of_mapM hes hread) 1

/-- **Expressions are no larger than their texts**, which are not blank.  The induction is on the
turns of the reader; the parts of an outline are not blank either. -/
theorem nodes_le_length {text : List Char} {e : Expression} (h : ofChars text = .ok e)
    (hsolid : isBlankText text = false) : e.nodes ≤ (trim text).length := by
  rw [ofChars_eq_readOnce, readOnce] at h
  rcases hshape : outline text with problem | shape <;> rw [hshape] at h
  · cases h
  have hread : ∀ part ∈ shape.parts, ∀ e, ofChars part = .ok e → e.nodes ≤ (trim part).length := by
    intro part hpart e he
    have hshorter : (trim part).length < (trim text).length := length_lt_of_mem_parts hshape hpart
    exact nodes_le_length he ((length_parts_lt hshape).1 part hpart)
  have hnodes : e.nodes ≤ 1 + trimmedLength shape.parts := Outline.nodes_fill_le h hread
  have hsome : 0 < (trim text).length := List.length_pos_iff.2 (solid_trim hsolid).ne_nil
  rcases (length_parts_lt hshape).2 with hnone | hshorter
  · rw [hnone] at hnodes
    exact Nat.le_trans hnodes hsome
  · omega
termination_by (trim text).length

/-- **Reading ends, with an expression no larger than its text.**  The reader is made of turns.  A
turn finds the outline of a text and calls the reader on the parts of the outline, which are not
blank and of which each, trimmed, is shorter than the trimmed text.  So one turn more than the
trimmed text has characters does what the reader does, whatever would be called after them.  The
reader has a problem with the text, or it gives an expression; and if the text is not blank, the
expression has no more nodes than the trimmed text has characters. -/
theorem ofChars_bounded (text : List Char) :
    ofChars text = readOnce ofChars text ∧
    (∀ shape, outline text = .ok shape → ∀ part ∈ shape.parts,
      isBlankText part = false ∧ (trim part).length < (trim text).length) ∧
    (∀ reader n, (trim text).length < n → (readOnce^[n]) reader text = ofChars text) ∧
    ((∃ problem, ofChars text = .error problem) ∨
      ∃ e, ofChars text = .ok e ∧ (isBlankText text = false → e.nodes ≤ (trim text).length)) := by
  refine ⟨ofChars_eq_readOnce text, fun shape hshape part hpart =>
    ⟨(length_parts_lt hshape).1 part hpart, length_lt_of_mem_parts hshape hpart⟩,
    fun reader n => iterate_readOnce reader, ?_⟩
  rcases h : ofChars text with problem | e
  · exact .inl ⟨problem, rfl⟩
  · exact .inr ⟨e, rfl, nodes_le_length h⟩

/-- Five nodes, for a text of nine characters. -/
def callOfDifference : Expression :=
  .call "f" [.named "a", .operation .minus (.named "b") (.named "c")]

/-- A call in blanks: its outline, ten turns of the reader that begin with one that reads nothing,
and the expression. -/
theorem ofChars_bounded_callOfDifference :
    (outline " f(a, b-c) ".toList = .ok (.call "f" ["a".toList, " b-c".toList]) ∧
      isBlankText " b-c".toList = false ∧
      (trim " b-c".toList).length < (trim " f(a, b-c) ".toList).length) ∧
    ((trim " f(a, b-c) ".toList).length < 10 ∧
      (readOnce^[10]) (fun _ => .error (.missingOperand .plus)) " f(a, b-c) ".toList =
        ofChars " f(a, b-c) ".toList) ∧
    ofChars " f(a, b-c) ".toList = .ok callOfDifference ∧
      isBlankText " f(a, b-c) ".toList = false ∧
      callOfDifference.nodes ≤ (trim " f(a, b-c) ".toList).length := by
  have hcall : Shape.call? (trim " f(a, b-c) ".toList) = some (['f'], "a, b-c".toList) := by
    decide +kernel
  have hparts : argumentParts "a, b-c".toList = .ok ["a".toList, " b-c".toList] := by rfl
  have houtline : outline " f(a, b-c) ".toList = .ok (.call "f" ["a".toList, " b-c".toList]) := by
    rw [outline, Shape.readNumber?_of_call? hcall]
    simp only [hcall, hparts]
    rfl
  have hname (name : Char) (h : isIdentifier (trim [name]) = true) :
      ReadAs [name] (.named (String.ofList (trim [name]))) := .named h
  have hsplit : Shape.operation? (trim " b-c".toList) = some (['b'], .minus, ['c']) := by
    decide +kernel
  have hfirst : ofChars "a".toList = .ok (.named "a") :=
    readAs_iff.2 (hname 'a' (by decide +kernel))
  have hsecond : ofChars " b-c".toList = .ok (.operation .minus (.named "b") (.named "c")) :=
    readAs_iff.2 (.operation (by decide +kernel) hsplit (by decide +kernel)
      (hname 'b' (by decide +kernel)) (hname 'c' (by decide +kernel)))
  have hread : ofChars " f(a, b-c) ".toList = .ok callOfDifference := by
    rw [ofChars_eq_readOnce, readOnce, houtline]
    show Outline.fill ofChars (.call "f" ["a".toList, " b-c".toList]) = .ok callOfDifference
    rw [Outline.fill, List.mapM_cons, List.mapM_cons, hfirst, hsecond]
    rfl
  have hlength : (trim " f(a, b-c) ".toList).length < 10 := by decide +kernel
  have hsolid : isBlankText " f(a, b-c) ".toList = false := by decide +kernel
  obtain ⟨-, hparts, hturns, hresult⟩ := ofChars_bounded " f(a, b-c) ".toList
  refine ⟨⟨houtline, hparts _ houtline _ (by simp [Outline.parts])⟩,
    ⟨hlength, hturns _ _ hlength⟩, hread, hsolid, ?_⟩
  rcases hresult with ⟨problem, hproblem⟩ | ⟨e, he, hnodes⟩
  · rw [hread] at hproblem
    cases hproblem
  · obtain rfl : callOfDifference = e := Except.ok.inj (hread.symm.trans he)
    exact hnodes hsolid

end Expression
end LiveVectors

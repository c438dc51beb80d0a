import LiveVectors.Live.Evaluation
import LiveVectors.Proofs.Readings

/-!
# Chains of operators

Operators have no precedence, and a chain of them groups to the right, whatever its operands are:
an operation is split at its first operator, so that nothing on the left can be split again.

* `StandsIn` — an expression is part of another one, at any depth.
* `ReadAs.not_isOperation` — what stands in front of an operator is read as no operation.
* `ReadAs.grouped` — no operation in what a text is read as has an operation on its left.
* `chainText` and `chain` — operands with operators between them, as a text and as an expression;
  `ReadAs.exists_chain` says that every text is read as the chain that it is.
* `evaluateChain` — the value of a chain, from the right.
* `read_grouped` — the result.
-/

set_option autoImplicit false

namespace LiveVectors
namespace Expression

open Text

/-! ## Parts of expressions -/

/-- Whether an expression is an operation. -/
def IsOperation : Expression → Prop
  | .operation .. => True
  | _ => False

/-- An expression stands in another one, at any depth; every expression stands in itself. -/
inductive StandsIn : Expression → Expression → Prop
  | self (e : Expression) : StandsIn e e
  | left {e left : Expression} (operator : Operator) (right : Expression) (h : StandsIn e left) :
      StandsIn e (.operation operator left right)
  | right {e right : Expression} (operator : Operator) (left : Expression) (h : StandsIn e right) :
      StandsIn e (.operation operator left right)
  | argument {e argument : Expression} {arguments : List Expression} (name : String)
      (hmem : argument ∈ arguments) (h : StandsIn e argument) : StandsIn e (.call name arguments)
  | methodArgument {e argument : Expression} {arguments : List Expression} (owner method : String)
      (hmem : argument ∈ arguments) (h : StandsIn e argument) :
      StandsIn e (.methodCall owner method arguments)

/-- No operation in an expression has an operation on its left. -/
def Grouped (e : Expression) : Prop :=
  ∀ operator left right, StandsIn (.operation operator left right) e → ¬ left.IsOperation

theorem Grouped.operation {operator : Operator} {left right : Expression}
    (hleft : Grouped left) (hright : Grouped right) (hsingle : ¬ left.IsOperation) :
    Grouped (.operation operator left right) := by
  intro operator' left' right' h
  cases h with
  | self => exact hsingle
  | left _ _ h => exact hleft _ _ _ h
  | right _ _ h => exact hright _ _ _ h

theorem Grouped.call {name : String} {arguments : List Expression}
    (h : ∀ argument ∈ arguments, Grouped argument) : Grouped (.call name arguments) := by
  intro operator left right h'
  cases h' with
  | argument _ hmem h' => exact h _ hmem _ _ _ h'

theorem Grouped.methodCall {owner method : String} {arguments : List Expression}
    (h : ∀ argument ∈ arguments, Grouped argument) :
    Grouped (.methodCall owner method arguments) := by
  intro operator left right h'
  cases h' with
  | methodArgument _ _ hmem h' => exact h _ hmem _ _ _ h'

/-! ## Reading in front of an operator -/

/-- **What stands in front of an operator is no operation**: it was split at the first operator. -/
theorem ReadAs.not_isOperation {text : List Char} {e : Expression} (h : ReadAs text e)
    (hoperation : Shape.operation? (trim text) = none) : ¬ e.IsOperation := by
  cases h with
  | operation _ hsplit =>
    rw [hoperation] at hsplit
    cases hsplit
  | _ => exact id

/-- **Texts are read as grouped expressions.** -/
theorem ReadAs.grouped {text : List Char} {e : Expression} (h : ReadAs text e) : Grouped e := by
  induction h with
  | operation _ hoperation _ hfirst _ ihfirst ihsecond =>
    exact ihfirst.operation ihsecond
      (hfirst.not_isOperation (Shape.operand_left hoperation).operation?_eq_none)
  | call _ _ _ _ ih => exact .call (List.forall_mem_map.2 ih)
  | methodCall _ _ _ _ ih => exact .methodCall (List.forall_mem_map.2 ih)
  | _ => exact nofun

/-! ## Chains -/

/-- An operand of a chain: a text and the expression that it is read as.  Nothing splits it. -/
structure ChainOperand where
  text : List Char
  expression : Expression
  reads : ofChars text = .ok expression
  single : ¬ expression.IsOperation
  /-- No operator is found in the text; a number is read before operators are looked for. -/
  unsplit : (∃ value, expression = .number value) ∨ Shape.operation? (trim text) = none

/-- The text of a chain: operands, and an operator after each of them but the last. -/
def chainText (links : List (ChainOperand × Operator)) (last : ChainOperand) : List Char :=
  links.foldr (fun link rest => link.1.text ++ link.2.symbol :: rest) last.text

/-- The expression of a chain, grouped to the right. -/
def chain (links : List (ChainOperand × Operator)) (last : ChainOperand) : Expression :=
  links.foldr (fun link rest => .operation link.2 link.1.expression rest) last.expression

/-- A text that is read as no operation is an operand by itself. -/
theorem ReadAs.unsplit {text : List Char} {e : Expression} (h : ReadAs text e)
    (hsingle : ¬ e.IsOperation) :
    (∃ value, e = .number value) ∨ Shape.operation? (trim text) = none := by
  cases h with
  | number => exact .inl ⟨_, rfl⟩
  | call hcall => exact .inr (Shape.operand_of_call? hcall).operation?_eq_none
  | operation => exact absurd trivial hsingle
  | methodCall hmemberCall =>
    exact .inr (Shape.operand_of_memberCall? hmemberCall).operation?_eq_none
  | property hmember => exact .inr (Shape.operand_of_member? hmember).operation?_eq_none
  | named hname =>
    exact .inr (Shape.operand_of_dotted (Shape.dotted_of_isIdentifier hname)).operation?_eq_none
  | text _ _ hoperation => exact .inr hoperation

/-- A text that is read as no operation, with blanks around it. -/
def ReadAs.chainOperand {text : List Char} {e : Expression} (h : ReadAs text e)
    (hsingle : ¬ e.IsOperation) : ChainOperand :=
  ⟨text, e, h.ofChars_eq, hsingle, h.unsplit hsingle⟩

/-- Blanks around an operand are part of it. -/
def ChainOperand.pad (operand : ChainOperand) (before after : List Char)
    (hbefore : ∀ c ∈ before, isBlank c = true) (hafter : ∀ c ∈ after, isBlank c = true) :
    ChainOperand where
  text := before ++ (operand.text ++ after)
  expression := operand.expression
  reads := by
    rw [← ofChars_trim, trim_append hbefore operand.text hafter, ofChars_trim, operand.reads]
  single := operand.single
  unsplit := by
    rw [trim_append hbefore operand.text hafter]
    exact operand.unsplit

/-- Blanks after a chain are part of its last operand. -/
theorem chainText_pad (links : List (ChainOperand × Operator)) (last : ChainOperand)
    {after : List Char} (hafter : ∀ c ∈ after, isBlank c = true) :
    chainText links (last.pad [] after (List.forall_mem_nil _) hafter) =
      chainText links last ++ after := by
  induction links with
  | nil => rfl
  | cons link rest ih =>
    rw [chainText, List.foldr_cons, ← chainText, ih, chainText, chainText, List.foldr_cons,
      List.append_assoc, List.cons_append]

/-- A text that is read as no operation is a chain of one operand. -/
theorem ReadAs.exists_chain_single {text : List Char} {e : Expression} (h : ReadAs text e)
    (hsingle : ¬ e.IsOperation) :
    ∃ links last, text = chainText links last ∧ e = chain links last :=
  ⟨[], h.chainOperand hsingle, rfl, rfl⟩

/-- **Texts are read as the chains that they are.** -/
theorem ReadAs.exists_chain {text : List Char} {e : Expression} (h : ReadAs text e) :
    ∃ links last, text = chainText links last ∧ e = chain links last := by
  induction h with
  | @operation text left right operator first second hnumber hoperation hright hfirst hsecond _
      ihsecond =>
    obtain ⟨links, last, rfl, rfl⟩ := ihsecond
    obtain ⟨hsplit, -⟩ := Shape.operation?_eq_some_iff.1 hoperation
    obtain ⟨before, after, hbefore, hafter, htext⟩ := exists_eq_append_trim text
    have hsingle := hfirst.not_isOperation (Shape.operand_left hoperation).operation?_eq_none
    -- blanks around the whole text become part of its first and its last operand
    let operand := (hfirst.chainOperand hsingle).pad before [] hbefore (List.forall_mem_nil _)
    refine ⟨(operand, operator) :: links, last.pad [] after (List.forall_mem_nil _) hafter, ?_, ?_⟩
    · rw [chainText, List.foldr_cons, ← chainText, chainText_pad]
      calc text = before ++ (left ++ operator.symbol :: chainText links last ++ after) := by
            rw [← hsplit, ← htext]
        _ = before ++ (left ++ []) ++ operator.symbol :: (chainText links last ++ after) := by
            simp
    · rfl
  | number hnumber => exact (ReadAs.number hnumber).exists_chain_single id
  | call hcall htexts hsolid harguments =>
    exact (ReadAs.call hcall htexts hsolid harguments).exists_chain_single id
  | methodCall hmemberCall htexts hsolid harguments =>
    exact (ReadAs.methodCall hmemberCall htexts hsolid harguments).exists_chain_single id
  | property hmember => exact (ReadAs.property hmember).exists_chain_single id
  | named hname => exact (ReadAs.named hname).exists_chain_single id
  | text hnumber hcall hoperation hmemberCall hmember hname =>
    exact (ReadAs.text hnumber hcall hoperation hmemberCall hmember hname).exists_chain_single id

/-! ## Evaluation -/

/-- The value of a chain: that of the first operand is put together with that of the whole chain
after its operator. -/
def evaluateChain (links : List (ChainOperand × Operator)) (last : ChainOperand) :
    Action World Value :=
  links.foldr (fun link rest => do
      let x ← World.evaluate link.1.expression
      let y ← rest
      World.derive (String.singleton link.2.symbol) x y)
    (World.evaluate last.expression)

theorem evaluate_chain (links : List (ChainOperand × Operator)) (last : ChainOperand) :
    World.evaluate (chain links last) = evaluateChain links last := by
  induction links with
  | nil => rfl
  | cons link rest ih =>
    rw [chain, List.foldr_cons, ← chain, World.evaluate, ih]
    rfl

/-- **Operators group to the right on every text.**  No operation in what a text is read as, at any
depth, has an operation on its left.  So the text is a chain of operands that are no operations
themselves, and its value is that of the first one with that of all the others together. -/
theorem read_grouped {text : String} {e : Expression} (h : read text = .ok e) :
    Grouped e ∧ ∃ links last, text.toList = chainText links last ∧ e = chain links last ∧
      World.evaluate e = evaluateChain links last := by
  have hreads := readAs_of_ofChars h
  obtain ⟨links, last, htext, rfl⟩ := hreads.exists_chain
  exact ⟨hreads.grouped, links, last, htext, rfl, evaluate_chain links last⟩

/-- What `f(a-b-c)-)-d` is read as: the last parenthesis closes nothing and hides the operator after
it. -/
def oddDifference : Expression :=
  .operation .minus
    (.call "f" [.operation .minus (.named "a") (.operation .minus (.named "b") (.named "c"))])
    (.text ")-d")

/-- A chain as an argument of a call, less an opaque text. -/
theorem read_grouped_oddDifference :
    read "f(a-b-c)-)-d" = .ok oddDifference ∧ Grouped oddDifference ∧
      ∃ links last, "f(a-b-c)-)-d".toList = chainText links last ∧
        oddDifference = chain links last ∧
        World.evaluate oddDifference = evaluateChain links last := by
  have hname (name : Char) (h : isIdentifier (trim [name]) = true) :
      ReadAs [name] (.named (String.ofList (trim [name]))) := .named h
  have hinner : Shape.operation? (trim "b-c".toList) = some (['b'], .minus, ['c']) := by
    decide +kernel
  have hpair : ReadAs "b-c".toList (.operation .minus (.named "b") (.named "c")) :=
    .operation (by decide +kernel) hinner (by decide +kernel) (hname 'b' (by decide +kernel))
      (hname 'c' (by decide +kernel))
  have houter : Shape.operation? (trim "a-b-c".toList) = some (['a'], .minus, "b-c".toList) := by
    decide +kernel
  have hchain : ReadAs "a-b-c".toList
      (.operation .minus (.named "a") (.operation .minus (.named "b") (.named "c"))) :=
    .operation (by decide +kernel) houter (by decide +kernel) (hname 'a' (by decide +kernel)) hpair
  have hshape : Shape.call? (trim "f(a-b-c)".toList) = some (['f'], "a-b-c".toList) := by
    decide +kernel
  have htexts : argumentTexts "a-b-c".toList =
      [("a-b-c".toList,
        operation .minus (.named "a") (.operation .minus (.named "b") (.named "c")))].map
        Prod.fst := by decide +kernel
  have hcall : ReadAs "f(a-b-c)".toList
      (.call "f" [.operation .minus (.named "a") (.operation .minus (.named "b") (.named "c"))]) :=
    .call hshape htexts (by decide +kernel) (List.forall_mem_singleton.2 hchain)
  have htext : ReadAs ")-d".toList (.text ")-d") :=
    .text (by decide +kernel) (by decide +kernel) (by decide +kernel) (by decide +kernel)
      (by decide +kernel) (by decide +kernel)
  have hsplit : Shape.operation? (trim "f(a-b-c)-)-d".toList) =
      some ("f(a-b-c)".toList, .minus, ")-d".toList) := by decide +kernel
  have hread : read "f(a-b-c)-)-d" = .ok oddDifference :=
    readAs_iff.2 (.operation (by decide +kernel) hsplit (by decide +kernel) hcall htext)
  exact ⟨hread, read_grouped hread⟩

end Expression
end LiveVectors

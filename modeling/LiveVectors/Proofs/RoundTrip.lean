import LiveVectors.Proofs.Readings
import LiveVectors.Proofs.Writing

/-!
# Reading what was written

Reading the text of a written expression gives the expression back, whatever blanks it was written
with.  For every kind of tree there is one shape that its text has, and the parts of the text are
the texts of the parts.

* `ofChars_primary` and `ofChars_chain` — the induction over trees.
* `read_print` — the result, with blanks around the whole text.
-/

set_option autoImplicit false

namespace LiveVectors
namespace Expression

open Text Nesting Writing

variable {text : List Char}

/-- **A chain is no number**: it holds an operator, and no numeral does. -/
theorem readNumeral?_of_operation? {parts : List Char × Operator × List Char}
    (hoperation : Shape.operation? text = some parts) (hplain : PlainText text) :
    Number.readNumeral? text = none := by
  rw [Option.eq_none_iff_forall_ne_some]
  intro numeral hnumeral
  have hnone := Shape.findOperator?_of_readNumeral? hnumeral fun c hc => (hplain c hc).2
  rw [Shape.operation?, hnone] at hoperation
  cases hoperation

/-- **A chain is split after its first operand.** -/
theorem ofChars_operation {left : Primary} {right : Chain} (before : Spacing)
    (operator : Operator) (after : Spacing)
    (hleft : ofChars left.print = .ok left.expression)
    (hright : ofChars right.print = .ok right.expression) :
    ofChars (Chain.operation left before operator after right).print =
      .ok (Chain.operation left before operator after right).expression := by
  have hsolid := (Chain.operation left before operator after right).solid_print
  have hplain := (Chain.operation left before operator after right).plain_print
  have hoperation := left.operand_print.operation?_eq before.blank operator
    (after.chars ++ right.print)
  have hfirst : ofChars (left.print ++ before.chars) = .ok left.expression := by
    rw [← hleft]
    exact ofChars_pad (List.forall_mem_nil _) left.operand_print.solid before.blank
  have hsecond : ofChars (after.chars ++ right.print) = .ok right.expression := by
    rw [← hright, ← ofChars_pad after.blank right.solid_print (List.forall_mem_nil _),
      List.append_nil]
  have hblank : isBlankText (after.chars ++ right.print) = false := by
    simpa using right.solid_print.isBlankText_eq after.chars []
  have hnumber := Number.readNumber?_of_readNumeral? hsolid
    (readNumeral?_of_operation? hoperation hplain)
  exact ofChars_of_operation? hsolid hnumber (Shape.call?_of_operation? hoperation) hoperation
    hblank hfirst hsecond

mutual

/-- **An operand is read as what it stands for.** -/
theorem ofChars_primary (operand : Primary) : ofChars operand.print = .ok operand.expression := by
  cases operand with
  | literal numeral => exact ofChars_of_readNumber? numeral.solid numeral.reads
  | named name =>
    have htrim : trim name.chars = name.chars := (Shape.operand_of_dotted name.dotted).solid.trim_eq
    have hread : ReadAs name.chars (.named (String.ofList (trim name.chars))) :=
      .named (htrim.symm ▸ name.valid)
    rw [htrim] at hread
    exact hread.ofChars_eq
  | call name arguments =>
    have hcall := Shape.call?_group name.valid arguments.balanced_print
      arguments.plain_print.not_mem_newline
    exact ofChars_of_call? (Shape.operand_of_call? hcall).solid (Shape.readNumber?_of_call? hcall)
      hcall (argumentsOfChars_arguments arguments)
  | methodCall owner method arguments =>
    have hmemberCall := Shape.memberCall?_group owner.valid method.valid arguments.balanced_print
      arguments.plain_print.not_mem_newline
    rw [← (Shape.operand_of_memberCall? hmemberCall).solid.trim_eq] at hmemberCall
    rw [Primary.print, ofChars_of_memberCall? hmemberCall, argumentsOfChars_arguments arguments]
    rfl
  | property owner name =>
    have hmember := Shape.member?_eq_some_iff.2 ⟨owner.valid, name.valid, rfl⟩
    rw [← (Shape.operand_of_member? hmember).solid.trim_eq] at hmember
    exact (ReadAs.property hmember).ofChars_eq

/-- **A chain is read as what it stands for.** -/
theorem ofChars_chain (chain : Chain) : ofChars chain.print = .ok chain.expression := by
  cases chain with
  | single operand => exact ofChars_primary operand
  | operation left before operator after right =>
    exact ofChars_operation before operator after (ofChars_primary left) (ofChars_chain right)

/-- Arguments are read as what they stand for; blanks alone are no argument. -/
theorem argumentsOfChars_arguments (arguments : Arguments) :
    argumentsOfChars arguments.print = .ok arguments.expressions := by
  cases arguments with
  | none inside =>
    rw [argumentsOfChars, Arguments.print, isBlankText, List.all_eq_true.2 inside.blank]
    rfl
  | some list =>
    have hpieces : list.pieces.any isBlankText = false := by
      simpa using list.isBlankText_of_mem_pieces
    rw [argumentsOfChars, Arguments.print, list.isBlankText_print, list.splitTopLevel_print]
    simp only [Bool.false_eq_true, if_false, hpieces]
    exact allOfChars_list list

theorem allOfChars_list (list : ArgumentList) :
    allOfChars list.pieces = .ok list.expressions := by
  cases list with
  | last before argument after =>
    rw [ArgumentList.pieces, allOfChars, allOfChars,
      ofChars_pad before.blank argument.solid_print after.blank, ofChars_chain argument]
    rfl
  | cons before argument after rest =>
    rw [ArgumentList.pieces, allOfChars,
      ofChars_pad before.blank argument.solid_print after.blank, ofChars_chain argument,
      allOfChars_list rest]
    rfl

end

/-- **Reading undoes writing.**  The text of a chain, with blanks around it and with whatever blanks
it was written with, is read as the expression that the chain stands for. -/
theorem read_print (before : Spacing) (chain : Chain) (after : Spacing) :
    read (String.ofList (before.chars ++ (chain.print ++ after.chars))) = .ok chain.expression := by
  rw [read, String.toList_ofList, ofChars_pad before.blank chain.solid_print after.blank]
  exact ofChars_chain chain

end Expression
end LiveVectors

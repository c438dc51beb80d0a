import LiveVectors.Proofs.Operands

/-!
# Written expressions

The expressions that a script means to write, each together with the blanks that it writes between
the parts.  An operand is a numeral, a name, a call, a method call or a property; a chain joins
operands by operators; arguments are chains with commas between them.  There are no parentheses
other than those of calls.

* `Spacing`, `Name` and `Literal` — the leaves, each with the proof that it is one.
* `Primary`, `Chain`, `Arguments` and `ArgumentList` — the trees.  `print` gives the text of a tree
  and `expression` what it stands for, which the blanks are no part of.
* `Primary.balanced_print` and `Primary.plain_print` — parentheses in a printed text have their
  partners, commas are inside of them, and no line ends.
* `Primary.operand_print` — an operator can follow what an operand prints.
-/

set_option autoImplicit false

namespace LiveVectors
namespace Writing

open Text Nesting

/-! ## Leaves -/

/-- Blanks, or none, that do not end a line. -/
structure Spacing where
  chars : List Char
  blank : ∀ c ∈ chars, isBlank c = true
  unbroken : '\n' ∉ chars

/-- An ASCII identifier. -/
structure Name where
  chars : List Char
  valid : isIdentifier chars = true

/-- An ASCII numeral, without the blanks around it, and the number that it is read as. -/
structure Literal where
  chars : List Char
  value : Float
  ascii : ∀ c ∈ chars, c.toNat < 128
  bare : ∀ c ∈ chars, isBlank c = false
  reads : Number.readNumber? chars = some value

/-! ## Trees -/

mutual

/-- An operand. -/
inductive Primary
  | literal (numeral : Literal)
  | named (name : Name)
  | call (name : Name) (arguments : Arguments)
  | methodCall (owner method : Name) (arguments : Arguments)
  | property (owner name : Name)

/-- Operands with operators between them. -/
inductive Chain
  | single (operand : Primary)
  | operation (left : Primary) (before : Spacing) (operator : Operator) (after : Spacing)
      (right : Chain)

/-- What stands between the parentheses of a call. -/
inductive Arguments
  | none (inside : Spacing)
  | some (list : ArgumentList)

/-- Arguments with commas between them, each of them between blanks. -/
inductive ArgumentList
  | last (before : Spacing) (argument : Chain) (after : Spacing)
  | cons (before : Spacing) (argument : Chain) (after : Spacing) (rest : ArgumentList)

end

/-! ## Texts -/

mutual

/-- The text of an operand. -/
def Primary.print : Primary → List Char
  | .literal numeral => numeral.chars
  | .named name => name.chars
  | .call name arguments => name.chars ++ '(' :: (arguments.print ++ [')'])
  | .methodCall owner method arguments =>
    owner.chars ++ '.' :: (method.chars ++ '(' :: (arguments.print ++ [')']))
  | .property owner name => owner.chars ++ '.' :: name.chars

/-- The text of a chain. -/
def Chain.print : Chain → List Char
  | .single operand => operand.print
  | .operation left before operator after right =>
    left.print ++ (before.chars ++ operator.symbol :: (after.chars ++ right.print))

/-- The text of arguments. -/
def Arguments.print : Arguments → List Char
  | .none inside => inside.chars
  | .some list => list.print

/-- The text of a list of arguments. -/
def ArgumentList.print : ArgumentList → List Char
  | .last before argument after => before.chars ++ (argument.print ++ after.chars)
  | .cons before argument after rest =>
    (before.chars ++ (argument.print ++ after.chars)) ++ ',' :: rest.print

end

/-- The texts of the arguments of a list, with the blanks around them. -/
def ArgumentList.pieces : ArgumentList → List (List Char)
  | .last before argument after => [before.chars ++ (argument.print ++ after.chars)]
  | .cons before argument after rest =>
    (before.chars ++ (argument.print ++ after.chars)) :: rest.pieces

example : ∃ chain : Chain, chain.print = "f( 1e-3 ,a.x)- b".toList :=
  let blank : Spacing := ⟨[' '], by simp [isBlank], by simp⟩
  let none : Spacing := ⟨[], by simp, by simp⟩
  let small : Literal :=
    ⟨['1', 'e', '-', '3'], 1e-3, by simp, by simp [isBlank], by decide +kernel⟩
  let member : Primary := .property ⟨['a'], rfl⟩ ⟨['x'], rfl⟩
  let arguments : ArgumentList :=
    .cons blank (.single (.literal small)) blank (.last none (.single member) none)
  ⟨.operation (.call ⟨['f'], rfl⟩ (.some arguments)) none .minus blank
    (.single (.named ⟨['b'], rfl⟩)), by decide⟩

/-! ## Meanings -/

mutual

/-- The expression that an operand stands for. -/
def Primary.expression : Primary → Expression
  | .literal numeral => .number numeral.value
  | .named name => .named (String.ofList name.chars)
  | .call name arguments => .call (String.ofList name.chars) arguments.expressions
  | .methodCall owner method arguments =>
    .methodCall (String.ofList owner.chars) (String.ofList method.chars) arguments.expressions
  | .property owner name => .property (String.ofList owner.chars) (String.ofList name.chars)

/-- The expression that a chain stands for: it groups to the right. -/
def Chain.expression : Chain → Expression
  | .single operand => operand.expression
  | .operation left _ operator _ right =>
    .operation operator left.expression right.expression

/-- The expressions that arguments stand for. -/
def Arguments.expressions : Arguments → List Expression
  | .none _ => []
  | .some list => list.expressions

/-- The expressions that a list of arguments stands for. -/
def ArgumentList.expressions : ArgumentList → List Expression
  | .last _ argument _ => [argument.expression]
  | .cons _ argument _ rest => argument.expression :: rest.expressions

end

/-! ## Leaves, read -/

theorem Name.dotted (name : Name) : Shape.Dotted name.chars :=
  Shape.dotted_of_isIdentifier name.valid

theorem Literal.ne_nil (literal : Literal) : literal.chars ≠ [] := by
  intro hnil
  have hreads := literal.reads
  rw [hnil] at hreads
  cases hreads

theorem Literal.solid (literal : Literal) : Solid literal.chars :=
  solid_of_forall literal.ne_nil literal.bare

theorem Literal.exists_numeral (literal : Literal) :
    ∃ numeral, Number.readNumeral? literal.chars = some numeral := by
  have hreads := literal.reads
  rw [Number.readNumber?, literal.solid.trim_eq] at hreads
  obtain ⟨numeral, hnumeral, -⟩ := Option.bind_eq_some_iff.1 hreads
  exact ⟨numeral, hnumeral⟩

theorem Literal.isDigit_core (literal : Literal) :
    ∀ c ∈ literal.chars, Text.isDigit c = true → c.isDigit = true :=
  fun c hc => isDigit_of_ascii (literal.ascii c hc)

/-- A literal has no parentheses and no commas. -/
theorem Literal.balanced (literal : Literal) : Balanced (· ≠ ',') literal.chars := by
  obtain ⟨numeral, hnumeral⟩ := literal.exists_numeral
  refine Balanced.of_forall fun c hc => ?_
  rcases Number.mem_cases_of_readNumeral? hnumeral hc with hdigit | hmark
  · refine ⟨?_, ?_, ?_⟩ <;> rintro rfl <;> exact absurd hdigit (by decide)
  · refine ⟨?_, ?_, ?_⟩ <;> rintro rfl <;> exact absurd hmark (by decide)

theorem Spacing.balanced (spacing : Spacing) : Balanced (· ≠ ',') spacing.chars :=
  (Balanced.of_isBlank spacing.blank).mono fun c hc => by
    rintro rfl
    cases hc

theorem Name.balanced (name : Name) : Balanced (· ≠ ',') name.chars :=
  (Shape.balanced_of_isDotted name.dotted.all).mono fun _ h => h.2

/-! ## Parentheses and commas -/

/-- Something between parentheses is balanced if it is, whatever it holds. -/
theorem balanced_group {free : Char → Prop} {inside : List Char}
    (h : Balanced (fun _ => True) inside) : Balanced free ('(' :: (inside ++ [')'])) :=
  .group h (.nil _)

theorem balanced_symbol (operator : Operator) {rest : List Char} (h : Balanced (· ≠ ',') rest) :
    Balanced (· ≠ ',') (operator.symbol :: rest) := by
  cases operator <;> exact .char (by decide) (by decide) (by decide) h

mutual

/-- **In a printed text every parenthesis has its partner, and commas stand inside of them.** -/
theorem Primary.balanced_print (operand : Primary) : Balanced (· ≠ ',') operand.print := by
  cases operand with
  | literal numeral => exact numeral.balanced
  | named name => exact name.balanced
  | call name arguments => exact name.balanced.append (balanced_group arguments.balanced_print)
  | methodCall owner method arguments =>
    refine owner.balanced.append (.char (by decide) (by decide) (by decide) ?_)
    exact method.balanced.append (balanced_group arguments.balanced_print)
  | property owner name =>
    exact owner.balanced.append (.char (by decide) (by decide) (by decide) name.balanced)

theorem Chain.balanced_print (chain : Chain) : Balanced (· ≠ ',') chain.print := by
  cases chain with
  | single operand => exact operand.balanced_print
  | operation left before operator after right =>
    exact left.balanced_print.append (before.balanced.append
      (balanced_symbol operator (after.balanced.append right.balanced_print)))

theorem Arguments.balanced_print (arguments : Arguments) :
    Balanced (fun _ => True) arguments.print := by
  cases arguments with
  | none inside => exact inside.balanced.mono fun _ _ => trivial
  | some list => exact list.balanced_print

theorem ArgumentList.balanced_print (list : ArgumentList) :
    Balanced (fun _ => True) list.print := by
  cases list with
  | last before argument after =>
    have h := before.balanced.append (argument.balanced_print.append after.balanced)
    exact h.mono fun _ _ => trivial
  | cons before argument after rest =>
    have h := before.balanced.append (argument.balanced_print.append after.balanced)
    exact (h.mono fun _ _ => trivial).append
      (.char (by decide) (by decide) trivial rest.balanced_print)

end

/-! ## Characters -/

/-- A character that ends no line and is no digit of another script. -/
def Plain (c : Char) : Prop := c ≠ '\n' ∧ (Text.isDigit c = true → c.isDigit = true)

/-- Nothing but plain characters. -/
def PlainText (text : List Char) : Prop := ∀ c ∈ text, Plain c

theorem PlainText.append {first second : List Char} (h : PlainText first)
    (h' : PlainText second) : PlainText (first ++ second) :=
  List.forall_mem_append.2 ⟨h, h'⟩

theorem PlainText.cons {c : Char} {cs : List Char} (hc : Plain c) (h : PlainText cs) :
    PlainText (c :: cs) :=
  List.forall_mem_cons.2 ⟨hc, h⟩

theorem PlainText.not_mem_newline {text : List Char} (h : PlainText text) : '\n' ∉ text :=
  fun hmem => (h _ hmem).1 rfl

theorem plain_of_ascii {c : Char} (hascii : c.toNat < 128) (hblank : isBlank c = false) :
    Plain c := by
  refine ⟨?_, isDigit_of_ascii hascii⟩
  rintro rfl
  cases hblank

theorem Name.plain (name : Name) : PlainText name.chars := by
  intro c hc
  have hword := isWord_of_isIdentifier name.valid c hc
  have hhigh := (bounds_of_isWord hword).2
  exact plain_of_ascii (by omega) (isBlank_of_isWord hword)

theorem Literal.plain (literal : Literal) : PlainText literal.chars :=
  fun c hc => plain_of_ascii (literal.ascii c hc) (literal.bare c hc)

theorem Spacing.plain (spacing : Spacing) : PlainText spacing.chars := by
  intro c hc
  refine ⟨?_, ?_⟩
  · rintro rfl
    exact spacing.unbroken hc
  · intro hdigit
    rw [isDigit_of_isBlank (spacing.blank c hc)] at hdigit
    cases hdigit

theorem plain_symbol (operator : Operator) : Plain operator.symbol := by
  cases operator <;> exact plain_of_ascii (by decide) (by decide)

theorem plain_group {inside : List Char} (h : PlainText inside) :
    PlainText ('(' :: (inside ++ [')'])) :=
  .cons (plain_of_ascii (by decide) (by decide))
    (h.append (.cons (plain_of_ascii (by decide) (by decide)) nofun))

theorem plain_dot {rest : List Char} (h : PlainText rest) : PlainText ('.' :: rest) :=
  .cons (plain_of_ascii (by decide) (by decide)) h

mutual

/-- **A printed text ends no line** and has ASCII digits only. -/
theorem Primary.plain_print (operand : Primary) : PlainText operand.print := by
  cases operand with
  | literal numeral => exact numeral.plain
  | named name => exact name.plain
  | call name arguments => exact name.plain.append (plain_group arguments.plain_print)
  | methodCall owner method arguments =>
    exact owner.plain.append (plain_dot (method.plain.append (plain_group arguments.plain_print)))
  | property owner name => exact owner.plain.append (plain_dot name.plain)

theorem Chain.plain_print (chain : Chain) : PlainText chain.print := by
  cases chain with
  | single operand => exact operand.plain_print
  | operation left before operator after right =>
    exact left.plain_print.append (before.plain.append
      (.cons (plain_symbol operator) (after.plain.append right.plain_print)))

theorem Arguments.plain_print (arguments : Arguments) : PlainText arguments.print := by
  cases arguments with
  | none inside => exact inside.plain
  | some list => exact list.plain_print

theorem ArgumentList.plain_print (list : ArgumentList) : PlainText list.print := by
  cases list with
  | last before argument after =>
    exact before.plain.append (argument.plain_print.append after.plain)
  | cons before argument after rest =>
    refine (before.plain.append (argument.plain_print.append after.plain)).append ?_
    exact .cons (plain_of_ascii (by decide) (by decide)) rest.plain_print

end

/-! ## Operands -/

/-- **An operator can follow what an operand prints.** -/
theorem Primary.operand_print (operand : Primary) : Shape.Operand operand.print := by
  cases operand with
  | literal numeral =>
    obtain ⟨parts, hparts⟩ := numeral.exists_numeral
    exact Shape.operand_of_readNumeral? hparts numeral.isDigit_core
  | named name => exact Shape.operand_of_dotted name.dotted
  | call name arguments => exact Shape.operand_of_call name.dotted arguments.balanced_print
  | methodCall owner method arguments =>
    have hcall := Shape.operand_of_call (owner.dotted.append_dot method.dotted)
      arguments.balanced_print
    simpa [Primary.print] using hcall
  | property owner name => exact Shape.operand_of_dotted (owner.dotted.append_dot name.dotted)

/-- A chain begins and ends with something. -/
theorem Chain.solid_print : ∀ chain : Chain, Solid chain.print
  | .single operand => operand.operand_print.solid
  | .operation left before operator after right => by
    have h := left.operand_print.solid.append right.solid_print
      (before.chars ++ operator.symbol :: after.chars)
    simpa [Chain.print] using h

/-! ## Lists of arguments -/

/-- **Cutting a list of arguments at its commas** gives back its pieces. -/
theorem ArgumentList.splitTopLevel_print : ∀ list : ArgumentList,
    splitTopLevel (· == ',') (-1) list.print = list.pieces
  | .last before argument after => by
    have hpiece := before.balanced.append (argument.balanced_print.append after.balanced)
    exact hpiece.splitFrom_eq (by simp) (-1) 0
  | .cons before argument after rest => by
    have hpiece := before.balanced.append (argument.balanced_print.append after.balanced)
    have hrest : splitFrom (· == ',') 0 (-1) 0 rest.print = rest.pieces := rest.splitTopLevel_print
    rw [ArgumentList.print, splitTopLevel, hpiece.splitFrom_cut (by simp) rfl, hrest]
    rfl

theorem ArgumentList.isBlankText_of_mem_pieces : ∀ (list : ArgumentList), ∀ piece ∈ list.pieces,
    isBlankText piece = false
  | .last before argument after => by
    simp [ArgumentList.pieces, argument.solid_print.isBlankText_eq]
  | .cons before argument after rest => by
    rw [ArgumentList.pieces, List.forall_mem_cons]
    exact ⟨argument.solid_print.isBlankText_eq _ _, rest.isBlankText_of_mem_pieces⟩

theorem ArgumentList.isBlankText_print (list : ArgumentList) : isBlankText list.print = false := by
  cases list with
  | last before argument after => exact argument.solid_print.isBlankText_eq _ _
  | cons before argument after rest =>
    rw [ArgumentList.print, List.append_assoc, List.append_assoc]
    exact argument.solid_print.isBlankText_eq _ _

end Writing
end LiveVectors

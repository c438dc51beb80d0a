import LiveVectors.Proofs.Shapes

/-!
# What parentheses enclose

The search for the parenthesis that closes a text counts depth and stops at the first return to
zero.  What it recognises is a language: a parenthesis, a balanced text, and the partner of the
parenthesis at the end.  Calls and method calls are recognised by this search, so that balance
reaches their arguments, and the readers of arguments never see a parenthesis without its partner.

* `IsArgumentText` — what can stand between the parentheses of a call.
* `isArgumentText_of_call?` and `isArgumentText_of_memberCall?` — **what is recognised as a call has
  balanced arguments**.
* `closesAtEnd_exact` — the result.
-/

set_option autoImplicit false

namespace LiveVectors
namespace Nesting

open Text

/-- A balanced text, in which the commas at depth zero leave balanced pieces. -/
structure IsArgumentText (inside : List Char) : Prop where
  balanced : Balanced (fun _ => True) inside
  /-- Outside of its parentheses, no piece has a comma left. -/
  pieces : ∀ piece ∈ splitTopLevel (· == ',') (-1) inside, Balanced (· ≠ ',') piece

theorem isArgumentText_of_balanced {inside : List Char} (h : Balanced (fun _ => True) inside) :
    IsArgumentText inside where
  balanced := h
  pieces piece hpiece :=
    (h.of_mem_splitFrom (· == ',') piece hpiece).mono fun c hc => by simpa using hc.2

theorem isArgumentText_of_call? {text name inside : List Char}
    (h : Shape.call? text = some (name, inside)) : IsArgumentText inside := by
  obtain ⟨-, hinside, -⟩ := Shape.call?_eq_some_iff.1 h
  exact isArgumentText_of_balanced hinside.balanced

theorem isArgumentText_of_memberCall? {text owner name inside : List Char}
    (h : Shape.memberCall? text = some (owner, name, inside)) : IsArgumentText inside := by
  obtain ⟨-, -, hinside, -⟩ := Shape.memberCall?_eq_some_iff.1 h
  exact isArgumentText_of_balanced hinside.balanced

/-- What follows a parenthesis of a text decides whether it is closed at the end. -/
theorem closesAtEnd_drop_iff {text : List Char} {place : Nat} (h : text[place]? = some '(') :
    closesAtEnd (text.drop place) = true ↔
      ∃ inside, Balanced (fun _ => True) inside ∧ text.drop (place + 1) = inside ++ [')'] := by
  obtain ⟨hlt, hopen⟩ := List.getElem?_eq_some_iff.1 h
  rw [List.drop_eq_getElem_cons hlt, hopen, closesAtEnd_cons_iff]

/-- **One enclosing pair is recognised, and nothing else.**  A parenthesis of a text is closed by
the last character exactly if a balanced text stands between the two.  So what stands between the
parentheses of a call or of a method call, wherever one is recognised, is balanced, and so are the
arguments that its commas at depth zero separate. -/
theorem closesAtEnd_exact (text : List Char) :
    (∀ place, text[place]? = some '(' →
      (closesAtEnd (text.drop place) = true ↔
        ∃ inside, Balanced (fun _ => True) inside ∧ text.drop (place + 1) = inside ++ [')'])) ∧
    (∀ name inside, Shape.call? text = some (name, inside) → IsArgumentText inside) ∧
    ∀ owner name inside, Shape.memberCall? text = some (owner, name, inside) →
      IsArgumentText inside :=
  ⟨fun _ => closesAtEnd_drop_iff, fun _ _ => isArgumentText_of_call?,
    fun _ _ _ => isArgumentText_of_memberCall?⟩

/-- A call and a method call with calls inside; in both the first parenthesis is the one that the
last character closes. -/
theorem closesAtEnd_exact_nested :
    ("f((a),g(b,c))".toList[1]? = some '(' ∧ closesAtEnd ("f((a),g(b,c))".toList.drop 1) = true ∧
      ∃ inside, Balanced (fun _ => True) inside ∧
        "f((a),g(b,c))".toList.drop 2 = inside ++ [')']) ∧
    (Shape.call? "f((a),g(b,c))".toList = some ("f".toList, "(a),g(b,c)".toList) ∧
      IsArgumentText "(a),g(b,c)".toList) ∧
    Shape.memberCall? "v.m(-(a))".toList = some ("v".toList, "m".toList, "-(a)".toList) ∧
      IsArgumentText "-(a)".toList := by
  have hopen : "f((a),g(b,c))".toList[1]? = some '(' := by decide
  have hcloses : closesAtEnd ("f((a),g(b,c))".toList.drop 1) = true := by decide
  have hcall : Shape.call? "f((a),g(b,c))".toList = some ("f".toList, "(a),g(b,c)".toList) := by
    decide +kernel
  have hmember : Shape.memberCall? "v.m(-(a))".toList =
      some ("v".toList, "m".toList, "-(a)".toList) := by decide +kernel
  obtain ⟨hexact, harguments, -⟩ := closesAtEnd_exact "f((a),g(b,c))".toList
  exact ⟨⟨hopen, hcloses, (hexact 1 hopen).1 hcloses⟩, ⟨hcall, harguments _ _ hcall⟩, hmember,
    (closesAtEnd_exact "v.m(-(a))".toList).2.2 _ _ _ hmember⟩

end Nesting
end LiveVectors

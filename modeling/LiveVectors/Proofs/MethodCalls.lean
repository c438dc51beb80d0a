import LiveVectors.Proofs.Readings
import LiveVectors.Proofs.Session

/-!
# Method calls as lines and as expressions

A method call can be a line by itself or an expression, and two different readers find it: the
reader of lines tries it first, the reader of expressions after three other shapes.  This file
shows that they find the same calls and that it makes no difference to a run which of them did.

* `Statement.ofChars_of_memberCall?` — what the reader of lines makes of the shape of a method call,
  its problems included; `Expression.ofChars_of_memberCall?` has said it of the other reader.
* `exists_memberCall?_of_methodCall` and `exists_memberCall?_of_callMethod` — nothing else gives
  them a method call.
* `World.outcome_execute_callMethod` — a line does what its expression does, and drops the value.
* `Instruction.read_agrees` — the result.
-/

set_option autoImplicit false

namespace LiveVectors

open Text LiveVectors.Action

/-! ## Reading -/

theorem Statement.ofChars_of_memberCall? {line owner name inside : List Char}
    (h : Shape.memberCall? line = some (owner, name, inside)) :
    ofChars line = do
      return some (.callMethod (String.ofList owner) (String.ofList name)
        (← Expression.argumentsOfChars inside)) := by
  rw [ofChars, h]

theorem Expression.exists_memberCall?_of_methodCall {text : List Char} {owner method : String}
    {arguments : List Expression} (h : ofChars text = .ok (.methodCall owner method arguments)) :
    ∃ parts, Shape.memberCall? (trim text) = some parts := by
  cases readAs_of_ofChars h with
  | methodCall hmemberCall => exact ⟨_, hmemberCall⟩

theorem Statement.exists_memberCall?_of_callMethod {line : List Char} {owner method : String}
    {arguments : List Expression}
    (h : ofChars line = .ok (some (.callMethod owner method arguments))) :
    ∃ parts, Shape.memberCall? line = some parts := by
  rw [ofChars] at h
  split at h
  · exact ⟨_, ‹_›⟩
  -- a property line or an assignment gives another statement, or none
  split at h
  · rename_i value _
    rcases hvalue : Expression.ofChars value with problem | e <;> rw [hvalue] at h <;> cases h
  split at h
  · rename_i definition _
    rcases hvalue : Expression.ofChars (splitDefinition definition).1 with problem | e
    · simp only [hvalue] at h
      cases h
    rcases hmodifiers : Modifier.listOfChars (splitDefinition definition).2 with problem | modifiers
    · simp only [hvalue, hmodifiers] at h
      cases h
    simp only [hvalue, hmodifiers] at h
    cases h
  · cases h

/-- **Both readers find the same method calls**: the line is a call exactly if the text is one. -/
theorem Statement.ofChars_eq_callMethod_iff {text : List Char} {owner method : String}
    {arguments : List Expression} :
    ofChars (trim text) = .ok (some (.callMethod owner method arguments)) ↔
      Expression.ofChars text = .ok (.methodCall owner method arguments) := by
  constructor
  · intro h
    obtain ⟨⟨first, second, inside⟩, hparts⟩ := exists_memberCall?_of_callMethod h
    rw [ofChars_of_memberCall? hparts] at h
    rw [Expression.ofChars_of_memberCall? hparts]
    rcases hinside : Expression.argumentsOfChars inside with problem | given <;>
      rw [hinside] at h <;> cases h
    rfl
  · intro h
    obtain ⟨⟨first, second, inside⟩, hparts⟩ := Expression.exists_memberCall?_of_methodCall h
    rw [Expression.ofChars_of_memberCall? hparts] at h
    rw [ofChars_of_memberCall? hparts]
    rcases hinside : Expression.argumentsOfChars inside with problem | given <;>
      rw [hinside] at h <;> cases h
    rfl

theorem Instruction.ofChars_eq_ok_some_iff {line : List Char} {number : Int}
    {statement : Statement} :
    (∃ place, ofChars line number = .ok (some ⟨statement, place⟩)) ↔
      Statement.ofChars line = .ok (some statement) := by
  rw [ofChars]
  rcases Statement.ofChars line with problem | _ | found
  · exact ⟨nofun, nofun⟩
  · exact ⟨nofun, nofun⟩
  · constructor
    · rintro ⟨place, h⟩
      cases h
      rfl
    · rintro h
      cases h
      exact ⟨_, rfl⟩

/-! ## Running -/

/-- **A line does what its expression does** and drops the value: it fails with the same fault or
succeeds like it, and leaves the same world. -/
theorem World.outcome_execute_callMethod (place : Place) {instruction : Instruction}
    {owner method : String} {arguments : List Expression}
    (h : instruction.statement = .callMethod owner method arguments) (world : World) :
    (execute place instruction).outcome world =
      (((evaluate (.methodCall owner method arguments)).outcome world).1.map fun _ => (),
        ((evaluate (.methodCall owner method arguments)).outcome world).2) := by
  rw [execute_callMethod place h, evaluate, Action.outcome_bind]
  rcases (callMethod owner method (evaluateAll arguments)).outcome world with ⟨_ | _, _⟩ <;> rfl

/-! ## Both together -/

/-- **A method call is the same as a line and as an expression.**  A trimmed text is read as a line
with a method call exactly if the text is read as an expression that is this call.  Where it has
the shape of one and its arguments cannot be read, both readers have the same problem.  And in every
world the line and the expression fail with the same fault or both succeed, and leave the same
world. -/
theorem Instruction.read_agrees (text : String) (number : Int) :
    (∀ owner method arguments,
      (∃ place, read (String.ofList (trim text.toList)) number =
          .ok (some ⟨.callMethod owner method arguments, place⟩)) ↔
        Expression.read text = .ok (.methodCall owner method arguments)) ∧
    (∀ owner method inside problem,
      Shape.memberCall? (trim text.toList) = some (owner, method, inside) →
        Expression.argumentsOfChars inside = .error problem →
          read (String.ofList (trim text.toList)) number = .error problem ∧
            Expression.read text = .error problem) ∧
    ∀ owner method arguments place place' world,
      (World.execute place ⟨.callMethod owner method arguments, place'⟩).outcome world =
        (((World.evaluate (.methodCall owner method arguments)).outcome world).1.map fun _ => (),
          ((World.evaluate (.methodCall owner method arguments)).outcome world).2) := by
  refine ⟨fun owner method arguments => ?_, ?_, ?_⟩
  · rw [read, String.toList_ofList, ofChars_eq_ok_some_iff, Statement.ofChars_eq_callMethod_iff]
    rfl
  · intro owner method inside problem hparts hinside
    constructor
    · rw [read, String.toList_ofList, ofChars, Statement.ofChars_of_memberCall? hparts, hinside]
      rfl
    · rw [Expression.read, Expression.ofChars_of_memberCall? hparts, hinside]
      rfl
  · intro owner method arguments place place' world
    exact World.outcome_execute_callMethod place rfl world

/-- `a.reset(5, 7)` -/
def resetArguments : List Expression := [.number 5, .number 7]

theorem Expression.read_resetArguments :
    read " a.reset(5, 7) " = .ok (.methodCall "a" "reset" resetArguments) :=
  ReadAs.ofChars_eq <| @ReadAs.methodCall _ "a".toList "reset".toList "5, 7".toList
    [(['5'], .number 5), ([' ', '7'], .number 7)] (by decide +kernel) (by decide +kernel)
    (by decide +kernel) <|
      List.forall_mem_cons.2 ⟨.number (by decide +kernel),
        List.forall_mem_singleton.2 (.number (by decide +kernel))⟩

/-- In the script `doubling` a call of `reset` overwrites the first vector, and its double
follows. -/
theorem World.exists_outcome_resetArguments :
    ∃ after, (evaluate (.methodCall "a" "reset" resetArguments)).outcome doubling =
        (.ok (.vector 0), after) ∧
      after.store.get 0 = ⟨5, 7⟩ ∧ after.store.get 1 = ⟨10, 14⟩ := by
  have hset : ({ doubling with store := doubling.store.set 0 ⟨5, 7⟩ } : World).WellFormed :=
    wellFormed_doubling.withStore (by simp)
  obtain ⟨store, hpropagate, hsettled⟩ := outcome_propagate hset 0
  have hcall : (Store.call .reset 0 [.number 5, .number 7]).outcome doubling.store =
      (.ok (.vector 0), doubling.store.set 0 ⟨5, 7⟩) :=
    Store.outcome_call_reset (by decide) 5 7
  have hgiven : (evaluateAll resetArguments).outcome doubling =
      (.ok [.number 5, .number 7], doubling) := rfl
  have hlookup : (lookup "a").outcome doubling = (.ok (.vector 0), doubling) := rfl
  have hmethod : (Value.vector 0).method "reset" (some "a") = .ok (0, .reset) := rfl
  have hfirst : store.get 0 = ⟨5, 7⟩ :=
    hsettled.get_eq fun hmem => absurd (lt_of_mem_liveDependents hset hmem) (by decide)
  have hsecond :
      1 ∈ ({ doubling with store := doubling.store.set 0 ⟨5, 7⟩ } : World).liveDependents 0 :=
    (mem_liveDependents_iff hset).2 (.single ⟨(by decide : 1 ∈ doubling.graph.dependents 0), rfl⟩)
  have hd : doubling.graph.derivation? 1 = some ⟨"*", .vector 0, .number 2, 1⟩ := rfl
  have hholds := hsettled.holds hsecond hd
  have hproduct : operate "*" (.vector ⟨5, 7⟩) (.number 2) = .ok (.planar ⟨10, 14⟩) := by
    decide +kernel
  refine ⟨{ doubling with store }, ?_, ?_, ?_⟩
  · simp only [evaluate, callMethod, outcome_bind, hlookup, outcome_of, hmethod, hgiven,
      outcome_onStore, hcall, hpropagate, outcome_pure]
  · exact hfirst
  · simp only [Derivation.Holds, Store.snapshot, hfirst, hproduct, Except.ok.injEq,
      Quantity.planar.injEq] at hholds
    exact hholds.symm

/-- Both readers find the call of `reset` with two numbers, and in the script `doubling` the line
and the expression overwrite the first vector alike.  Both readers miss the same argument of a call
that is short of one. -/
theorem Instruction.read_agrees_reset :
    (∃ place after, read "a.reset(5, 7)" 3 =
          .ok (some ⟨.callMethod "a" "reset" resetArguments, place⟩) ∧
        Expression.read " a.reset(5, 7) " = .ok (.methodCall "a" "reset" resetArguments) ∧
        (World.execute place ⟨.callMethod "a" "reset" resetArguments, place⟩).outcome
          World.doubling = (.ok (), after) ∧
        (World.evaluate (.methodCall "a" "reset" resetArguments)).outcome World.doubling =
          (.ok (.vector 0), after) ∧
        after.store.get 0 = ⟨5, 7⟩ ∧ after.store.get 1 = ⟨10, 14⟩) ∧
      Shape.memberCall? (trim " a.reset(1,) ".toList) =
          some ("a".toList, "reset".toList, "1,".toList) ∧
        Expression.argumentsOfChars "1,".toList = .error (.emptyArgument "1,") ∧
          read "a.reset(1,)" 3 = .error (.emptyArgument "1,") ∧
            Expression.read " a.reset(1,) " = .error (.emptyArgument "1,") := by
  constructor
  · obtain ⟨hreadings, -, hruns⟩ := read_agrees " a.reset(5, 7) " 3
    have hexpression := Expression.read_resetArguments
    obtain ⟨place, hread⟩ := (hreadings "a" "reset" resetArguments).2 hexpression
    have hline : String.ofList (trim " a.reset(5, 7) ".toList) = "a.reset(5, 7)" := by
      decide +kernel
    rw [hline] at hread
    obtain ⟨after, hevaluate, hfirst, hsecond⟩ := World.exists_outcome_resetArguments
    have hexecute := hruns "a" "reset" resetArguments place place World.doubling
    rw [hevaluate] at hexecute
    exact ⟨place, after, hread, hexpression, hexecute, hevaluate, hfirst, hsecond⟩
  · have hparts : Shape.memberCall? (trim " a.reset(1,) ".toList) =
        some ("a".toList, "reset".toList, "1,".toList) := by decide +kernel
    have hblank : (Expression.argumentTexts "1,".toList).any isBlankText = true := by
      decide +kernel
    have hinside : Expression.argumentsOfChars "1,".toList = .error (.emptyArgument "1,") := by
      rw [Expression.argumentsOfChars_eq, if_pos hblank, String.ofList_toList]
    have hline : String.ofList (trim " a.reset(1,) ".toList) = "a.reset(1,)" := by decide +kernel
    obtain ⟨hread, hexpression⟩ :=
      (read_agrees " a.reset(1,) " 3).2.1 "a".toList "reset".toList "1,".toList _ hparts hinside
    rw [hline] at hread
    exact ⟨hparts, hinside, hread, hexpression⟩

end LiveVectors

import LiveVectors.Proofs.Accounting

/-!
# Scope

There are no forward references.  Nothing in an expression or a modifier is passed over: if all of
it succeeds, then every variable in it has been looked up, and a look-up succeeds only for a name
that is bound.

* `Expression.mentions` and its relatives list the variables that occur in a piece of syntax.
* `Needs names action` — wherever the action succeeds, these names are bound.  `Reads` says in
  addition that the action leaves the bindings alone, so that what comes after it finds the same
  names (`Reads.then`).
* `reads_evaluate` and `needs_execute` — expressions and instructions need their variables.
* `bound_before_use` — the result, for expressions and for runs.
-/

set_option autoImplicit false

namespace LiveVectors

/-! ## Variables of a piece of syntax -/

namespace Expression

mutual

/-- The variables that occur in an expression, at any depth. -/
def mentions : Expression → List String
  | .number _ => []
  | .text _ => []
  | .named name => [name]
  | .call _ arguments => mentionsOfAll arguments
  | .operation _ left right => mentions left ++ mentions right
  | .methodCall owner _ arguments => owner :: mentionsOfAll arguments
  | .property owner _ => [owner]

/-- The variables that occur in several expressions. -/
def mentionsOfAll : List Expression → List String
  | [] => []
  | expression :: rest => mentions expression ++ mentionsOfAll rest

end

end Expression

/-- The variables that occur in the arguments of a modifier. -/
def Modifier.mentions : Modifier → List String
  | .flag _ => []
  | .option _ arguments => Expression.mentionsOfAll arguments

/-- The variables that a statement reads or changes.  The name that an assignment binds is not
among them. -/
def Statement.mentions : Statement → List String
  | .assign _ value modifiers => value.mentions ++ modifiers.flatMap Modifier.mentions
  | .setProperty owner _ value => owner :: value.mentions
  | .callMethod owner _ arguments => owner :: Expression.mentionsOfAll arguments

namespace World

open LiveVectors.Action

variable {α β : Type} {names others : List String}

/-! ## Actions that need names -/

/-- Wherever the action succeeds, these names are bound. -/
def Needs (names : List String) (action : Action World α) : Prop :=
  ∀ {world a after}, action.outcome world = (.ok a, after) →
    ∀ name ∈ names, (world.bindings.get? name).isSome = true

/-- The action needs these names, and it changes no binding. -/
structure Reads (names : List String) (action : Action World α) : Prop where
  needs : Needs names action
  /-- Names keep their bindings, whether the action succeeds or fails. -/
  bindings_eq : ∀ world, (action.outcome world).2.bindings = world.bindings

/-- An action that succeeds where it likes but changes no binding. -/
theorem reads_of_bindings {action : Action World α}
    (h : ∀ world, (action.outcome world).2.bindings = world.bindings) : Reads [] action :=
  ⟨fun _ => List.forall_mem_nil _, h⟩

theorem reads_pure (a : α) : Reads [] (pure a : Action World α) := reads_of_bindings fun _ => rfl

/-- What never succeeds needs whatever one likes. -/
theorem reads_fail (fault : Fault) : Reads names (Action.fail fault : Action World α) :=
  ⟨nofun, fun _ => rfl⟩

theorem reads_of (result : Except Fault α) : Reads [] (Action.of result : Action World α) :=
  reads_of_bindings fun _ => rfl

theorem reads_inspect (f : World → α) : Reads [] (Action.inspect f) :=
  reads_of_bindings fun _ => rfl

theorem reads_onStore (action : Action Store α) : Reads [] (onStore action) :=
  reads_of_bindings fun _ => rfl

/-- **What a sequence needs**: the second action finds the names of the first one still bound. -/
theorem Reads.needs_bind {action : Action World α} {next : α → Action World β}
    (h : Reads names action) (hnext : ∀ a, Needs others (next a)) :
    Needs (names ++ others) (action >>= next) := by
  intro world b last hlast name hname
  obtain ⟨a, after, hfirst, hsecond⟩ := outcome_bind_ok hlast
  rcases List.mem_append.1 hname with hname | hname
  · exact h.needs hfirst name hname
  · have hbindings := h.bindings_eq world
    rw [hfirst] at hbindings
    rw [← hbindings]
    exact hnext a hsecond name hname

theorem Reads.bind {action : Action World α} {next : α → Action World β}
    (h : Reads names action) (hnext : ∀ a, Reads others (next a)) :
    Reads (names ++ others) (action >>= next) := by
  refine ⟨h.needs_bind fun a => (hnext a).needs, fun world => ?_⟩
  have hbindings := h.bindings_eq world
  rw [outcome_bind]
  rcases houtcome : action.outcome world with ⟨fault | a, after⟩ <;> rw [houtcome] at hbindings
  · exact hbindings
  · exact ((hnext a).bindings_eq after).trans hbindings

/-- A sequence whose second action needs nothing of its own. -/
theorem Reads.bind_nil {action : Action World α} {next : α → Action World β}
    (h : Reads names action) (hnext : ∀ a, Reads [] (next a)) : Reads names (action >>= next) := by
  simpa using h.bind hnext

/-! ## Expressions -/

/-- A look-up needs the name that it looks up. -/
theorem reads_lookup (name : String) : Reads [name] (lookup name) := by
  constructor
  · intro world value after h other hother
    rw [List.mem_singleton.1 hother]
    rw [outcome_lookup] at h
    cases hfound : world.bindings.get? name with
    | none =>
      rw [hfound] at h
      cases h
    | some binding => rfl
  · intro world
    rw [outcome_lookup]
    cases world.bindings.get? name <;> rfl

theorem reads_refresh (ids : List VectorId) : Reads [] (refresh ids) := by
  induction ids with
  | nil => exact reads_pure _
  | cons id rest ih =>
    refine (reads_inspect _).bind_nil fun found => ?_
    cases found with
    | none => exact ih
    | some derivation =>
      exact (reads_onStore _).bind_nil fun _ => ih.bind_nil fun _ => reads_pure _

theorem reads_propagate (id : VectorId) : Reads [] (propagate id) :=
  (reads_inspect _).bind_nil fun ids => reads_refresh ids

theorem reads_derive (symbol : String) (left right : Value) :
    Reads [] (derive symbol left right) := by
  refine reads_of_bindings fun world => ?_
  rw [outcome_derive]
  rcases operate symbol (world.store.snapshot left) (world.store.snapshot right) with
    fault | ⟨x | v⟩ <;> rfl

theorem reads_callMethod (owner name : String) {arguments : Action World (List Value)}
    (h : Reads names arguments) : Reads (owner :: names) (callMethod owner name arguments) :=
  (reads_lookup owner).bind fun _ => (reads_of _).bind fun found =>
    h.bind_nil fun _ => (reads_onStore _).bind_nil fun _ =>
      (reads_propagate found.1).bind_nil fun _ => reads_pure _

mutual

/-- **An expression needs every variable in it**: no part of it is skipped. -/
theorem reads_evaluate (expression : Expression) :
    Reads expression.mentions (evaluate expression) := by
  cases expression with
  | number value => exact reads_pure _
  | text value => exact reads_pure _
  | named name => exact reads_lookup name
  | call name arguments =>
    rw [evaluate, Expression.mentions]
    split
    · exact (reads_evaluateAll arguments).bind_nil fun given =>
        (reads_onStore _).bind_nil fun _ => reads_pure _
    · exact reads_fail _
  | operation operator left right =>
    exact (reads_evaluate left).bind fun x => (reads_evaluate right).bind_nil fun y =>
      reads_derive _ x y
  | methodCall owner name arguments =>
    exact reads_callMethod owner name (reads_evaluateAll arguments)
  | property owner name => exact (reads_lookup owner).bind_nil fun _ => reads_onStore _

theorem reads_evaluateAll (expressions : List Expression) :
    Reads (Expression.mentionsOfAll expressions) (evaluateAll expressions) := by
  cases expressions with
  | nil => exact reads_pure _
  | cons expression rest =>
    exact (reads_evaluate expression).bind fun value => (reads_evaluateAll rest).bind_nil fun _ =>
      reads_pure _

end

/-! ## Modifiers -/

theorem reads_resolveOrigin (arguments : List Expression) :
    Reads (Expression.mentionsOfAll arguments) (resolveOrigin arguments) := by
  refine (reads_evaluateAll arguments).bind_nil fun given => ?_
  split
  · exact reads_pure _
  · exact reads_onStore _

theorem reads_applyModifier (place : Place) (look : Look) (modifier : Modifier) :
    Reads modifier.mentions (applyModifier place look modifier) := by
  cases modifier with
  | option name arguments =>
    rw [applyModifier, Modifier.mentions]
    split
    · exact (reads_resolveOrigin arguments).bind_nil fun _ => reads_pure _
    · exact reads_fail _
  | flag token =>
    rw [applyModifier, Modifier.mentions]
    split
    · exact reads_pure _
    split
    · exact reads_pure _
    split
    · exact reads_pure _
    · exact reads_of_bindings fun _ => rfl

/-- **Modifiers need every variable in their arguments.** -/
theorem reads_applyModifiers (place : Place) (look : Look) (modifiers : List Modifier) :
    Reads (modifiers.flatMap Modifier.mentions) (applyModifiers place look modifiers) := by
  induction modifiers generalizing look with
  | nil => exact reads_pure _
  | cons modifier rest ih =>
    exact (reads_applyModifier place look modifier).bind fun look' => ih look'

/-! ## Instructions -/

/-- **An instruction needs every variable of its statement**, although an assignment changes the
bindings in the end. -/
theorem needs_execute (place : Place) (instruction : Instruction) :
    Needs instruction.statement.mentions (execute place instruction) := by
  cases hstatement : instruction.statement with
  | assign name value modifiers =>
    simp only [execute, hstatement]
    refine (reads_evaluate value).needs_bind fun given => ?_
    have hlook : Needs (modifiers.flatMap Modifier.mentions ++ []) (do
        let look ← resolve place modifiers
        Action.update fun world =>
          { world with bindings := world.bindings.bind name ⟨given, look, instruction⟩ }) :=
      (reads_applyModifiers place .plain modifiers).needs_bind
        fun _ _ _ _ _ => List.forall_mem_nil _
    rwa [List.append_nil] at hlook
  | setProperty owner property value =>
    simp only [execute, hstatement]
    refine ((reads_lookup owner).bind fun target => (reads_evaluate value).bind_nil fun given =>
      (reads_onStore _).bind_nil fun _ => ?_).needs
    cases target with
    | vector id => exact (reads_propagate id).bind_nil fun _ => reads_pure _
    | _ => exact reads_pure _
  | callMethod owner method arguments =>
    rw [execute_callMethod place hstatement]
    exact ((reads_callMethod owner method (reads_evaluateAll arguments)).bind_nil
      fun _ => reads_pure _).needs

/-- The ending of an instruction is the one that it has in the world to which those before it
lead. -/
theorem getElem?_endings (world : World) (instructions : List Instruction) (i : Nat) :
    (endings world instructions)[i]? = instructions[i]?.map fun instruction =>
      (instruction, ((instructions.take i).foldl attempt world).fault? instruction) := by
  induction instructions generalizing world i with
  | nil => rfl
  | cons first rest ih =>
    cases i with
    | zero => rfl
    | succ i =>
      rw [endings, List.getElem?_cons_succ, List.getElem?_cons_succ, ih]
      rfl

/-- **Names are bound before they are used.**  Wherever the evaluation of an expression succeeds,
every variable that occurs in the expression is bound.  So in a run, whenever an instruction
succeeds, each variable in its expressions and in the arguments of its modifiers, and the variable
whose property it writes or whose method it calls, has been bound by an assignment that stands
before it and succeeded. -/
theorem bound_before_use :
    (∀ (world : World) (expression : Expression) (value : Value) (after : World),
      (evaluate expression).outcome world = (.ok value, after) →
      ∀ name ∈ expression.mentions, (world.bindings.get? name).isSome = true) ∧
    ∀ (instructions : List Instruction) (i : Nat) (instruction : Instruction),
      (endings empty instructions)[i]? = some (instruction, none) →
      ∀ name ∈ instruction.statement.mentions,
        ∃ earlier, (name, earlier) ∈ assignments (instructions.take i) := by
  refine ⟨fun world expression value after h => (reads_evaluate expression).needs h, ?_⟩
  intro instructions i instruction hending name hname
  rw [getElem?_endings, Option.map_eq_some_iff] at hending
  obtain ⟨found, -, hfound⟩ := hending
  obtain ⟨rfl, hfault⟩ := Prod.mk.inj hfound
  rw [fault?] at hfault
  rcases houtcome : (execute found.place found).outcome (run (instructions.take i)) with
    ⟨fault | _, after⟩
  · rw [run] at houtcome
    rw [houtcome] at hfault
    cases hfault
  · exact (isSome_run_iff _ name).1 (needs_execute found.place found houtcome name hname)

/-- In the script `doubling` the second line succeeds, so its operand was assigned before; and an
expression that doubles the double names what is bound. -/
theorem bound_before_use_doubling :
    (∃ earlier, ("a", earlier) ∈ assignments [vectorLine]) ∧
      (doubling.bindings.get? "b").isSome = true := by
  have hending : (endings empty [vectorLine, doubleLine])[1]? = some (doubleLine, none) := rfl
  have hvalue : (evaluate (.operation .times (.named "b") (.number 2))).outcome doubling =
      (.ok (.vector 2), ((evaluate (.operation .times (.named "b") (.number 2))).outcome
        doubling).2) := rfl
  exact ⟨bound_before_use.2 _ 1 doubleLine hending "a" (by decide),
    bound_before_use.1 _ _ _ _ hvalue "b" (by decide)⟩

end World
end LiveVectors

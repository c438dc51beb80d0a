import LiveVectors.Proofs.Trace

/-!
# Evaluation without method calls

Methods are the only way in which an expression can change a vector.  An expression that calls none
can be evaluated anywhere: vectors are made and derivations recorded, but nothing that was there
before changes, and this does not depend on whether the evaluation succeeds.

* `methodFree` — no method is called, at any depth.
* `calls_eq_nil` and its relatives — such expressions leave a trace without calls.
* `Intact` — the vectors and the bindings of a world are as they were in an earlier one.  A trace
  without calls leaves a world intact (`Trace.intact`).
-/

set_option autoImplicit false

namespace LiveVectors

/-! ## Expressions without method calls -/

namespace Expression

mutual

/-- Whether an expression calls no method. -/
def methodFree : Expression → Bool
  | .number _ => true
  | .text _ => true
  | .named _ => true
  | .call _ arguments => allMethodFree arguments
  | .operation _ left right => methodFree left && methodFree right
  | .methodCall _ _ _ => false
  | .property _ _ => true

/-- Whether several expressions call no method. -/
def allMethodFree : List Expression → Bool
  | [] => true
  | expression :: rest => methodFree expression && allMethodFree rest

end

end Expression

/-- Whether the arguments of a modifier call no method. -/
def Modifier.methodFree : Modifier → Bool
  | .flag _ => true
  | .option _ arguments => Expression.allMethodFree arguments

/-- Whether the expressions in a statement call no method.  The statement itself can be a call. -/
def Statement.methodFree : Statement → Bool
  | .assign _ value modifiers => value.methodFree && modifiers.all Modifier.methodFree
  | .setProperty _ _ value => value.methodFree
  | .callMethod _ _ arguments => Expression.allMethodFree arguments

namespace World

open LiveVectors.Action

/-! ## Traces without calls -/

theorem callsThen_eq_nil {α : Type} {action : Action World α} {first : World → List Call}
    {next : α → World → List Call} {world : World} (hfirst : first world = [])
    (hnext : ∀ a after, next a after = []) : callsThen action first next world = [] := by
  rw [callsThen, hfirst, List.nil_append]
  split
  · exact hnext _ _
  · rfl

mutual

/-- **An expression without method calls makes none.** -/
theorem calls_eq_nil (expression : Expression) (h : expression.methodFree = true)
    (world : World) : calls expression world = [] := by
  cases expression with
  | call name arguments =>
    rw [calls, callsOfAll_eq_nil arguments h world, ite_self]
  | operation operator left right =>
    rw [Expression.methodFree, Bool.and_eq_true] at h
    exact callsThen_eq_nil (calls_eq_nil left h.1 world) fun _ => calls_eq_nil right h.2
  | methodCall owner name arguments => cases h
  | _ => rfl

theorem callsOfAll_eq_nil (expressions : List Expression)
    (h : Expression.allMethodFree expressions = true) (world : World) :
    callsOfAll expressions world = [] := by
  cases expressions with
  | nil => rfl
  | cons expression rest =>
    rw [Expression.allMethodFree, Bool.and_eq_true] at h
    exact callsThen_eq_nil (calls_eq_nil expression h.1 world) fun _ => callsOfAll_eq_nil rest h.2

end

theorem callsOfModifier_eq_nil {modifier : Modifier} (h : modifier.methodFree = true)
    (world : World) : callsOfModifier modifier world = [] := by
  cases modifier with
  | flag token => rfl
  | option name arguments => rw [callsOfModifier, callsOfAll_eq_nil arguments h world, ite_self]

theorem callsOfModifiers_eq_nil (place : Place) (look : Look) {modifiers : List Modifier}
    (h : modifiers.all Modifier.methodFree = true) (world : World) :
    callsOfModifiers place look modifiers world = [] := by
  induction modifiers generalizing look world with
  | nil => rfl
  | cons modifier rest ih =>
    rw [List.all_cons, Bool.and_eq_true] at h
    exact callsThen_eq_nil (callsOfModifier_eq_nil h.1 world) fun look' => ih look' h.2

/-! ## What stays as it is -/

/-- The vectors of a world have their components still, and the names their bindings. -/
structure Intact (world after : World) : Prop where
  /-- Names keep their values and looks, and what was bound before is known still. -/
  bindings_eq : after.bindings = world.bindings
  /-- Vectors keep their components. -/
  get_eq : ∀ {id}, id < world.store.size → after.store.get id = world.store.get id

theorem Intact.refl (world : World) : world.Intact world := ⟨rfl, fun _ => rfl⟩

/-- A quiet step leaves a world intact. -/
theorem Quiet.intact {world after : World} (h : Quiet world after) : world.Intact after := by
  cases h with
  | make v => exact ⟨rfl, fun hid => Store.get_push_lt _ v hid⟩
  | derive => exact ⟨rfl, fun hid => Store.get_push_lt _ _ hid⟩
  | report => exact ⟨rfl, fun _ => rfl⟩

/-- **Without calls nothing that was there changes.** -/
theorem Trace.intact {world after : World} (h : Trace world [] after) (hw : world.WellFormed) :
    world.Intact after := by
  generalize hmade : ([] : List Call) = made at h
  induction h with
  | nil => exact .refl world
  | @quiet middle after made htrace hstep ih =>
    obtain ⟨hbindings, hget⟩ := ih hmade
    have hsize := (htrace.wellFormed_and_later hw).2.size_le
    have hquiet := hstep.intact
    refine ⟨hquiet.bindings_eq.trans hbindings, fun hid => ?_⟩
    rw [hquiet.get_eq (Nat.lt_of_lt_of_le hid hsize), hget hid]
  | call => simp at hmade

end World
end LiveVectors

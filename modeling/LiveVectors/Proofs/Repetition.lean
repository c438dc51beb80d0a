import LiveVectors.Proofs.Purity
import LiveVectors.Proofs.Reports
import LiveVectors.Proofs.Session
import Mathlib.Data.Option.Basic

/-!
# Evaluating twice

An expression that calls no method adds vectors to a world and changes nothing that is there.  So it
can be evaluated a second time, and the second evaluation ends as the first one did: with the same
fault, with the same number, text or vector, or with a vector of the same components that is new
again.

* `Grown` — what such an evaluation can do to a world.
* `Alike` — two results that differ in nothing but the identities of new vectors.
* `Rerun` and `Paired` — two runs side by side, both grown from worlds that agree on their old
  vectors, and the rule for sequences of actions.  Every expression without method calls is paired
  with itself (`paired_evaluate`), and so is every list of such modifiers (`paired_resolve`).
* `evaluate_twice` — the result.
-/

set_option autoImplicit false

namespace LiveVectors

open LiveVectors.Action

/-! ## Edges and records of new vectors -/

namespace DependencyGraph

/-- A new edge comes after the old ones. -/
theorem dependents_link (graph : DependencyGraph) (operand derived a : VectorId) :
    ∃ fresh, (graph.link operand derived).dependents a = graph.dependents a ++ fresh ∧
      ∀ id ∈ fresh, id = derived := by
  by_cases ha : a = operand
  · subst ha
    have hself : (graph.link a derived).dependents a =
        if derived ∈ graph.dependents a then graph.dependents a
        else graph.dependents a ++ [derived] := by
      rw [dependents, link, Table.get?_put_self, Option.getD_some]
    rw [hself]
    split
    · exact ⟨[], by simp, by simp⟩
    · exact ⟨[derived], rfl, by simp⟩
  · exact ⟨[], by simp [link, dependents, Table.get?_put_ne _ _ ha], by simp⟩

theorem dependents_foldl_link (operands : List VectorId) (graph : DependencyGraph)
    (derived a : VectorId) :
    ∃ fresh, (operands.foldl (fun graph operand => graph.link operand derived) graph).dependents a =
        graph.dependents a ++ fresh ∧ ∀ id ∈ fresh, id = derived := by
  induction operands generalizing graph with
  | nil => exact ⟨[], by simp, nofun⟩
  | cons operand rest ih =>
    obtain ⟨first, hfirst, hnew⟩ := dependents_link graph operand derived a
    obtain ⟨later, hlater, hnew'⟩ := ih (graph.link operand derived)
    refine ⟨first ++ later, by rw [List.foldl_cons, hlater, hfirst, List.append_assoc], ?_⟩
    intro id hid
    exact (List.mem_append.1 hid).elim (hnew id) (hnew' id)

/-- Recording a derivation adds edges into its target, after all others. -/
theorem dependents_register (graph : DependencyGraph) (derivation : Derivation) (a : VectorId) :
    ∃ fresh, (graph.register derivation).dependents a = graph.dependents a ++ fresh ∧
      ∀ id ∈ fresh, id = derivation.target :=
  dependents_foldl_link derivation.vectorOperands _ derivation.target a

end DependencyGraph

/-! ## What operations make of values that look the same -/

/-- The constructor looks at what its arguments are and at nothing else. -/
theorem Value.outcome_construct (arguments : List Value) (store : Store) :
    (construct arguments).outcome store =
      match arguments.map store.snapshot with
      | [.number x, .number y] => (.ok store.size, store.push ⟨x, y⟩)
      | given => (.error (.badArgument (.expectsTwoNumbers given)), store) := by
  unfold construct
  split
  · rfl
  · rename_i hnumbers
    split
    · rename_i x y hgiven
      -- only a number looks like a number
      rcases arguments with _ | ⟨first, _ | ⟨second, _ | ⟨_, _⟩⟩⟩ <;>
        simp only [List.map_nil, List.map_cons, List.cons.injEq, reduceCtorEq, and_false,
          and_true] at hgiven
      cases first <;> cases second <;> simp_all [Store.snapshot]
    · rfl

namespace World

/-! ## Growing -/

/-- Names are bound to vectors that exist.  This is all that has to be known of a world here: its
graph need not come from a run. -/
def Anchored (world : World) : Prop :=
  ∀ name binding, world.bindings.get? name = some binding → binding.value.Within world.store.size

theorem WellFormed.anchored {world : World} (hw : world.WellFormed) : world.Anchored :=
  fun _ _ hbinding => hw.bound hbinding

/-- **All that can happen to a world where no method is called**: it is intact, its records stand
unchanged, and new edges come after the old ones and lead into new vectors. -/
structure Grown (world after : World) : Prop extends world.Intact after where
  /-- No vector is lost. -/
  size_le : world.store.size ≤ after.store.size
  /-- Vectors keep their records. -/
  record_eq : ∀ {id}, id < world.store.size →
    after.graph.records.get? id = world.graph.records.get? id
  /-- Edges stay where they are. -/
  dependents_eq : ∀ operand, ∃ fresh,
    after.graph.dependents operand = world.graph.dependents operand ++ fresh ∧
      ∀ id ∈ fresh, world.store.size ≤ id ∧ id < after.store.size

namespace Grown

variable {world middle after : World}

theorem refl (world : World) : world.Grown world where
  toIntact := .refl world
  size_le := Nat.le_refl _
  record_eq _ := rfl
  dependents_eq operand := ⟨[], by simp, nofun⟩

theorem trans (h : world.Grown middle) (h' : middle.Grown after) : world.Grown after where
  bindings_eq := h'.bindings_eq.trans h.bindings_eq
  get_eq hid := (h'.get_eq (Nat.lt_of_lt_of_le hid h.size_le)).trans (h.get_eq hid)
  size_le := Nat.le_trans h.size_le h'.size_le
  record_eq hid := (h'.record_eq (Nat.lt_of_lt_of_le hid h.size_le)).trans (h.record_eq hid)
  dependents_eq operand := by
    obtain ⟨first, hfirst, hnew⟩ := h.dependents_eq operand
    obtain ⟨later, hlater, hnew'⟩ := h'.dependents_eq operand
    refine ⟨first ++ later, by rw [hlater, hfirst, List.append_assoc], fun id hid => ?_⟩
    rcases List.mem_append.1 hid with hid | hid
    · exact ⟨(hnew id hid).1, Nat.lt_of_lt_of_le (hnew id hid).2 h'.size_le⟩
    · exact ⟨Nat.le_trans h.size_le (hnew' id hid).1, (hnew' id hid).2⟩

/-- A vector is made. -/
theorem make (world : World) (v : PlaneVector) :
    world.Grown { world with store := world.store.push v } where
  bindings_eq := rfl
  get_eq hid := Store.get_push_lt _ v hid
  size_le := by simp
  record_eq _ := rfl
  dependents_eq operand := ⟨[], by simp, nofun⟩

/-- A vector is derived. -/
theorem derive (world : World) (symbol : String) (left right : Value) (v : PlaneVector) :
    world.Grown { world with
      store := world.store.push v
      graph := world.graph.register ⟨symbol, left, right, world.store.size⟩ } where
  bindings_eq := rfl
  get_eq hid := Store.get_push_lt _ v hid
  size_le := by simp
  record_eq hid := by
    rw [DependencyGraph.records_register, Table.get?_put_ne _ _ (Nat.ne_of_lt hid)]
  dependents_eq operand := by
    obtain ⟨fresh, hfresh, hnew⟩ := DependencyGraph.dependents_register world.graph
      ⟨symbol, left, right, world.store.size⟩ operand
    refine ⟨fresh, hfresh, fun id hid => ?_⟩
    rw [hnew id hid, Store.size_push]
    exact ⟨Nat.le_refl _, Nat.lt_succ_self _⟩

/-- Something is reported. -/
theorem report (world : World) (kind : DiagnosticKind) (message : String) (place : Place) :
    world.Grown (world.report kind message place) :=
  { refl world with }

end Grown

/-! ## Results that look alike -/

/-- Two values, one from each of two evaluations.  They are the same value, which no new vector has
a part in, or two new vectors with the same components.  The first `n` vectors of the one store and
the first `n'` of the other are not new. -/
inductive Alike (n n' : Nat) (store store' : Store) : Value → Value → Prop
  | same {value : Value} (h : value.Within n) : Alike n n' store store' value value
  | fresh {id id' : VectorId} (hid : n ≤ id ∧ id < store.size) (hid' : n' ≤ id' ∧ id' < store'.size)
      (heq : store'.get id' = store.get id) : Alike n n' store store' (.vector id) (.vector id')

/-- Two looks with the same flags and colours, and with origins that are alike. -/
structure AlikeLooks (n n' : Nat) (store store' : Store) (look look' : Look) : Prop where
  colour_eq : look'.colour = look.colour
  interactive_eq : look'.interactive = look.interactive
  reference_eq : look'.reference = look.reference
  origin : Option.Rel (fun id id' => Alike n n' store store' (.vector id) (.vector id'))
    look.origin look'.origin

/-- Two evaluations end in the same way: with the same fault, or with results that are alike. -/
inductive Agree {α : Type} (alike : α → α → Prop) : Except Fault α → Except Fault α → Prop
  | error (fault : Fault) : Agree alike (.error fault) (.error fault)
  | ok {a a' : α} (h : alike a a') : Agree alike (.ok a) (.ok a')

section

variable {n n' : Nat} {store store' : Store}

/-- A vector that both evaluations know is the same one. -/
theorem Alike.eq_of_lt {id id' : VectorId} (h : Alike n n' store store' (.vector id) (.vector id'))
    (hid : id < n) : id' = id := by
  cases h with
  | same => rfl
  | fresh hnew => exact absurd hid (Nat.not_lt_of_le hnew.1)

/-- Values that are alike look the same. -/
theorem Alike.snapshot_eq {value value' : Value} (h : Alike n n' store store' value value')
    (hold : ∀ id < n, store'.get id = store.get id) :
    store'.snapshot value' = store.snapshot value := by
  cases h with
  | same hwithin => exact Store.snapshot_congr fun id hid => hold id (hwithin id hid)
  | fresh _ _ heq => rw [Store.snapshot, Store.snapshot, heq]

theorem Alike.map_snapshot_eq {values values' : List Value}
    (h : List.Forall₂ (Alike n n' store store') values values')
    (hold : ∀ id < n, store'.get id = store.get id) :
    values'.map store'.snapshot = values.map store.snapshot := by
  induction h with
  | nil => rfl
  | cons hvalue _ ih => rw [List.map_cons, List.map_cons, hvalue.snapshot_eq hold, ih]

/-- Values stay alike while worlds grow. -/
theorem Alike.mono {world world' after after' : World} {value value' : Value}
    (h : Alike n n' world.store world'.store value value') (hgrown : world.Grown after)
    (hgrown' : world'.Grown after') : Alike n n' after.store after'.store value value' := by
  cases h with
  | same hwithin => exact .same hwithin
  | fresh hid hid' heq =>
    refine .fresh ⟨hid.1, Nat.lt_of_lt_of_le hid.2 hgrown.size_le⟩
      ⟨hid'.1, Nat.lt_of_lt_of_le hid'.2 hgrown'.size_le⟩ ?_
    rw [hgrown.get_eq hid.2, hgrown'.get_eq hid'.2, heq]

theorem AlikeLooks.mono {world world' after after' : World} {look look' : Look}
    (h : AlikeLooks n n' world.store world'.store look look') (hgrown : world.Grown after)
    (hgrown' : world'.Grown after') : AlikeLooks n n' after.store after'.store look look' where
  colour_eq := h.colour_eq
  interactive_eq := h.interactive_eq
  reference_eq := h.reference_eq
  origin := by
    have horigin := h.origin
    revert horigin
    generalize look.origin = origin
    generalize look'.origin = origin'
    rintro (halike | _)
    · exact .some (halike.mono hgrown hgrown')
    · exact .none

/-- An origin that both evaluations know is the same vector. -/
theorem AlikeLooks.origin_eq {look look' : Look} (h : AlikeLooks n n' store store' look look')
    {id : VectorId} (horigin : look.origin = some id) (hid : id < n) : look'.origin = some id := by
  have hrel := h.origin
  rw [horigin] at hrel
  cases horigin' : look'.origin with
  | none =>
    rw [horigin'] at hrel
    cases hrel
  | some id' =>
    rw [horigin'] at hrel
    cases hrel with
    | some halike => rw [halike.eq_of_lt hid]

theorem Agree.imp {α : Type} {alike alike' : α → α → Prop} {result result' : Except Fault α}
    (h : Agree alike result result') (himp : ∀ a a', alike a a' → alike' a a') :
    Agree alike' result result' := by
  cases h with
  | error fault => exact .error fault
  | ok halike => exact .ok (himp _ _ halike)

end

/-! ## Two runs side by side -/

/-- Two worlds of two evaluations.  The first one began in `first`, the second one in `second`,
which is what `first` had grown to. -/
structure Rerun (first second world world' : World) : Prop where
  anchored : first.Anchored
  start : first.Grown second
  left : first.Grown world
  right : second.Grown world'

variable {α β : Type} {first second world world' : World}

namespace Rerun

theorem trans {after after' : World} (h : Rerun first second world world')
    (hgrown : world.Grown after) (hgrown' : world'.Grown after') :
    Rerun first second after after' :=
  ⟨h.anchored, h.start, h.left.trans hgrown, h.right.trans hgrown'⟩

theorem bindings_eq (h : Rerun first second world world') :
    world'.bindings = world.bindings := by
  rw [h.right.bindings_eq, h.start.bindings_eq, h.left.bindings_eq]

/-- Both worlds agree on the vectors that there were at first. -/
theorem get_eq (h : Rerun first second world world') (id : VectorId)
    (hid : id < first.store.size) : world'.store.get id = world.store.get id := by
  rw [h.right.get_eq (Nat.lt_of_lt_of_le hid h.start.size_le), h.start.get_eq hid,
    h.left.get_eq hid]

end Rerun

/-- What it means for values of the two evaluations that they are alike. -/
abbrev AlikeFrom (first second : World) (store store' : Store) : Value → Value → Prop :=
  Alike first.store.size second.store.size store store'

/-- Two actions, each in its world, that let their worlds grow and end in the same way. -/
structure Paired (world world' : World) (action action' : Action World α)
    (alike : Store → Store → α → α → Prop) : Prop where
  left : world.Grown (action.outcome world).2
  right : world'.Grown (action'.outcome world').2
  agree : Agree (alike (action.outcome world).2.store (action'.outcome world').2.store)
    (action.outcome world).1 (action'.outcome world').1

section

variable {action action' : Action World α} {alike : Store → Store → α → α → Prop}

theorem Paired.of_ok {a a' : α} {after after' : World}
    (houtcome : action.outcome world = (.ok a, after))
    (houtcome' : action'.outcome world' = (.ok a', after')) (hgrown : world.Grown after)
    (hgrown' : world'.Grown after') (h : alike after.store after'.store a a') :
    Paired world world' action action' alike := by
  refine ⟨?_, ?_, ?_⟩ <;> simp only [houtcome, houtcome']
  · exact hgrown
  · exact hgrown'
  · exact .ok h

theorem Paired.of_error {fault : Fault} (houtcome : action.outcome world = (.error fault, world))
    (houtcome' : action'.outcome world' = (.error fault, world')) :
    Paired world world' action action' alike := by
  refine ⟨?_, ?_, ?_⟩ <;> simp only [houtcome, houtcome']
  · exact .refl world
  · exact .refl world'
  · exact .error fault

theorem paired_pure {a a' : α} (h : alike world.store world'.store a a') :
    Paired world world' (pure a) (pure a') alike :=
  .of_ok (outcome_pure a world) (outcome_pure a' world') (.refl world) (.refl world') h

theorem paired_fail (fault : Fault) :
    Paired world world' (Action.fail fault : Action World α) (Action.fail fault) alike :=
  .of_error (outcome_fail fault world) (outcome_fail fault world')

/-- **Sequences side by side**: the second actions start where the first ones stop, with results
that are alike; or neither of them starts. -/
theorem Paired.bind {next next' : α → Action World β} {alike' : Store → Store → β → β → Prop}
    (h : Paired world world' action action' alike)
    (hnext : ∀ a a' after after', world.Grown after → world'.Grown after' →
      alike after.store after'.store a a' → Paired after after' (next a) (next' a') alike') :
    Paired world world' (action >>= next) (action' >>= next') alike' := by
  obtain ⟨hgrown, hgrown', hagree⟩ := h
  rcases houtcome : action.outcome world with ⟨result, after⟩
  rcases houtcome' : action'.outcome world' with ⟨result', after'⟩
  rw [houtcome] at hgrown hagree
  rw [houtcome'] at hgrown' hagree
  cases hagree with
  | error fault =>
    refine ⟨?_, ?_, ?_⟩ <;> simp only [outcome_bind, houtcome, houtcome']
    · exact hgrown
    · exact hgrown'
    · exact .error fault
  | @ok a a' halike =>
    obtain ⟨hlast, hlast', hagree⟩ := hnext a a' after after' hgrown hgrown' halike
    refine ⟨?_, ?_, ?_⟩ <;> simp only [outcome_bind, houtcome, houtcome']
    · exact hgrown.trans hlast
    · exact hgrown'.trans hlast'
    · exact hagree

end

/-! ## Expressions -/

theorem paired_lookup (h : Rerun first second world world') (name : String) :
    Paired world world' (lookup name) (lookup name) fun _ _ value value' =>
      value' = value ∧ value.Within first.store.size := by
  have houtcome := outcome_lookup name world
  have houtcome' := outcome_lookup name world'
  rw [h.bindings_eq] at houtcome'
  cases hbinding : world.bindings.get? name with
  | none =>
    rw [hbinding] at houtcome houtcome'
    exact .of_error houtcome houtcome'
  | some binding =>
    rw [hbinding] at houtcome houtcome'
    refine .of_ok houtcome houtcome' (.refl world) (.refl world') ⟨rfl, ?_⟩
    rw [h.left.bindings_eq] at hbinding
    exact h.anchored name binding hbinding

theorem paired_construct (h : Rerun first second world world') {given given' : List Value}
    (hgiven : List.Forall₂ (AlikeFrom first second world.store world'.store) given given') :
    Paired world world' (onStore (Value.construct given)) (onStore (Value.construct given'))
      fun store store' id id' =>
        AlikeFrom first second store store' (.vector id) (.vector id') := by
  have houtcome := outcome_onStore (Value.construct given) world
  have houtcome' := outcome_onStore (Value.construct given') world'
  rw [Value.outcome_construct] at houtcome houtcome'
  rw [Alike.map_snapshot_eq hgiven h.get_eq] at houtcome'
  split at houtcome
  · rename_i x y hnumbers
    rw [hnumbers] at houtcome'
    refine .of_ok houtcome houtcome' (.make world _) (.make world' _) (.fresh ?_ ?_ ?_)
    · exact ⟨h.left.size_le, by simp⟩
    · exact ⟨h.right.size_le, by simp⟩
    · rw [Store.get_push_self, Store.get_push_self]
  · rename_i hother
    split at houtcome'
    · exact absurd ‹_› (hother _ _)
    · exact .of_error houtcome houtcome'

theorem paired_derive (h : Rerun first second world world') (symbol : String)
    {left left' right right' : Value}
    (hleft : AlikeFrom first second world.store world'.store left left')
    (hright : AlikeFrom first second world.store world'.store right right') :
    Paired world world' (derive symbol left right) (derive symbol left' right')
      (AlikeFrom first second) := by
  have houtcome := outcome_derive symbol left right world
  have houtcome' := outcome_derive symbol left' right' world'
  rw [hleft.snapshot_eq h.get_eq, hright.snapshot_eq h.get_eq] at houtcome'
  rcases hresult : operate symbol (world.store.snapshot left) (world.store.snapshot right) with
    fault | ⟨x | v⟩ <;> rw [hresult] at houtcome houtcome'
  · exact .of_error houtcome houtcome'
  · exact .of_ok houtcome houtcome' (.refl world) (.refl world') (.same (Value.within_number _ x))
  · refine .of_ok houtcome houtcome' (.derive world _ _ _ v) (.derive world' _ _ _ v)
      (.fresh ?_ ?_ ?_)
    · exact ⟨h.left.size_le, by simp⟩
    · exact ⟨h.right.size_le, by simp⟩
    · rw [Store.get_push_self, Store.get_push_self]

theorem paired_readProperty (h : Rerun first second world world') {target : Value}
    (htarget : target.Within first.store.size) (name : String) (owner : Option String) :
    Paired world world' (onStore (target.readProperty name owner))
      (onStore (target.readProperty name owner)) (AlikeFrom first second) := by
  have houtcome := outcome_onStore (target.readProperty name owner) world
  have houtcome' := outcome_onStore (target.readProperty name owner) world'
  rcases target.outcome_readProperty_cases name owner with
    ⟨fault, hread⟩ | ⟨id, property, hid, hread⟩ <;> rw [hread] at houtcome houtcome'
  · exact .of_error houtcome houtcome'
  · rw [h.get_eq id (htarget id hid)] at houtcome'
    exact .of_ok houtcome houtcome' (.refl world) (.refl world') (.same (Value.within_number _ _))

mutual

/-- **An expression without method calls ends in the same way when it is evaluated again.** -/
theorem paired_evaluate (expression : Expression) (hfree : expression.methodFree = true)
    {world world' : World} (h : Rerun first second world world') :
    Paired world world' (evaluate expression) (evaluate expression) (AlikeFrom first second) := by
  cases expression with
  | number value =>
    rw [evaluate]
    exact paired_pure (.same (Value.within_number _ value))
  | text value =>
    rw [evaluate]
    exact paired_pure (.same (Value.within_text _ value))
  | named name =>
    rw [evaluate]
    obtain ⟨hgrown, hgrown', hagree⟩ := paired_lookup h name
    refine ⟨hgrown, hgrown', hagree.imp ?_⟩
    rintro value _ ⟨rfl, hwithin⟩
    exact .same hwithin
  | call name arguments =>
    rw [Expression.methodFree] at hfree
    rw [evaluate]
    split
    · refine (paired_evaluateAll arguments hfree h).bind
        fun given given' after after' hgrown hgrown' hgiven => ?_
      exact (paired_construct (h.trans hgrown hgrown') hgiven).bind
        fun id id' _ _ _ _ hid => paired_pure hid
    · exact paired_fail _
  | operation operator left right =>
    rw [Expression.methodFree, Bool.and_eq_true] at hfree
    rw [evaluate]
    refine (paired_evaluate left hfree.1 h).bind fun x x' after after' hgrown hgrown' hx => ?_
    have hafter := h.trans hgrown hgrown'
    refine (paired_evaluate right hfree.2 hafter).bind fun y y' last last' hlast hlast' hy => ?_
    exact paired_derive (hafter.trans hlast hlast') _ (hx.mono hlast hlast') hy
  | methodCall owner name arguments => cases hfree
  | property owner name =>
    rw [evaluate]
    refine (paired_lookup h owner).bind fun target target' after after' hgrown hgrown' htarget => ?_
    obtain ⟨rfl, hwithin⟩ := htarget
    exact paired_readProperty (h.trans hgrown hgrown') hwithin name (some owner)

/-- The same for several expressions. -/
theorem paired_evaluateAll (expressions : List Expression)
    (hfree : Expression.allMethodFree expressions = true) {world world' : World}
    (h : Rerun first second world world') :
    Paired world world' (evaluateAll expressions) (evaluateAll expressions)
      fun store store' => List.Forall₂ (AlikeFrom first second store store') := by
  cases expressions with
  | nil =>
    rw [evaluateAll]
    exact paired_pure .nil
  | cons expression rest =>
    rw [Expression.allMethodFree, Bool.and_eq_true] at hfree
    rw [evaluateAll]
    refine (paired_evaluate expression hfree.1 h).bind
      fun value value' after after' hgrown hgrown' hvalue => ?_
    have hafter := h.trans hgrown hgrown'
    refine (paired_evaluateAll rest hfree.2 hafter).bind
      fun values values' last last' hlast hlast' hvalues => ?_
    exact paired_pure (.cons (hvalue.mono hlast hlast') hvalues)

end

/-! ## Modifiers -/

theorem paired_resolveOrigin (h : Rerun first second world world') {arguments : List Expression}
    (hfree : Expression.allMethodFree arguments = true) :
    Paired world world' (resolveOrigin arguments) (resolveOrigin arguments)
      fun store store' id id' =>
        AlikeFrom first second store store' (.vector id) (.vector id') := by
  rw [resolveOrigin]
  refine (paired_evaluateAll arguments hfree h).bind
    fun given given' after after' hgrown hgrown' hgiven => ?_
  have hafter := h.trans hgrown hgrown'
  by_cases hsingle : ∃ id, given = [.vector id]
  · obtain ⟨id, rfl⟩ := hsingle
    obtain ⟨value', _, hvalue, hnil, rfl⟩ := List.forall₂_cons_left_iff.1 hgiven
    obtain rfl := List.forall₂_nil_left_iff.1 hnil
    cases hvalue with
    | same hwithin => exact paired_pure (.same hwithin)
    | fresh hid hid' heq => exact paired_pure (.fresh hid hid' heq)
  · have hother : ∀ id, given ≠ [.vector id] := fun id heq => hsingle ⟨id, heq⟩
    -- the other list of values has the same shape
    have hother' : ∀ id, given' ≠ [.vector id] := by
      rintro id rfl
      obtain ⟨value, _, hvalue, hnil, rfl⟩ := List.forall₂_cons_right_iff.1 hgiven
      obtain rfl := List.forall₂_nil_right_iff.1 hnil
      cases hvalue with
      | same hwithin => exact hother id rfl
      | fresh hid hid' heq => exact hother _ rfl
    split
    · exact absurd rfl (hother _)
    · exact paired_construct hafter hgiven

theorem paired_applyModifier (h : Rerun first second world world') (place place' : Place)
    {look look' : Look}
    (hlook : AlikeLooks first.store.size second.store.size world.store world'.store look look')
    {modifier : Modifier} (hfree : modifier.methodFree = true) :
    Paired world world' (applyModifier place look modifier) (applyModifier place' look' modifier)
      (AlikeLooks first.store.size second.store.size) := by
  obtain ⟨hcolour, hinteractive, hreference, horigin⟩ := hlook
  cases modifier with
  | option name arguments =>
    rw [applyModifier, applyModifier]
    split
    · refine (paired_resolveOrigin h hfree).bind fun id id' _ _ _ _ hid => ?_
      exact paired_pure ⟨hcolour, hinteractive, hreference, .some hid⟩
    · exact paired_fail _
  | flag token =>
    rw [applyModifier, applyModifier]
    split
    · exact paired_pure ⟨rfl, hinteractive, hreference, horigin⟩
    split
    · exact paired_pure ⟨hcolour, rfl, hreference, horigin⟩
    split
    · exact paired_pure ⟨hcolour, hinteractive, rfl, horigin⟩
    · exact .of_ok rfl rfl (.report world _ _ place) (.report world' _ _ place')
        ⟨hcolour, hinteractive, hreference, horigin⟩

theorem paired_applyModifiers (place place' : Place) {modifiers : List Modifier}
    (hfree : modifiers.all Modifier.methodFree = true) {look look' : Look} {world world' : World}
    (h : Rerun first second world world')
    (hlook : AlikeLooks first.store.size second.store.size world.store world'.store look look') :
    Paired world world' (applyModifiers place look modifiers)
      (applyModifiers place' look' modifiers)
      (AlikeLooks first.store.size second.store.size) := by
  induction modifiers generalizing look look' world world' with
  | nil => exact paired_pure hlook
  | cons modifier rest ih =>
    rw [List.all_cons, Bool.and_eq_true] at hfree
    rw [applyModifiers, applyModifiers]
    exact (paired_applyModifier h place place' hlook hfree.1).bind
      fun next next' after after' hgrown hgrown' hnext =>
        ih hfree.2 (h.trans hgrown hgrown') hnext

/-- **Modifiers without method calls give the same look when they are resolved again.** -/
theorem paired_resolve (h : Rerun first second world world') (place place' : Place)
    {modifiers : List Modifier} (hfree : modifiers.all Modifier.methodFree = true) :
    Paired world world' (resolve place modifiers) (resolve place' modifiers)
      (AlikeLooks first.store.size second.store.size) :=
  paired_applyModifiers place place' hfree h ⟨rfl, rfl, rfl, .none⟩

/-! ## Evaluating twice -/

/-- An action that reports at no place reports nothing. -/
theorem diagnostics_of_orderly {action : Action World α}
    (h : ∀ place, Orderly place action) (world : World) :
    (action.outcome world).2.diagnostics = world.diagnostics := by
  obtain ⟨messages, hmessages⟩ := (h ⟨0, ""⟩).reports world
  obtain ⟨messages', hmessages'⟩ := (h ⟨1, ""⟩).reports world
  rw [hmessages, List.append_cancel_left_eq] at hmessages'
  cases messages with
  | nil => simpa using hmessages
  | cons message rest =>
    -- the first report would be at two places
    cases messages' with
    | nil => simp at hmessages'
    | cons message' rest' => simp [Diagnostic.ofKind] at hmessages'

theorem Rerun.begin {world : World} (hw : world.Anchored) : Rerun world world world world :=
  ⟨hw, .refl world, .refl world, .refl world⟩

/-- What an action leaves behind is where it can be run again. -/
theorem Paired.rerun {world : World} {action : Action World α}
    {alike : Store → Store → α → α → Prop} (h : Paired world world action action alike)
    (hw : world.Anchored) :
    Rerun world (action.outcome world).2 world (action.outcome world).2 :=
  ⟨hw, h.left, .refl world, .refl _⟩

/-- **Evaluation without method calls is pure and can be repeated.**  In a world whose names are
bound to vectors that exist, evaluating such an expression makes vectors and records how they were
made, and nothing else happens, whether it succeeds or fails.  Evaluated again right after, it fails
with the same fault, gives the same value, or gives another new vector with the same components.
Modifiers that call no methods, resolved twice, fail with the same fault or give the same look; an
origin that was there before is the same vector both times. -/
theorem evaluate_twice {world : World} (hw : world.Anchored) :
    (∀ (expression : Expression) (result result' : Except Fault Value) (after last : World),
      expression.methodFree = true →
      (evaluate expression).outcome world = (result, after) →
      (evaluate expression).outcome after = (result', last) →
      world.Grown after ∧ after.diagnostics = world.diagnostics ∧
        Agree (Alike world.store.size after.store.size last.store last.store) result result') ∧
    ∀ (place place' : Place) (modifiers : List Modifier) (result result' : Except Fault Look)
        (after last : World),
      modifiers.all Modifier.methodFree = true →
      (resolve place modifiers).outcome world = (result, after) →
      (resolve place' modifiers).outcome after = (result', last) →
      Agree (AlikeLooks world.store.size after.store.size last.store last.store) result result' ∧
        ∀ look id, result = .ok look → look.origin = some id → id < world.store.size →
          ∃ look', result' = .ok look' ∧ look'.origin = some id := by
  constructor
  · intro expression result result' after last hfree hfirst hsecond
    have hpure := paired_evaluate expression hfree (.begin hw)
    have hagain := paired_evaluate expression hfree (hpure.rerun hw)
    have hsilent := diagnostics_of_orderly (fun _ => orderly_evaluate expression) world
    have hgrown := hpure.left
    obtain ⟨-, hlast, hagree⟩ := hagain
    simp only [hfirst, hsecond] at hgrown hsilent hlast hagree
    exact ⟨hgrown, hsilent, hagree.imp fun _ _ halike => halike.mono hlast (.refl last)⟩
  · intro place place' modifiers result result' after last hfree hfirst hsecond
    have hpure := paired_resolve (.begin hw) place place hfree
    obtain ⟨-, hlast, hagree⟩ := paired_resolve (hpure.rerun hw) place place' hfree
    simp only [hfirst, hsecond] at hlast hagree
    have hlooks := hagree.imp fun _ _ halike => halike.mono hlast (.refl last)
    refine ⟨hlooks, ?_⟩
    rintro look id rfl horigin hid
    cases hlooks with
    | @ok _ look' halike => exact ⟨look', rfl, halike.origin_eq horigin hid⟩

/-- `b + Vec2(a.x, 1)` -/
def shiftedSum : Expression :=
  .operation .plus (.named "b") (.call "Vec2" [.property "a" "x", .number 1])

/-- In the script `doubling` a sum with a new vector is evaluated twice, which gives the vectors 3
and 5, and an origin at the first vector is resolved twice, which gives that vector both times. -/
theorem evaluate_twice_doubling :
    doubling.Anchored ∧ shiftedSum.methodFree = true ∧
      ∃ after last, (evaluate shiftedSum).outcome doubling = (.ok (.vector 3), after) ∧
        (evaluate shiftedSum).outcome after = (.ok (.vector 5), last) ∧
        doubling.Grown after ∧ last.store.get 5 = last.store.get 3 ∧
        ∃ look', ((resolve ⟨2, ""⟩ [.option "origin" [.named "a"], .flag "shiny"]).outcome
            ((resolve ⟨1, ""⟩ [.option "origin" [.named "a"], .flag "shiny"]).outcome
              doubling).2).1 = .ok look' ∧ look'.origin = some 0 := by
  have hw : doubling.Anchored := wellFormed_doubling.anchored
  obtain ⟨hevaluate, hresolve⟩ := evaluate_twice hw
  obtain ⟨hgrown, -, hagree⟩ := hevaluate shiftedSum (.ok (.vector 3)) (.ok (.vector 5))
    ((evaluate shiftedSum).outcome doubling).2
    ((evaluate shiftedSum).outcome ((evaluate shiftedSum).outcome doubling).2).2 rfl rfl rfl
  refine ⟨hw, rfl, _, _, rfl, rfl, hgrown, ?_, ?_⟩
  · cases hagree with
    | ok halike =>
      cases halike with
      | fresh _ _ heq => exact heq
  · exact (hresolve ⟨1, ""⟩ ⟨2, ""⟩ [.option "origin" [.named "a"], .flag "shiny"] _ _ _ _ rfl rfl
      rfl).2 _ 0 rfl rfl (by decide)

end World
end LiveVectors

import LiveVectors.Proofs.Session

/-!
# Reactivity

A derived vector that is live follows its operands.  This file proves it over whole runs: a host
carries out instructions and drags vectors in any order, instructions fail or not, and after every
step each live vector has the components that its derivation gives for the operands as they are.

* `Step` and `Played` — the runs, with the vectors that were touched on the way.  Three things are
  not permitted: that `reset` fails, that a drag has to round what is not finite, and that a vector
  becomes a reference only after it was bound without being one.
* `Current` — the invariant.  It survives quiet steps (`Current.quiet`), whatever propagation
  follows (`Current.propagated`) and new bindings (`Current.bindName`), so it survives evaluation
  (`Current.trace`) and every step (`Current.after`).
* `follows_of_played` — the result.
-/

set_option autoImplicit false

namespace LiveVectors
namespace World

/-! ## Runs -/

/-- A step of a run. -/
inductive Step
  /-- An instruction is carried out; a fault is reported. -/
  | attempt (instruction : Instruction)
  /-- The vector of a variable is dragged. -/
  | move (name : String) (x y : Float) (snap : Bool)

namespace Step

/-- The world after a step, whether it succeeds or fails. -/
def after : Step → World → World
  | attempt instruction, world => World.attempt world instruction
  | move name x y snap, world => ((World.move name x y snap).outcome world).2

/-- The method calls that a step makes. -/
def calls : Step → World → List Call
  | attempt instruction, world => callsOfStatement instruction.place instruction.statement world
  | move _ _ _ _, _ => []

/-- The vectors that a step is about: receivers of its method calls, the target of a property
write, and what is dragged. -/
def touched : Step → World → List VectorId
  | attempt instruction, world =>
    (callsOfStatement instruction.place instruction.statement world).map Call.receiver ++
      written instruction.place instruction world
  | move name _ _ _, world => (world.vectorOf name).toList

/-- What a run must not do. -/
structure Permitted (step : Step) (world : World) : Prop where
  /-- No `reset` fails. -/
  reset : ∀ call ∈ step.calls world, call.method = .reset → call.fault = none
  /-- What is not finite is not rounded. -/
  finite : ∀ name x y, step = .move name x y true → x.isFinite = true ∧ y.isFinite = true
  /-- No vector whose bindings were all without `reference` is bound as a reference. -/
  reference : ∀ id, world.bindings.boundAsReference (.vector id) = some false →
    (step.after world).bindings.boundAsReference (.vector id) ≠ some true

end Step

/-- The worlds that a run of permitted steps goes through, with the vectors touched so far. -/
inductive Played : List VectorId → World → Prop
  | start : Played [] empty
  | step {touched : List VectorId} {world : World} (h : Played touched world) (step : Step)
      (hstep : step.Permitted world) :
      Played (touched ++ step.touched world) (step.after world)

/-! ## The invariant -/

/-- Every live derived vector that was not touched has the components that its operands give. -/
def Current (touched : List VectorId) (world : World) : Prop :=
  ∀ id derivation, world.graph.derivation? id = some derivation →
    world.isLive (.vector id) = true → id ∉ touched → derivation.Holds world.store

theorem current_empty : Current [] empty := nofun

variable {touched : List VectorId} {world : World}

/-- The invariant is not about the vectors that were touched. -/
theorem Current.mono {touched' : List VectorId} (h : Current touched world)
    (hsub : touched ⊆ touched') : Current touched' world :=
  fun id derivation hd hlive hid => h id derivation hd hlive fun hmem => hid (hsub hmem)

/-- Making a vector changes nothing about the others. -/
theorem holds_push {id : VectorId} {derivation : Derivation} (hw : world.WellFormed)
    (hd : world.graph.derivation? id = some derivation) (h : derivation.Holds world.store)
    (v : PlaneVector) : derivation.Holds (world.store.push v) := by
  have hid : id < world.store.size := hw.graph.lt_size_of_derivation hd
  refine h.congr ?_ ?_
  · rw [hw.graph.target_eq hd]
    exact Store.get_push_lt _ v hid
  · intro operand ho
    exact Store.get_push_lt _ v (Nat.lt_trans (hw.graph.operand_lt hd ho) hid)

/-- **Quiet steps keep the invariant**: a vector that an operation makes is right from the start. -/
theorem Current.quiet {after : World} (h : Current touched world) (hw : world.WellFormed)
    (hstep : Quiet world after) : Current touched after := by
  cases hstep with
  | make v =>
    exact fun id derivation hd hlive hid => holds_push hw hd (h id derivation hd hlive hid) v
  | @derive symbol left right v hleft hright hv =>
    intro id derivation hd hlive hid
    by_cases hnew : id = world.store.size
    · subst hnew
      have hself := DependencyGraph.derivation?_register_self world.graph
        ⟨symbol, left, right, world.store.size⟩
      obtain rfl : _ = derivation := Option.some.inj (hself.symm.trans hd)
      rw [Derivation.Holds, Store.snapshot_push v hleft, Store.snapshot_push v hright, hv,
        Store.get_push_self]
    · have hne : id ≠ (⟨symbol, left, right, world.store.size⟩ : Derivation).target := hnew
      have hold := DependencyGraph.derivation?_register_ne world.graph hne
      have hd' : world.graph.derivation? id = some derivation := hold.symm.trans hd
      exact holds_push hw hd' (h id derivation hd' hlive hid) v
  | report kind message place => exact h

/-- **Propagation restores the invariant** after one vector has changed. -/
theorem Current.propagated {id : VectorId} {store : Store} (h : Current touched world)
    (hw : world.WellFormed) (hchange : Store.ChangesOnly id world.store store) :
    Current (touched ++ [id]) ((propagate id).outcome { world with store }).2 := by
  obtain ⟨settled, hpropagate, hsettled⟩ := outcome_propagate (hw.withStore hchange.size_le) id
  rw [hpropagate]
  intro other derivation hd hlive hother
  rw [List.mem_append, List.mem_singleton, not_or] at hother
  have hholds := h other derivation hd hlive hother.1
  exact hsettled.holds_of_changesOnly hw hchange hother.2 hd hlive hholds

/-- A call keeps the invariant, unless it is a `reset` that fails. -/
theorem Current.called {call : Call} {after : World} (h : Current touched world)
    (hw : world.WellFormed) (hstep : Called world call after)
    (hreset : call.method = .reset → call.fault = none) :
    Current (touched ++ [call.receiver]) after := by
  cases hstep with
  | @returned id method given value store hid hcall =>
    have hchange : Store.ChangesOnly id world.store store := by
      simpa only [hcall] using Store.changesOnly_call method id given world.store
    exact h.propagated hw hchange
  | @failed id method given fault store hid hcall =>
    have hmethod : method ≠ .reset := fun heq => Option.some_ne_none fault (hreset heq)
    obtain rfl := Store.store_of_call_error hmethod hcall
    exact h.mono (List.subset_append_left _ _)

/-- **Evaluation keeps the invariant**, wherever it stops. -/
theorem Current.trace {made : List Call} {after : World} (h : Current touched world)
    (hw : world.WellFormed) (htrace : Trace world made after)
    (hreset : ∀ call ∈ made, call.method = .reset → call.fault = none) :
    Current (touched ++ made.map Call.receiver) after := by
  induction htrace with
  | nil => simpa using h
  | quiet htrace hstep ih => exact (ih hreset).quiet (htrace.wellFormed_and_later hw).1 hstep
  | @call middle after made call htrace hstep ih =>
    have hbefore := ih fun other hother => hreset other (by simp [hother])
    have hafter := hbefore.called (htrace.wellFormed_and_later hw).1 hstep
      (hreset call (by simp))
    simpa using hafter

/-- **New bindings keep the invariant**, unless they bring a vector back to life. -/
theorem Current.bindName (h : Current touched world) {name : String} {binding : Binding}
    (hreference : ∀ id, world.bindings.boundAsReference (.vector id) = some false →
      (world.bindName name binding).bindings.boundAsReference (.vector id) ≠ some true) :
    Current touched (world.bindName name binding) := by
  intro id derivation hd hlive hid
  refine h id derivation hd ?_ hid
  cases hbefore : world.bindings.boundAsReference (.vector id) with
  | none => rw [isLive, hbefore, Option.getD_none]
  | some reference =>
    cases reference with
    | true => rw [isLive, hbefore, Option.getD_some]
    | false =>
      have hafter := hreference id hbefore
      have hknown : (world.bindings.boundAsReference (.vector id)).isSome := by rw [hbefore]; rfl
      have hbound := isSome_boundAsReference_bindName hknown name binding
      rw [isLive] at hlive
      cases hnow : (world.bindName name binding).bindings.boundAsReference (.vector id) with
      | none => simp [hnow] at hbound
      | some now => simp_all

/-- **Instructions keep the invariant**, whether they succeed or fail. -/
theorem Current.executed {place : Place} {instruction : Instruction} {after : World}
    (h : Current touched world) (hw : world.WellFormed)
    (hexecuted : Executed world place instruction after)
    (hreset : ∀ call ∈ callsOfStatement place instruction.statement world,
      call.method = .reset → call.fault = none)
    (hreference : ∀ id, world.bindings.boundAsReference (.vector id) = some false →
      after.bindings.boundAsReference (.vector id) ≠ some true) :
    Current (touched ++ ((callsOfStatement place instruction.statement world).map Call.receiver ++
      written place instruction world)) after := by
  rw [← List.append_assoc]
  cases hexecuted with
  | evaluated htrace => exact (h.trace hw htrace hreset).mono (List.subset_append_left _ _)
  | @bound middle name binding htrace hvalue =>
    have hbindings := htrace.bindings_eq hw
    have hmiddle := h.trace hw htrace hreset
    refine Current.mono (hmiddle.bindName ?_) (List.subset_append_left _ _)
    rw [hbindings]
    exact hreference
  | @written middle id htrace hwritten v =>
    have hmiddle := h.trace hw htrace hreset
    rw [hwritten]
    exact hmiddle.propagated (htrace.wellFormed_and_later hw).1
      (Store.changesOnly_set middle.store id v)

/-- **Every permitted step keeps the invariant.** -/
theorem Current.after (h : Current touched world) (hw : world.WellFormed) {step : Step}
    (hstep : step.Permitted world) :
    Current (touched ++ step.touched world) (step.after world) := by
  obtain ⟨hreset, hfinite, hreference⟩ := hstep
  cases step with
  | attempt instruction =>
    have hexecuted := executed_execute hw instruction.place instruction
    rw [Step.after] at hreference ⊢
    rcases attempt_cases world instruction with heq | ⟨kind, message, heq⟩ <;>
      rw [heq] at hreference ⊢
    · exact h.executed hw hexecuted hreset hreference
    · have hcurrent := h.executed hw hexecuted hreset hreference
      exact hcurrent.quiet (hexecuted.keeps hw).wellFormed (.report _ kind message _)
  | move name x y snap =>
    rw [Step.after, Step.touched]
    rcases outcome_move_cases hw name x y snap with
      ⟨hnone, fault, heq⟩ | ⟨id, hid, ⟨fault, hlanding, heq⟩ | ⟨v, -, heq⟩⟩ <;> rw [heq]
    · exact h.mono (List.subset_append_left _ _)
    · -- only rounding can fail, and finite coordinates are rounded
      cases snap with
      | false => cases hlanding
      | true =>
        obtain ⟨hx, hy⟩ := hfinite name x y rfl
        obtain ⟨v, hv⟩ := landing_of_isFinite hx hy true
        rw [hv] at hlanding
        cases hlanding
    · rw [hid]
      exact h.propagated hw (Store.changesOnly_set world.store id v)

/-! ## Every run -/

theorem wellFormed_and_current_of_played (h : Played touched world) :
    world.WellFormed ∧ Current touched world := by
  induction h with
  | start => exact ⟨wellFormed_empty, current_empty⟩
  | @step touched world hplayed step hstep ih =>
    obtain ⟨hw, hcurrent⟩ := ih
    refine ⟨?_, hcurrent.after hw hstep⟩
    cases step with
    | attempt instruction => exact (keeps_attempt hw instruction).wellFormed
    | move name x y snap => exact (keeps_move hw name x y snap).wellFormed

/-- **Live vectors follow their operands.**  After every step of a run, a live derived vector that
was never touched itself has the components that its operator gives for its operands as they are
now. -/
theorem follows_of_played (h : Played touched world) {id : VectorId} {derivation : Derivation}
    (hd : world.graph.derivation? id = some derivation)
    (hlive : world.isLive (.vector id) = true) (hid : id ∉ touched) :
    operate derivation.operator (world.store.snapshot derivation.left)
      (world.store.snapshot derivation.right) = .ok (.planar (world.store.get id)) := by
  obtain ⟨hw, hcurrent⟩ := wellFormed_and_current_of_played h
  have hholds := hcurrent id derivation hd hlive hid
  rwa [Derivation.Holds, hw.graph.target_eq hd] at hholds

/-- The script `doubling`, and a drag of its first vector, are a permitted run. -/
theorem played_doubling :
    Played [0] ((Step.move "a" 3 4 true).after doubling) := by
  have hfirst : (Step.attempt vectorLine).Permitted empty := by
    refine ⟨List.forall_mem_nil _, nofun, ?_⟩
    intro id hbefore
    cases hbefore
  have hsecond : (Step.attempt doubleLine).Permitted (run [vectorLine]) := by
    refine ⟨List.forall_mem_nil _, nofun, ?_⟩
    intro id hbefore
    have hid : id < 1 := (wellFormed_run [vectorLine]).known hbefore
    obtain rfl : id = 0 := Nat.lt_one_iff.1 hid
    decide
  have hdrag : (Step.move "a" 3 4 true).Permitted doubling := by
    refine ⟨List.forall_mem_nil _, ?_, ?_⟩
    · intro name x y heq
      cases heq
      decide
    · intro id hbefore
      obtain ⟨store, hstore, -⟩ := exists_move_eq wellFormed_doubling "a" 3 4 true
      rw [Step.after, hstore, hbefore]
      simp
  exact ((Played.start.step (.attempt vectorLine) hfirst).step (.attempt doubleLine) hsecond).step
    (.move "a" 3 4 true) hdrag

/-- The double follows the drag. -/
theorem follows_doubling :
    operate "*"
      (((Step.move "a" 3 4 true).after doubling).store.snapshot (.vector 0)) (.number 2) =
        .ok (.planar (((Step.move "a" 3 4 true).after doubling).store.get 1)) := by
  obtain ⟨store, hstore, -⟩ := exists_move_eq wellFormed_doubling "a" 3 4 true
  have hd : ((Step.move "a" 3 4 true).after doubling).graph.derivation? 1 =
      some ⟨"*", .vector 0, .number 2, 1⟩ := by
    rw [Step.after, hstore]
    rfl
  have hlive : ((Step.move "a" 3 4 true).after doubling).isLive (.vector 1) = true := by
    rw [Step.after, hstore]
    rfl
  exact follows_of_played played_doubling hd hlive (by decide)

end World
end LiveVectors

import LiveVectors.Proofs.Repetition

/-!
# Queries

A query is a method that gives a number or a new vector and leaves its own vector alone.  Even so,
what depends on that vector is recomputed after the call, as it is after every call of a method.
This makes no difference to vectors that agree with their operands, but a reference that was
overwritten directly loses what was written to it.

* `Method.isQuery` — the methods that are queries.
* `Stale` — a vector that does not agree with its operands.  Recomputing dependents changes only
  what a stale vector reaches (`exists_stale_of_settled`).
* `outcome_query_cases` — all that a query can do: the world grows, and then the dependents of the
  vector settle, unless the query failed.
* `stale_of_query` — the result: whatever a query changes follows a stale vector.
* `query_changes_overwrittenDouble` — and there are queries that do change one.
-/

set_option autoImplicit false

namespace LiveVectors

open LiveVectors.Action Relation

/-- Whether a method gives a number or a new vector and leaves the vector it is called on alone. -/
def Method.isQuery : Method → Bool
  | .changed _ => true
  | .clone => true
  | .cross => true
  | .distance => true
  | .dot => true
  | .change _ => false
  | .reset => false
  | .resetToVector => false

/-- A query overwrites no vector: it leaves the store alone or makes one vector. -/
theorem Store.store_of_call_query {method : Method} (hquery : method.isQuery = true)
    (self : VectorId) (arguments : List Value) (store : Store) :
    ((call method self arguments).outcome store).2 = store ∨
      ∃ v, ((call method self arguments).outcome store).2 = store.push v := by
  rw [outcome_call]
  cases method with
  | changed change =>
    simp only [perform, allocate, outcome_bind, outcome_inspect, outcome_of, outcome_update,
      outcome_pure]
    cases change.result (Method.changed change).name (store.get self)
        (arguments.map store.snapshot) with
    | error fault => exact .inl rfl
    | ok v => exact .inr ⟨v, rfl⟩
  | clone =>
    simp only [perform, allocate, outcome_bind, outcome_inspect, outcome_of, outcome_update,
      outcome_pure]
    cases noArguments Method.clone.name (arguments.map store.snapshot) with
    | error fault => exact .inl rfl
    | ok _ => exact .inr ⟨_, rfl⟩
  | cross =>
    obtain ⟨result, h⟩ := outcome_otherVector .cross "cross" (arguments.map store.snapshot) store
    simp only [perform, outcome_bind, outcome_inspect, h]
    cases result <;> exact .inl rfl
  | distance =>
    obtain ⟨result, h⟩ :=
      outcome_otherVector .distance "subtract" (arguments.map store.snapshot) store
    simp only [perform, outcome_bind, outcome_inspect, h]
    cases result <;> exact .inl rfl
  | dot =>
    obtain ⟨result, h⟩ := outcome_otherVector .dot "dot" (arguments.map store.snapshot) store
    simp only [perform, outcome_bind, outcome_inspect, h]
    cases result <;> exact .inl rfl
  | change => cases hquery
  | reset => cases hquery
  | resetToVector => cases hquery

namespace World

variable {world middle : World}

/-! ## Stale vectors -/

/-- A derived vector that has not the components that its operands give it now. -/
def Stale (world : World) (id : VectorId) : Prop :=
  ∃ derivation, world.graph.derivation? id = some derivation ∧ ¬ derivation.Holds world.store

/-- **Recomputing dependents changes only what stale ones reach.**  By induction on identities: a
vector that held before and has changed has an operand that has changed. -/
theorem exists_stale_of_settled (hw : world.WellFormed) {id : VectorId} {settled : Store}
    (h : world.Settled (world.liveDependents id) settled) (other : VectorId)
    (hchanged : settled.get other ≠ world.store.get other) :
    ∃ stale ∈ world.liveDependents id, world.Stale stale ∧
      ReflTransGen world.LiveEdge stale other := by
  induction other using Nat.strongRecOn with
  | ind other ih =>
    have hmem : other ∈ world.liveDependents id := by
      by_contra hmem
      exact hchanged (h.get_eq hmem)
    obtain ⟨derivation, hd⟩ := hw.graph.derivation?_of_mem_reachable hmem
    by_cases hholds : derivation.Holds world.store
    · obtain ⟨operand, ho, hoperand⟩ : ∃ operand ∈ derivation.vectorOperands,
          settled.get operand ≠ world.store.get operand := by
        by_contra hnone
        push Not at hnone
        have heq := hholds.get_eq (h.holds hmem hd) hnone
        rw [hw.graph.target_eq hd] at heq
        exact hchanged heq
      obtain ⟨stale, hstale, hdiffers, hpath⟩ := ih operand (hw.graph.operand_lt hd ho) hoperand
      have hedge : world.LiveEdge operand other :=
        ⟨hw.graph.edge_iff.2 ⟨derivation, hd, ho⟩, isLive_of_mem_liveDependents hw hmem⟩
      exact ⟨stale, hstale, hdiffers, hpath.tail hedge⟩
    · exact ⟨other, hmem, ⟨derivation, hd, hholds⟩, .refl⟩

/-! ## Old vectors of a world that has grown -/

/-- A path along which identities grow stays below its end, so it is a path along every relation
that has the same steps there. -/
theorem transGen_of_below {R S : VectorId → VectorId → Prop} {size : Nat}
    (hgrows : ∀ {a b}, R a b → a < b) (hstep : ∀ {a b}, b < size → R a b → S a b) {a b : VectorId}
    (hb : b < size) (hpath : TransGen R a b) : TransGen S a b := by
  induction hpath with
  | single hlast => exact .single (hstep hb hlast)
  | tail _ hlast ih => exact .tail (ih (Nat.lt_trans (hgrows hlast) hb)) (hstep hb hlast)

namespace Grown

theorem isLive_eq (h : world.Grown middle) (value : Value) :
    middle.isLive value = world.isLive value := by
  rw [isLive, isLive, h.bindings_eq]

/-- No edge leads into an old vector that did not do so before. -/
theorem liveEdge_iff (h : world.Grown middle) {a b : VectorId} (hb : b < world.store.size) :
    middle.LiveEdge a b ↔ world.LiveEdge a b := by
  obtain ⟨fresh, hfresh, hnew⟩ := h.dependents_eq a
  have hnot : b ∉ fresh := fun hmem => absurd hb (Nat.not_lt_of_le (hnew b hmem).1)
  simp [LiveEdge, DependencyGraph.Edge, hfresh, hnot, h.isLive_eq]

/-- A path to an old vector leads through old vectors, so it was there before, and it is there
still. -/
theorem transGen_iff (h : world.Grown middle) (hw : world.WellFormed)
    (hmiddle : middle.WellFormed) {a b : VectorId} (hb : b < world.store.size) :
    TransGen middle.LiveEdge a b ↔ TransGen world.LiveEdge a b := by
  constructor <;> intro hpath
  · exact transGen_of_below (fun hstep => hmiddle.graph.lt_of_edge hstep.1)
      (fun hold => (h.liveEdge_iff hold).1) hb hpath
  · exact transGen_of_below (fun hstep => hw.graph.lt_of_edge hstep.1)
      (fun hold => (h.liveEdge_iff hold).2) hb hpath

theorem mem_liveDependents_iff (h : world.Grown middle) (hw : world.WellFormed)
    (hmiddle : middle.WellFormed) {a b : VectorId} (hb : b < world.store.size) :
    b ∈ middle.liveDependents a ↔ b ∈ world.liveDependents a := by
  rw [World.mem_liveDependents_iff hw, World.mem_liveDependents_iff hmiddle]
  exact h.transGen_iff hw hmiddle hb

/-- So does the empty path, and either way the start is an old vector too. -/
theorem lt_and_reflTransGen (h : world.Grown middle) (hw : world.WellFormed)
    (hmiddle : middle.WellFormed) {a b : VectorId} (hb : b < world.store.size)
    (hpath : ReflTransGen middle.LiveEdge a b) :
    a < world.store.size ∧ ReflTransGen world.LiveEdge a b := by
  obtain rfl | hpath := reflTransGen_iff_eq_or_transGen.1 hpath
  · exact ⟨hb, .refl⟩
  · exact ⟨Nat.lt_trans (hmiddle.graph.lt_of_path hpath) hb,
      ((h.transGen_iff hw hmiddle hb).1 hpath).to_reflTransGen⟩

theorem derivation?_eq (h : world.Grown middle) {id : VectorId} (hid : id < world.store.size) :
    middle.graph.derivation? id = world.graph.derivation? id := by
  rw [DependencyGraph.derivation?, DependencyGraph.derivation?, h.record_eq hid]

/-- An old vector that is stale was so before. -/
theorem stale (h : world.Grown middle) (hw : world.WellFormed) {id : VectorId}
    (hid : id < world.store.size) (hstale : middle.Stale id) : world.Stale id := by
  obtain ⟨derivation, hd, hdiffers⟩ := hstale
  rw [h.derivation?_eq hid] at hd
  refine ⟨derivation, hd, fun hholds => hdiffers (hholds.congr ?_ fun operand ho => ?_)⟩
  · rw [hw.graph.target_eq hd]
    exact h.get_eq hid
  · exact h.get_eq (Nat.lt_trans (hw.graph.operand_lt hd ho) hid)

end Grown

/-! ## Queries -/

/-- A call of a method that a variable has: its arguments, the call and what depends on it. -/
theorem outcome_callMethod_of_vectorOf {owner : String} {id : VectorId}
    (hid : world.vectorOf owner = some id) (method : Method)
    (arguments : Action World (List Value)) :
    (callMethod owner method.name arguments).outcome world =
      (do
        let given ← arguments
        let result ← onStore (Store.call method id given)
        let _ ← propagate id
        return result : Action World Value).outcome world := by
  obtain ⟨binding, hbinding, hvector⟩ := Option.bind_eq_some_iff.1 hid
  have hmethod : binding.value.method method.name (some owner) = .ok (id, method) := by
    rw [Value.method, hvector, Method.ofName?_name]
  rw [callMethod, outcome_bind, outcome_lookup, hbinding]
  dsimp only
  rw [outcome_bind, outcome_of, hmethod]

/-- **All that a query can do.**  The world grows, and that is all if the query fails; otherwise the
dependents of the vector settle. -/
theorem outcome_query_cases (hw : world.WellFormed) {owner : String} {id : VectorId}
    (hid : world.vectorOf owner = some id) {method : Method} (hquery : method.isQuery = true)
    {arguments : List Expression} (hfree : Expression.allMethodFree arguments = true) :
    ∃ middle, world.Grown middle ∧ middle.WellFormed ∧
      ((∃ fault, (evaluate (.methodCall owner method.name arguments)).outcome world =
          (.error fault, middle)) ∨
        ∃ value store, (evaluate (.methodCall owner method.name arguments)).outcome world =
            (.ok value, { middle with store }) ∧
          middle.Settled (middle.liveDependents id) store) := by
  have hgrown := (paired_evaluateAll arguments hfree (.begin hw.anchored)).left
  have hafter := ((traced_evaluateAll arguments hw).trace.wellFormed_and_later hw).1
  rw [evaluate, outcome_callMethod_of_vectorOf hid, outcome_bind]
  rcases hgiven : (evaluateAll arguments).outcome world with ⟨fault | given, after⟩ <;>
    rw [hgiven] at hgrown hafter
  · exact ⟨after, hgrown, hafter, .inl ⟨fault, rfl⟩⟩
  have hcall := Store.store_of_call_query hquery id given after.store
  rcases houtcome : (Store.call method id given).outcome after.store with ⟨result, store⟩
  rw [houtcome] at hcall
  obtain ⟨hgrows, hmiddle⟩ : after.Grown { after with store } ∧
      ({ after with store } : World).WellFormed := by
    rcases hcall with rfl | ⟨v, rfl⟩
    · exact ⟨.refl after, hafter⟩
    · exact ⟨.make after v, hafter.withStore (by simp)⟩
  refine ⟨{ after with store }, hgrown.trans hgrows, hmiddle, ?_⟩
  simp only [outcome_bind, outcome_onStore, houtcome]
  cases result with
  | error fault => exact .inl ⟨fault, rfl⟩
  | ok value =>
    obtain ⟨settled, hpropagate, hsettled⟩ := outcome_propagate hmiddle id
    simp only [hpropagate, outcome_pure]
    exact .inr ⟨value, settled, rfl, hsettled⟩

/-- **Whatever a query changes follows a stale vector.**  After every session, a query of a vector,
with arguments that call no method, changes no vector that was there if it fails.  If it succeeds,
it changes only dependents of its vector that were stale or depend on a stale one, and all
dependents agree with their operands afterwards. -/
theorem stale_of_query (requests : List Request) {owner : String} {id : VectorId}
    (hid : (session requests).vectorOf owner = some id) {method : Method}
    (hquery : method.isQuery = true) {arguments : List Expression}
    (hfree : Expression.allMethodFree arguments = true) {result : Except Fault Value}
    {after : World}
    (h : (evaluate (.methodCall owner method.name arguments)).outcome (session requests) =
      (result, after)) :
    (∀ fault, result = .error fault → ∀ other < (session requests).store.size,
      after.store.get other = (session requests).store.get other) ∧
    (∀ other < (session requests).store.size,
      after.store.get other ≠ (session requests).store.get other →
        ∃ stale ∈ (session requests).liveDependents id, (session requests).Stale stale ∧
          ReflTransGen (session requests).LiveEdge stale other) ∧
    ∀ value, result = .ok value → ∀ other ∈ (session requests).liveDependents id,
      ∃ derivation, (session requests).graph.derivation? other = some derivation ∧
        operate derivation.operator (after.store.snapshot derivation.left)
          (after.store.snapshot derivation.right) = .ok (.planar (after.store.get other)) := by
  have hw := wellFormed_session requests
  obtain ⟨middle, hgrown, hmiddle, ⟨fault, hfails⟩ | ⟨value, store, hsucceeds, hsettled⟩⟩ :=
    outcome_query_cases hw hid hquery hfree
  · rw [hfails] at h
    cases h
    refine ⟨fun _ _ other hother => hgrown.get_eq hother, fun other hother hchanged => ?_, nofun⟩
    exact absurd (hgrown.get_eq hother) hchanged
  · rw [hsucceeds] at h
    cases h
    refine ⟨nofun, fun other hother hchanged => ?_, fun _ _ other hother => ?_⟩
    · rw [← hgrown.get_eq hother] at hchanged
      obtain ⟨stale, hmem, hstale, hpath⟩ :=
        exists_stale_of_settled hmiddle hsettled other hchanged
      obtain ⟨hlt, hpath⟩ := hgrown.lt_and_reflTransGen hw hmiddle hother hpath
      exact ⟨stale, (hgrown.mem_liveDependents_iff hw hmiddle hlt).1 hmem,
        hgrown.stale hw hlt hstale, hpath⟩
    · obtain ⟨derivation, hd⟩ := hw.graph.derivation?_of_mem_reachable hother
      have hlt := hw.graph.lt_size_of_derivation hd
      have hholds := hsettled.holds ((hgrown.mem_liveDependents_iff hw hmiddle hlt).2 hother)
        ((hgrown.derivation?_eq hlt).trans hd)
      rw [Derivation.Holds, hw.graph.target_eq hd] at hholds
      exact ⟨derivation, hd, hholds⟩

/-! ## A query that changes a vector -/

/-- A copy is always made, and the dependents of the copied vector settle. -/
theorem outcome_clone (hw : world.WellFormed) {owner : String} {id : VectorId}
    (hid : world.vectorOf owner = some id) :
    ∃ store, (evaluate (.methodCall owner Method.clone.name [])).outcome world =
        (.ok (.vector world.store.size), { world with store }) ∧
      ({ world with store := world.store.push (world.store.get id) } : World).Settled
        (world.liveDependents id) store := by
  have hmiddle :
      ({ world with store := world.store.push (world.store.get id) } : World).WellFormed :=
    hw.withStore (by simp)
  obtain ⟨store, hpropagate, hsettled⟩ := outcome_propagate hmiddle id
  refine ⟨store, ?_, hsettled⟩
  rw [evaluate, outcome_callMethod_of_vectorOf hid, evaluateAll, outcome_bind, outcome_pure]
  dsimp only
  have hcall : (Store.call .clone id []).outcome world.store =
      (.ok (.vector world.store.size), world.store.push (world.store.get id)) := rfl
  simp only [outcome_bind, outcome_onStore, hcall, hpropagate, outcome_pure]

/-- `b.x = 9` -/
def overwriteLine : Instruction where
  statement := .setProperty "b" "x" (.number 9)
  place := ⟨3, "b.x = 9"⟩

/-- The script `doubling` with a direct overwrite of the double at its end. -/
def overwrittenDouble : World := run [vectorLine, doubleLine, overwriteLine]

theorem overwrittenDouble_eq :
    ∃ store, overwrittenDouble = { doubling with store } ∧ store.size = 2 ∧
      store.get 0 = ⟨1, 2⟩ ∧ store.get 1 = ⟨9, (doubling.store.get 1).y⟩ := by
  have hwrite :
      (Value.writeProperty (.vector 1) "x" (.number 9) (some "b")).outcome doubling.store =
        (.ok (), doubling.store.set 1 ⟨9, (doubling.store.get 1).y⟩) := rfl
  have hexecute : (execute overwriteLine.place overwriteLine).outcome doubling =
      (.ok (), doubling.overwrite 1 ⟨9, (doubling.store.get 1).y⟩) := by
    have hlookup : (lookup "b").outcome doubling = (.ok (.vector 1), doubling) := rfl
    simp only [execute, overwriteLine]
    rw [outcome_bind, hlookup]
    dsimp only
    rw [evaluate, outcome_bind, outcome_pure]
    exact outcome_overwrite wellFormed_doubling hwrite
  have hrun : overwrittenDouble = doubling.attempt overwriteLine := rfl
  obtain ⟨store, heq, hsettled⟩ :=
    overwrite_eq wellFormed_doubling 1 ⟨9, (doubling.store.get 1).y⟩
  have hfirst : 0 ∉ doubling.liveDependents 1 := fun hmem =>
    absurd (lt_of_mem_liveDependents wellFormed_doubling hmem) (by decide)
  have hsecond : 1 ∉ doubling.liveDependents 1 := fun hmem =>
    absurd (lt_of_mem_liveDependents wellFormed_doubling hmem) (by decide)
  refine ⟨store, ?_, hsettled.size_eq, hsettled.get_eq hfirst, hsettled.get_eq hsecond⟩
  rw [hrun, attempt, hexecute, heq]

/-- After the script `overwrittenDouble` a copy of the first vector is made.  The overwritten double
changes with it: it is what its operand gives again. -/
theorem outcome_clone_overwrittenDouble :
    ∃ store, (evaluate (.methodCall "a" Method.clone.name [])).outcome overwrittenDouble =
        (.ok (.vector 2), { overwrittenDouble with store }) ∧ 1 < overwrittenDouble.store.size ∧
      overwrittenDouble.vectorOf "a" = some 0 ∧ 1 ∈ overwrittenDouble.liveDependents 0 ∧
      overwrittenDouble.store.get 1 ≠ ⟨2, 4⟩ ∧ store.get 1 = ⟨2, 4⟩ := by
  have hw : overwrittenDouble.WellFormed := wellFormed_run _
  obtain ⟨written, heq, hsize, hfirst, hsecond⟩ := overwrittenDouble_eq
  rw [heq] at hw ⊢
  have hid : ({ doubling with store := written } : World).vectorOf "a" = some 0 := rfl
  have hmem : 1 ∈ ({ doubling with store := written } : World).liveDependents 0 :=
    (mem_liveDependents_iff hw).2 (.single ⟨(by decide : 1 ∈ doubling.graph.dependents 0), rfl⟩)
  obtain ⟨store, hclone, hsettled⟩ := outcome_clone hw hid
  refine ⟨store, by rw [hclone, hsize], by rw [hsize]; decide, hid, hmem, ?_, ?_⟩
  · intro h
    have hnine : (⟨9, (doubling.store.get 1).y⟩ : PlaneVector) = ⟨2, 4⟩ := hsecond.symm.trans h
    exact absurd (congrArg PlaneVector.x hnine) (by decide +kernel)
  · have hzero : 0 ∉ ({ doubling with store := written } : World).liveDependents 0 := fun hmem =>
      absurd (lt_of_mem_liveDependents hw hmem) (Nat.lt_irrefl 0)
    have hone : store.get 0 = ⟨1, 2⟩ := by
      rw [hsettled.get_eq hzero]
      exact (Store.get_push_lt written _ (by rw [hsize]; decide)).trans hfirst
    have hholds : Derivation.Holds ⟨"*", .vector 0, .number 2, 1⟩ store := hsettled.holds hmem rfl
    have hproduct : operate "*" (.vector ⟨1, 2⟩) (.number 2) = .ok (.planar ⟨2, 4⟩) := by
      decide +kernel
    simp only [Derivation.Holds, Store.snapshot, hone, hproduct, Except.ok.injEq,
      Quantity.planar.injEq] at hholds
    exact hholds.symm

/-- A query that changes a stale vector: a copy of the first vector in `overwrittenDouble`. -/
theorem stale_of_clone :
    overwrittenDouble.vectorOf "a" = some 0 ∧ Method.clone.isQuery = true ∧
      Expression.allMethodFree [] = true ∧
      ∃ after, (evaluate (.methodCall "a" Method.clone.name [])).outcome overwrittenDouble =
          (.ok (.vector 2), after) ∧
        (∃ stale ∈ overwrittenDouble.liveDependents 0, overwrittenDouble.Stale stale ∧
          ReflTransGen overwrittenDouble.LiveEdge stale 1) ∧
        ∃ derivation, overwrittenDouble.graph.derivation? 1 = some derivation ∧
          operate derivation.operator (after.store.snapshot derivation.left)
            (after.store.snapshot derivation.right) = .ok (.planar (after.store.get 1)) := by
  obtain ⟨store, hclone, hlt, hid, hmem, hbefore, hafter⟩ := outcome_clone_overwrittenDouble
  obtain ⟨-, hstale, hfollow⟩ := stale_of_query [.run [vectorLine, doubleLine, overwriteLine]]
    hid (rfl : Method.clone.isQuery = true) (rfl : Expression.allMethodFree [] = true) hclone
  exact ⟨hid, rfl, rfl, _, hclone, hstale 1 hlt fun heq => hbefore (heq.symm.trans hafter),
    hfollow _ rfl 1 hmem⟩

/-- **Not every query leaves all vectors alone**: a copy of the first vector changes its overwritten
double. -/
theorem query_changes_overwrittenDouble :
    ¬ ∀ (instructions : List Instruction) (owner : String) (id : VectorId) (method : Method)
        (arguments : List Expression) (result : Except Fault Value) (after : World),
      (run instructions).vectorOf owner = some id → method.isQuery = true →
      Expression.allMethodFree arguments = true →
      (evaluate (.methodCall owner method.name arguments)).outcome (run instructions) =
        (result, after) →
      ∀ other < (run instructions).store.size,
        after.store.get other = (run instructions).store.get other := by
  intro h
  obtain ⟨store, hclone, hlt, hid, -, hbefore, hafter⟩ := outcome_clone_overwrittenDouble
  have hsame := h [vectorLine, doubleLine, overwriteLine] "a" 0 .clone [] (.ok (.vector 2)) _ hid
    rfl rfl hclone 1 hlt
  exact hbefore (hsame.symm.trans hafter)

end World
end LiveVectors

import LiveVectors.Live.World
import LiveVectors.Proofs.Changes

/-!
# Propagation

After a vector has changed, `World.propagate` recomputes the live vectors that depend on it.  In a
well-formed world this never fails, and this file says exactly what it leaves behind.

* `Derivation.Holds` — a derived vector has the components that its operands give it now.
* `World.WellFormed` — the graph of the world is well-formed, and every vector that a name is or
  was bound to is in the store.
* `mem_liveDependents_iff` — what depends on a vector: the end points of the paths of live vectors
  that begin there.
* `Settled` and `outcome_propagate` — propagation gives exactly those vectors, they all hold
  afterwards, and every other vector is as it was.
-/

set_option autoImplicit false

namespace LiveVectors

open LiveVectors.Action Relation

/-! ## Derivations that hold -/

namespace Derivation

/-- The derived vector has the components that the operator gives for the operands as they are. -/
def Holds (derivation : Derivation) (store : Store) : Prop :=
  operate derivation.operator (store.snapshot derivation.left) (store.snapshot derivation.right)
    = .ok (.planar (store.get derivation.target))

/-- Whether a derivation holds depends on its operands and its target alone. -/
theorem Holds.congr {derivation : Derivation} {store store' : Store} (h : derivation.Holds store)
    (htarget : store'.get derivation.target = store.get derivation.target)
    (hoperands : ∀ id ∈ derivation.vectorOperands, store'.get id = store.get id) :
    derivation.Holds store' := by
  have hleft : store'.snapshot derivation.left = store.snapshot derivation.left :=
    Store.snapshot_congr fun id hid => hoperands id (mem_vectorOperands.2 (.inl hid))
  have hright : store'.snapshot derivation.right = store.snapshot derivation.right :=
    Store.snapshot_congr fun id hid => hoperands id (mem_vectorOperands.2 (.inr hid))
  rw [Holds, hleft, hright, htarget]
  exact h

/-- Two stores in which a derivation holds and that agree on its operands agree on its target. -/
theorem Holds.get_eq {derivation : Derivation} {store store' : Store}
    (h : derivation.Holds store) (h' : derivation.Holds store')
    (hoperands : ∀ id ∈ derivation.vectorOperands, store'.get id = store.get id) :
    store'.get derivation.target = store.get derivation.target := by
  have hleft : store'.snapshot derivation.left = store.snapshot derivation.left :=
    Store.snapshot_congr fun id hid => hoperands id (mem_vectorOperands.2 (.inl hid))
  have hright : store'.snapshot derivation.right = store.snapshot derivation.right :=
    Store.snapshot_congr fun id hid => hoperands id (mem_vectorOperands.2 (.inr hid))
  rw [Holds, hleft, hright] at h'
  exact Quantity.planar.inj (Except.ok.inj (h'.symm.trans h))

/-- **Recomputing a sound derivation never fails**; it overwrites the target and nothing else. -/
theorem Sound.outcome_recompute {derivation : Derivation} (h : derivation.Sound) (store : Store) :
    ∃ v, operate derivation.operator (store.snapshot derivation.left)
        (store.snapshot derivation.right) = .ok (.planar v) ∧
      derivation.recompute.outcome store = (.ok (), store.set derivation.target v) := by
  obtain ⟨v, hv⟩ := h.operate_eq store
  refine ⟨v, hv, ?_⟩
  simp only [recompute, outcome_bind, outcome_inspect, outcome_of, hv, Store.write,
    outcome_update]

/-- A derivation holds after its target is overwritten with what the operands give. -/
theorem Sound.holds_set {derivation : Derivation} (h : derivation.Sound) {store : Store}
    (htarget : derivation.target < store.size) {v : PlaneVector}
    (hv : operate derivation.operator (store.snapshot derivation.left)
      (store.snapshot derivation.right) = .ok (.planar v)) :
    derivation.Holds (store.set derivation.target v) := by
  -- no operand is the target, so the operands look the same after the write
  have hoperand : ∀ id ∈ derivation.vectorOperands,
      (store.set derivation.target v).get id = store.get id :=
    fun id hid => Store.get_set_ne store v (Nat.ne_of_lt (h.operand_lt id hid))
  rw [Holds, Store.get_set_self store v htarget,
    Store.snapshot_congr fun id hid => hoperand id (mem_vectorOperands.2 (.inl hid)),
    Store.snapshot_congr fun id hid => hoperand id (mem_vectorOperands.2 (.inr hid)), hv]

end Derivation

namespace World

/-! ## Well-formed worlds -/

/-- The world of a run. -/
structure WellFormed (world : World) : Prop where
  /-- The dependency graph is well-formed. -/
  graph : world.graph.WellFormed world.store.size
  /-- Names are bound to vectors that exist. -/
  bound : ∀ {name binding}, world.bindings.get? name = some binding →
    binding.value.Within world.store.size
  /-- Only vectors that exist were ever bound. -/
  known : ∀ {id reference}, world.bindings.boundAsReference (.vector id) = some reference →
    id < world.store.size

theorem wellFormed_empty : empty.WellFormed where
  graph := DependencyGraph.wellFormed_empty _
  bound := nofun
  known := nofun

/-- Changing and making vectors keeps a world well-formed. -/
theorem WellFormed.withStore {world : World} (h : world.WellFormed) {store : Store}
    (hsize : world.store.size ≤ store.size) : ({ world with store } : World).WellFormed where
  graph := h.graph.mono hsize
  bound hb := (h.bound hb).mono hsize
  known hb := Nat.lt_of_lt_of_le (h.known hb) hsize

/-! ## Live dependents -/

/-- There is an edge from `a` to `b`, and `b` follows its operands. -/
def LiveEdge (world : World) : VectorId → VectorId → Prop :=
  world.graph.Edge fun id => world.isLive (.vector id) = true

/-- **The dependents of a vector** are the end points of the paths of live vectors from it. -/
theorem mem_liveDependents_iff {world : World} (hw : world.WellFormed) {a b : VectorId} :
    b ∈ world.liveDependents a ↔ TransGen world.LiveEdge a b := by
  rw [liveDependents, DependencyGraph.mem_reachable_iff]
  constructor
  · exact fun h => TransGen.mono (fun _ _ hstep => ⟨hstep.1, hstep.2.2⟩) _ _ h
  · intro h
    -- the start is not met again, because identities grow along edges
    induction h with
    | single hstep =>
      exact .single ⟨hstep.1, (Nat.ne_of_lt (hw.graph.lt_of_edge hstep.1)).symm, hstep.2⟩
    | @tail m b _ hstep ih =>
      have hlt : a < b := Nat.lt_trans (hw.graph.lt_of_path ih) (hw.graph.lt_of_edge hstep.1)
      exact .tail ih ⟨hstep.1, (Nat.ne_of_lt hlt).symm, hstep.2⟩

theorem lt_of_mem_liveDependents {world : World} (hw : world.WellFormed) {a b : VectorId}
    (h : b ∈ world.liveDependents a) : a < b :=
  hw.graph.lt_of_path ((mem_liveDependents_iff hw).1 h)

/-- A dependent follows its operands. -/
theorem isLive_of_mem_liveDependents {world : World} (hw : world.WellFormed) {a b : VectorId}
    (h : b ∈ world.liveDependents a) : world.isLive (.vector b) = true := by
  obtain ⟨_, _, hedge⟩ := TransGen.tail'_iff.1 ((mem_liveDependents_iff hw).1 h)
  exact hedge.2

/-- What is live and derived from a vector or from one of its dependents is itself a dependent. -/
theorem mem_liveDependents_of_edge {world : World} (hw : world.WellFormed) {id a b : VectorId}
    (ha : a = id ∨ a ∈ world.liveDependents id) (hedge : world.LiveEdge a b) :
    b ∈ world.liveDependents id := by
  rw [mem_liveDependents_iff hw] at ha ⊢
  rcases ha with rfl | ha
  · exact .single hedge
  · exact .tail ha hedge

/-! ## Refreshing -/

/-- What recomputing the vectors `ids` of a world leaves in the store. -/
structure Settled (world : World) (ids : List VectorId) (after : Store) : Prop where
  /-- No vector is made or lost. -/
  size_eq : after.size = world.store.size
  /-- Other vectors are as they were. -/
  get_eq : ∀ {id}, id ∉ ids → after.get id = world.store.get id
  /-- The recomputed vectors follow from their operands as they are at the end. -/
  holds : ∀ {id}, id ∈ ids → ∀ {derivation}, world.graph.derivation? id = some derivation →
    derivation.Holds after

/-- One more vector in front: it holds once it is written, and neither it nor an operand of it is
recomputed again. -/
theorem Settled.cons {world : World} {derivation : Derivation} {id : VectorId}
    {rest : List VectorId} {store : Store} {v : PlaneVector}
    (h : ({ world with store := world.store.set id v } : World).Settled rest store)
    (hd : world.graph.derivation? id = some derivation) (htarget : derivation.target = id)
    (hholds : derivation.Holds (world.store.set id v)) (hself : id ∉ rest)
    (hoperands : ∀ operand ∈ derivation.vectorOperands, operand ∉ rest) :
    world.Settled (id :: rest) store := by
  refine ⟨?_, ?_, ?_⟩
  · rw [h.size_eq]
    exact Store.size_set _ _ _
  · intro other hother
    rw [List.mem_cons, not_or] at hother
    rw [h.get_eq hother.2]
    exact Store.get_set_ne _ v hother.1
  · intro other hother found hfound
    rcases List.mem_cons.1 hother with rfl | hother
    · obtain rfl : found = derivation := Option.some.inj (hfound.symm.trans hd)
      refine hholds.congr (h.get_eq (htarget ▸ hself)) ?_
      intro operand hoperand
      exact h.get_eq (hoperands operand hoperand)
    · exact h.holds hother hfound

/-- **Refreshing settles.**  If every vector of a list is derived and comes after its operands,
then refreshing the list succeeds and at the end all of its derivations hold together. -/
theorem outcome_refresh {ids : List VectorId} {world : World} (hw : world.WellFormed)
    (hnodup : ids.Nodup) (hderived : ∀ id ∈ ids, ∃ derivation,
      world.graph.derivation? id = some derivation)
    (horder : ids.Pairwise fun a b => ∀ derivation, world.graph.derivation? a = some derivation →
      b ∉ derivation.vectorOperands) :
    ∃ store, (refresh ids).outcome world = (.ok ids, { world with store }) ∧
      world.Settled ids store := by
  induction ids generalizing world with
  | nil => exact ⟨world.store, rfl, ⟨rfl, fun _ => rfl, nofun⟩⟩
  | cons id rest ih =>
    obtain ⟨derivation, hd⟩ := hderived id (by simp)
    rw [List.nodup_cons] at hnodup
    rw [List.pairwise_cons] at horder
    have htarget : derivation.target = id := hw.graph.target_eq hd
    have hlt : id < world.store.size := hw.graph.lt_size_of_derivation hd
    obtain ⟨v, hv, hrecompute⟩ := (hw.graph.sound hd).outcome_recompute world.store
    have hholds := (hw.graph.sound hd).holds_set (htarget ▸ hlt) hv
    rw [htarget] at hrecompute hholds
    have hset : world.store.size ≤ (world.store.set id v).size := by simp
    obtain ⟨store, hrest, hsettled⟩ := ih (hw.withStore hset) hnodup.2
      (fun other hother => hderived other (List.mem_cons_of_mem _ hother)) horder.2
    refine ⟨store, ?_, ?_⟩
    · rw [refresh]
      simp only [outcome_bind, outcome_inspect, hd, onStore, outcome_onPart, hrecompute, hrest,
        outcome_pure]
    · refine hsettled.cons hd htarget hholds hnodup.1 ?_
      intro operand hoperand hmem
      exact horder.1 operand hmem derivation hd hoperand

/-- **Propagation settles the dependents of a vector** and nothing else, whatever was done to the
components before.  It never fails. -/
theorem outcome_propagate {world : World} (hw : world.WellFormed) (id : VectorId) :
    ∃ store, (propagate id).outcome world =
        (.ok (world.liveDependents id), { world with store }) ∧
      world.Settled (world.liveDependents id) store := by
  obtain ⟨store, hrefresh, hsettled⟩ := outcome_refresh hw
    (DependencyGraph.nodup_reachable world.graph id _)
    (fun other hother => hw.graph.derivation?_of_mem_reachable hother)
    (hw.graph.pairwise_reachable id _)
  refine ⟨store, ?_, hsettled⟩
  simp only [propagate, outcome_bind, outcome_inspect]
  exact hrefresh

/-- **What held before a change holds after propagation.**  When one vector has changed, the live
vectors that it or a dependent of it is an operand of are its dependents, and these are recomputed;
all others have the operands that they had. -/
theorem Settled.holds_of_changesOnly {world : World} (hw : world.WellFormed) {id : VectorId}
    {changed settled : Store} (hchange : Store.ChangesOnly id world.store changed)
    (hsettled : ({ world with store := changed } : World).Settled (world.liveDependents id) settled)
    {other : VectorId} {derivation : Derivation} (hother : other ≠ id)
    (hd : world.graph.derivation? other = some derivation)
    (hlive : world.isLive (.vector other) = true) (h : derivation.Holds world.store) :
    derivation.Holds settled := by
  by_cases hmem : other ∈ world.liveDependents id
  · exact hsettled.holds hmem hd
  · have hsize : other < world.store.size := hw.graph.lt_size_of_derivation hd
    refine h.congr ?_ fun operand ho => ?_
    · rw [hw.graph.target_eq hd, hsettled.get_eq hmem]
      exact hchange.get_eq hsize hother
    · have hedge : world.LiveEdge operand other :=
        ⟨hw.graph.edge_iff.2 ⟨derivation, hd, ho⟩, hlive⟩
      have hoperand : ¬ (operand = id ∨ operand ∈ world.liveDependents id) :=
        fun hfrom => hmem (mem_liveDependents_of_edge hw hfrom hedge)
      rw [not_or] at hoperand
      rw [hsettled.get_eq hoperand.2]
      exact hchange.get_eq (Nat.lt_trans (hw.graph.operand_lt hd ho) hsize) hoperand.1

end World
end LiveVectors

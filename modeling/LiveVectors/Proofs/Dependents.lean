import LiveVectors.Proofs.Session

/-!
# What follows a change

`propagate` is what every change of a vector ends with.  This file puts together what is known of
it: which vectors it recomputes, in which order, and what it leaves behind, after every session
and whatever the components of the vectors are by then.

* `mem_liveDependents_iff_path` — the dependents of a vector are the other vectors at the ends of
  the paths of live vectors from it.
* `mem_front_of_operand` — among the dependents every vector comes after those of its operands that
  are dependents themselves.
* `propagate_session` — the result.
-/

set_option autoImplicit false

namespace LiveVectors
namespace World

open LiveVectors.Action Relation

variable {world : World}

/-- No vector is a dependent of itself, so the start of a path needs no mention. -/
theorem mem_liveDependents_iff_path (hw : world.WellFormed) {id b : VectorId} :
    b ∈ world.liveDependents id ↔ b ≠ id ∧
      TransGen (fun operand derived => derived ∈ world.graph.dependents operand ∧
        world.isLive (.vector derived) = true) id b := by
  constructor
  · intro h
    exact ⟨(Nat.ne_of_lt (lt_of_mem_liveDependents hw h)).symm, (mem_liveDependents_iff hw).1 h⟩
  · rintro ⟨-, hpath⟩
    exact (mem_liveDependents_iff hw).2 hpath

/-- In a list in which `R` leads from every member to all later ones, a member to which it does not
lead from `b` stands in front of `b`. -/
theorem mem_front_of_pairwise {α : Type} {R : α → α → Prop} {members front back : List α} {a b : α}
    (h : members.Pairwise R) (hsplit : members = front ++ b :: back) (ha : a ∈ members)
    (hne : a ≠ b) (hnot : ¬ R b a) : a ∈ front := by
  rw [hsplit, List.pairwise_append, List.pairwise_cons] at h
  rw [hsplit, List.mem_append, List.mem_cons] at ha
  rcases ha with hfront | heq | hback
  · exact hfront
  · exact absurd heq hne
  · exact absurd (h.2.1.1 a hback) hnot

/-- **Operands come first**: an operand of a dependent that is a dependent stands in front of it. -/
theorem mem_front_of_operand (hw : world.WellFormed) {id b operand : VectorId}
    {front back : List VectorId} (hsplit : world.liveDependents id = front ++ b :: back)
    {derivation : Derivation} (hd : world.graph.derivation? b = some derivation)
    (ho : operand ∈ derivation.vectorOperands) (hmem : operand ∈ world.liveDependents id) :
    operand ∈ front :=
  mem_front_of_pairwise (hw.graph.pairwise_reachable id _) hsplit hmem
    (Nat.ne_of_lt (hw.graph.operand_lt hd ho)) fun happart => happart derivation hd ho

/-- **Propagation is exact.**  After every session, and whatever components the vectors have been
given since, propagating a vector succeeds.  It recomputes, each once and each after its operands,
just the other vectors that paths of live vectors reach; at the end each of these has the
components that its operator gives for its operands as they are then; and every other vector, the
bindings, the graph and the diagnostics stay as they were. -/
theorem propagate_session (requests : List Request) {store : Store}
    (hsize : store.size = (session requests).store.size) (id : VectorId) :
    ∃ ids after,
      (propagate id).outcome { session requests with store } =
        (.ok ids, { session requests with store := after }) ∧
      ids.Nodup ∧
      (∀ b, b ∈ ids ↔ b ≠ id ∧
        TransGen (fun operand derived =>
          derived ∈ (session requests).graph.dependents operand ∧
            (session requests).isLive (.vector derived) = true) id b) ∧
      (∀ front b back, ids = front ++ b :: back →
        ∀ derivation, (session requests).graph.derivation? b = some derivation →
          ∀ operand ∈ derivation.vectorOperands, operand ∈ ids → operand ∈ front) ∧
      (∀ b ∈ ids, ∃ derivation, (session requests).graph.derivation? b = some derivation ∧
        operate derivation.operator (after.snapshot derivation.left)
          (after.snapshot derivation.right) = .ok (.planar (after.get b))) ∧
      after.size = store.size ∧
      ∀ b, b ∉ ids → after.get b = store.get b := by
  have hw : ({ session requests with store } : World).WellFormed :=
    (wellFormed_session requests).withStore (Nat.le_of_eq hsize.symm)
  obtain ⟨after, hpropagate, hsettled⟩ := outcome_propagate hw id
  refine ⟨_, after, hpropagate, ?_, ?_, ?_, ?_, hsettled.size_eq, ?_⟩
  · exact DependencyGraph.nodup_reachable _ _ _
  · exact fun b => mem_liveDependents_iff_path hw
  · intro front b back hsplit derivation hd operand ho hmem
    exact mem_front_of_operand hw hsplit hd ho hmem
  · intro b hb
    obtain ⟨derivation, hd⟩ := hw.graph.derivation?_of_mem_reachable hb
    have hholds := hsettled.holds hb hd
    rw [Derivation.Holds, hw.graph.target_eq hd] at hholds
    exact ⟨derivation, hd, hholds⟩
  · exact fun b hb => hsettled.get_eq hb

/-- In the script `doubling` the first vector is overwritten, with nothing done about it at first.
Propagation then recomputes its double. -/
theorem propagate_doubling :
    (doubling.store.set 0 ⟨5, 7⟩).size = doubling.store.size ∧
      ∃ ids after, (propagate 0).outcome { doubling with store := doubling.store.set 0 ⟨5, 7⟩ } =
          (.ok ids, { doubling with store := after }) ∧
        1 ∈ ids ∧ after.get 0 = ⟨5, 7⟩ ∧ after.get 1 = ⟨10, 14⟩ := by
  have hsize : (doubling.store.set 0 ⟨5, 7⟩).size = doubling.store.size := by simp
  obtain ⟨ids, after, hpropagate, -, hids, -, hholds, -, hget⟩ :=
    propagate_session [.run [vectorLine, doubleLine]] hsize 0
  have hfirst : after.get 0 = ⟨5, 7⟩ := hget 0 fun hmem => ((hids 0).1 hmem).1 rfl
  have hsecond : 1 ∈ ids := (hids 1).2 ⟨by decide, .single ⟨by decide, rfl⟩⟩
  obtain ⟨derivation, hd, hoperate⟩ := hholds 1 hsecond
  have hdouble : doubling.graph.derivation? 1 = some ⟨"*", .vector 0, .number 2, 1⟩ := rfl
  obtain rfl : derivation = ⟨"*", .vector 0, .number 2, 1⟩ :=
    Option.some.inj (hd.symm.trans hdouble)
  have hproduct : operate "*" (.vector ⟨5, 7⟩) (.number 2) = .ok (.planar ⟨10, 14⟩) := by
    decide +kernel
  simp only [Store.snapshot, hfirst, hproduct, Except.ok.injEq, Quantity.planar.injEq] at hoperate
  exact ⟨hsize, ids, after, hpropagate, hsecond, hfirst, hoperate.symm⟩

end World
end LiveVectors

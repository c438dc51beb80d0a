import LiveVectors.Proofs.Dependents

/-!
# When a move fails

A move that rounds places its vector before it rounds it.  So it can fail with the vector at a
place that it never meant to leave it at, and with dependents that have not followed.  No other
move fails with anything changed.

* `isFinite_of_landing` and `exists_landing_iff` — what cannot be rounded is what is not finite.
* `outcome_move` — the result: when a move succeeds, what a failed one leaves behind, and that all
  dependents agree with their operands after one that succeeds.
* `values_lost_by_move` — not every failing move leaves values intact.
-/

set_option autoImplicit false

namespace LiveVectors
namespace World

open LiveVectors.Action Relation

/-- Where a vector can be rounded to, both coordinates are finite. -/
theorem isFinite_of_landing {x y : Float} {v : PlaneVector} (h : landing x y true = .ok v) :
    x.isFinite = true ∧ y.isFinite = true := by
  cases hleft : Change.roundComponent x with
  | error fault =>
    simp only [landing, if_true, Change.result, hleft] at h
    cases h
  | ok left =>
    cases hright : Change.roundComponent y with
    | error fault =>
      simp only [landing, if_true, Change.result, hleft, hright] at h
      cases h
    | ok right =>
      exact ⟨Change.isFinite_of_roundComponent hleft, Change.isFinite_of_roundComponent hright⟩

/-- **Where a move can land**: anywhere without rounding, and wherever both coordinates are finite
with it. -/
theorem exists_landing_iff {x y : Float} {snap : Bool} :
    (∃ v, landing x y snap = .ok v) ↔
      (snap = true → x.isFinite = true ∧ y.isFinite = true) := by
  constructor
  · rintro ⟨v, h⟩ rfl
    exact isFinite_of_landing h
  · intro hfinite
    cases snap with
    | false => exact ⟨⟨x, y⟩, rfl⟩
    | true => exact landing_of_isFinite (hfinite rfl).1 (hfinite rfl).2 true

variable {world after : World} {name : String} {x y : Float} {snap : Bool}

/-- **When a move succeeds**: its name holds a vector, and what is to be rounded is finite. -/
theorem exists_move_ok_iff (hw : world.WellFormed) (name : String) (x y : Float) (snap : Bool) :
    (∃ names after, (move name x y snap).outcome world = (.ok names, after)) ↔
      world.vectorOf name ≠ none ∧ (snap = true → x.isFinite = true ∧ y.isFinite = true) := by
  rw [← exists_landing_iff]
  rcases outcome_move_cases hw name x y snap with
    ⟨hnone, fault, hmove⟩ | ⟨id, hid, ⟨fault, hlanding, hmove⟩ | ⟨v, hlanding, hmove⟩⟩
  · simp [hmove, hnone]
  · simp [hmove, hlanding]
  · simp [hmove, hid, hlanding]

/-- A move that fails leaves its vector, if its name holds one, at the place that it was given. -/
theorem world_of_move_error (hw : world.WellFormed) {fault : Fault}
    (h : (move name x y snap).outcome world = (.error fault, after)) :
    (world.vectorOf name = none → after = world) ∧
      ∀ id, world.vectorOf name = some id →
        after = { world with store := world.store.set id ⟨x, y⟩ } := by
  rcases outcome_move_cases hw name x y snap with
    ⟨hnone, _, hmove⟩ | ⟨id, hid, ⟨_, _, hmove⟩ | ⟨_, _, hmove⟩⟩ <;> rw [hmove] at h <;> cases h
  · simp [hnone]
  · simp [hid]

/-- A move that succeeds puts its vector where it should be, settles the dependents and gives their
names. -/
theorem exists_settled_of_move (hw : world.WellFormed) {names : List String}
    (h : (move name x y snap).outcome world = (.ok names, after)) :
    ∃ id store, world.vectorOf name = some id ∧ landing x y snap = .ok (store.get id) ∧
      after = { world with store } ∧
      ({ world with store := world.store.set id (store.get id) } : World).Settled
        (world.liveDependents id) store ∧
      names = (world.liveDependents id).flatMap world.bindings.namesOf := by
  rcases outcome_move_cases hw name x y snap with
    ⟨_, fault, hmove⟩ | ⟨id, hid, ⟨fault, _, hmove⟩ | ⟨v, hlanding, hmove⟩⟩ <;>
    rw [hmove] at h <;> cases h
  obtain ⟨store, heq, hsettled⟩ := overwrite_eq hw id v
  have hself : id ∉ world.liveDependents id :=
    fun hmem => Nat.lt_irrefl id (lt_of_mem_liveDependents hw hmem)
  have hplaced : store.get id = v := by
    rw [hsettled.get_eq hself]
    exact Store.get_set_self world.store v (lt_of_vectorOf hw hid)
  subst hplaced
  exact ⟨id, store, hid, hlanding, heq, hsettled, rfl⟩

/-- **What a move leaves behind.**  After every session, and whatever components the vectors have
been given since, a move succeeds if and only if its name holds a vector and there is nothing to
round that is not finite.  A move of a name without a vector changes nothing.  One that fails to
round leaves its vector at the place that it was given, and changes nothing else.  After one that
succeeds the vector is where it should be, and all that paths of live vectors reach from it has
the components that its operator gives for its operands as they are then. -/
theorem outcome_move (requests : List Request) {store : Store}
    (hsize : store.size = (session requests).store.size) (name : String) (x y : Float)
    (snap : Bool) {result : Except Fault (List String)} {after : World}
    (h : (move name x y snap).outcome { session requests with store } = (result, after)) :
    ((∃ names, result = .ok names) ↔ (session requests).vectorOf name ≠ none ∧
      (snap = true → x.isFinite = true ∧ y.isFinite = true)) ∧
    ((session requests).vectorOf name = none → after = { session requests with store }) ∧
    ∀ id, (session requests).vectorOf name = some id →
      (∀ fault, result = .error fault →
        after = { session requests with store := store.set id ⟨x, y⟩ }) ∧
      ∀ names, result = .ok names →
        landing x y snap = .ok (after.store.get id) ∧
        ∀ b, TransGen (session requests).LiveEdge id b →
          ∃ derivation, (session requests).graph.derivation? b = some derivation ∧
            operate derivation.operator (after.store.snapshot derivation.left)
              (after.store.snapshot derivation.right) = .ok (.planar (after.store.get b)) := by
  have hw : ({ session requests with store } : World).WellFormed :=
    (wellFormed_session requests).withStore (Nat.le_of_eq hsize.symm)
  -- the components play no part in what a name holds
  have hvector : ({ session requests with store } : World).vectorOf name =
      (session requests).vectorOf name := rfl
  have hsucceeds := exists_move_ok_iff hw name x y snap
  rw [h, hvector] at hsucceeds
  cases result with
  | error fault =>
    obtain ⟨hnone, hsome⟩ := world_of_move_error hw h
    exact ⟨by simpa using hsucceeds, hnone, fun id hid => ⟨fun _ _ => hsome id hid, nofun⟩⟩
  | ok names =>
    obtain ⟨id, final, hid, hlanding, rfl, hsettled, -⟩ := exists_settled_of_move hw h
    rw [hvector] at hid
    refine ⟨by simpa using hsucceeds, fun hnone => absurd (hid.symm.trans hnone) nofun, ?_⟩
    rintro other hother
    obtain rfl : id = other := Option.some.inj (hid.symm.trans hother)
    refine ⟨nofun, fun _ _ => ⟨hlanding, fun b hpath => ?_⟩⟩
    have hmem := (mem_liveDependents_iff hw).2 hpath
    obtain ⟨derivation, hd⟩ := hw.graph.derivation?_of_mem_reachable hmem
    have hholds := hsettled.holds hmem hd
    rw [Derivation.Holds, hw.graph.target_eq hd] at hholds
    exact ⟨derivation, hd, hholds⟩

/-- In the script `doubling` the double is overwritten, and then the first vector is moved and
rounded.  The move succeeds, and the double is one again. -/
theorem outcome_move_doubling :
    (doubling.store.set 1 ⟨9, 9⟩).size = doubling.store.size ∧
      ∃ names after, (move "a" 3 4 true).outcome
          { doubling with store := doubling.store.set 1 ⟨9, 9⟩ } = (.ok names, after) ∧
        landing 3 4 true = .ok (after.store.get 0) ∧
        operate "*" (after.store.snapshot (.vector 0)) (.number 2) =
          .ok (.planar (after.store.get 1)) := by
  have hsize : (doubling.store.set 1 ⟨9, 9⟩).size = doubling.store.size := by simp
  obtain ⟨hsucceeds, -, hmoved⟩ :=
    outcome_move [.run [vectorLine, doubleLine]] hsize "a" 3 4 true rfl
  obtain ⟨names, hnames⟩ := hsucceeds.2 ⟨by decide, fun _ => ⟨rfl, rfl⟩⟩
  obtain ⟨hlanding, hfollow⟩ := (hmoved 0 rfl).2 names hnames
  obtain ⟨derivation, hd, hoperate⟩ := hfollow 1
    (.single ⟨(by decide : 1 ∈ doubling.graph.dependents 0), rfl⟩)
  have hdouble : doubling.graph.derivation? 1 = some ⟨"*", .vector 0, .number 2, 1⟩ := rfl
  obtain rfl : derivation = ⟨"*", .vector 0, .number 2, 1⟩ :=
    Option.some.inj (hd.symm.trans hdouble)
  exact ⟨hsize, names, _, Prod.ext hnames rfl, hlanding, hoperate⟩

/-- **Not every failing move leaves values intact**: one that rounds infinity does not. -/
theorem values_lost_by_move :
    ¬ ∀ (requests : List Request) (name : String) (x y : Float) (snap : Bool) (fault : Fault)
        (after : World),
      (move name x y snap).outcome (session requests) = (.error fault, after) →
      ∀ id < (session requests).store.size,
        after.store.get id = (session requests).store.get id := by
  intro h
  have hsame := h [.run [vectorLine, doubleLine]] "a" (1 / 0) 5 true (.breakdown .roundsInfinity)
    _ rfl 0 (by decide)
  exact absurd hsame (by decide +kernel)

end World
end LiveVectors

import LiveVectors.Proofs.Session
import Mathlib.Data.Set.Defs

/-!
# Dragging

A host drags vectors about before it lets go of them.  Only where each of them ends up counts: the
places in between, repeated drags and the order in which several vectors are dragged leave no
trace in any vector, as long as no dragged vector depends on another one.

* `Drag`, `dragAll` and `finalPlace` — sequences of drags, and where they leave a vector.
* `Dragged` — what is known after some drags: the dragged vectors are in their places, what depends
  on them holds, and everything else is as it was.  One more drag keeps this
  (`Dragged.overwrite`), so a whole sequence does (`dragged_dragAll`).
* `Dragged.unique` — there is only one such world, because the components of a derived vector
  follow from older vectors.
* `dragAll_eq_of_finalPlace_eq` — the result.
-/

set_option autoImplicit false

namespace LiveVectors
namespace World

open LiveVectors.Action Relation

/-! ## Sequences of drags -/

/-- One drag of the vector of a variable. -/
structure Drag where
  name : String
  x : Float
  y : Float
  /-- Whether the vector goes to the nearest integers. -/
  snap : Bool

/-- Carries out drags one after the other. -/
def dragAll : List Drag → Action World Unit
  | [] => return ()
  | drag :: rest => do
    let _ ← move drag.name drag.x drag.y drag.snap
    dragAll rest

/-- Where drags leave a vector, if one of them moves it: the last of these counts. -/
def finalPlace (world : World) : List Drag → VectorId → Option PlaneVector
  | [], _ => none
  | drag :: rest, id =>
    (world.finalPlace rest id).or
      (if world.vectorOf drag.name = some id then (landing drag.x drag.y drag.snap).toOption
        else none)

/-- No vector of a set depends on another one through live vectors. -/
def Independent (world : World) (members : Set VectorId) : Prop :=
  ∀ a ∈ members, ∀ b ∈ members, a ≠ b → b ∉ world.liveDependents a

/-- No vector depends on itself either. -/
theorem Independent.not_mem_liveDependents {world : World} {members : Set VectorId}
    (h : world.Independent members) (hw : world.WellFormed) {a b : VectorId} (ha : a ∈ members)
    (hb : b ∈ members) : b ∉ world.liveDependents a := by
  intro hmem
  by_cases hne : a = b
  · exact Nat.lt_irrefl _ (hne ▸ lt_of_mem_liveDependents hw hmem)
  · exact h a ha b hb hne hmem

/-! ## What is known after some drags -/

/-- The world after drags that left vectors in the places `placed`. -/
structure Dragged (world : World) (placed : VectorId → Option PlaneVector) (after : World) :
    Prop where
  /-- Only components have changed. -/
  frame : after = { world with store := after.store }
  /-- No vector is made or lost. -/
  size_eq : after.store.size = world.store.size
  /-- Dragged vectors are in their places. -/
  get_placed : ∀ {id v}, placed id = some v → after.store.get id = v
  /-- What depends on a dragged vector follows from its operands. -/
  holds : ∀ {a b derivation}, placed a ≠ none → b ∈ world.liveDependents a →
    world.graph.derivation? b = some derivation → derivation.Holds after.store
  /-- Everything else is as it was. -/
  get_eq : ∀ {id}, placed id = none → (∀ a, placed a ≠ none → id ∉ world.liveDependents a) →
    after.store.get id = world.store.get id

theorem Dragged.refl (world : World) : world.Dragged (fun _ => none) world where
  frame := rfl
  size_eq := rfl
  get_placed := nofun
  holds h := absurd rfl h
  get_eq _ _ := rfl

variable {world middle after : World} {placed : VectorId → Option PlaneVector}

theorem Dragged.wellFormed (h : world.Dragged placed after) (hw : world.WellFormed) :
    after.WellFormed := by
  rw [h.frame]
  exact hw.withStore (Nat.le_of_eq h.size_eq.symm)

/-- Drags bind no names. -/
theorem Dragged.vectorOf_eq (h : world.Dragged placed after) (name : String) :
    after.vectorOf name = world.vectorOf name := by
  rw [h.frame]
  rfl

/-- What is known after a drag of the vector `id` to `v`, on top of what was known before. -/
def place (placed : VectorId → Option PlaneVector) (id : VectorId) (v : PlaneVector) :
    VectorId → Option PlaneVector :=
  fun other => (if id = other then some v else none).or (placed other)

theorem place_self (placed : VectorId → Option PlaneVector) (id : VectorId) (v : PlaneVector) :
    place placed id v id = some v := by
  simp [place]

theorem place_ne (placed : VectorId → Option PlaneVector) {id other : VectorId} (v : PlaneVector)
    (h : other ≠ id) : place placed id v other = placed other := by
  simp [place, h.symm]

theorem place_ne_none_iff {placed : VectorId → Option PlaneVector} {id other : VectorId}
    {v : PlaneVector} : place placed id v other ≠ none ↔ other = id ∨ placed other ≠ none := by
  by_cases h : other = id
  · simp [h, place_self]
  · simp [place_ne placed v h, h]

/-- **One more drag** puts its vector in place, makes its dependents hold, and spoils nothing. -/
theorem Dragged.overwrite {members : Set VectorId} {id : VectorId} (h : world.Dragged placed middle)
    (hw : world.WellFormed) (hindependent : world.Independent members)
    (hplaced : ∀ a, placed a ≠ none → a ∈ members) (hid : id ∈ members)
    (hlt : id < world.store.size) (v : PlaneVector) :
    world.Dragged (place placed id v) (middle.overwrite id v) := by
  obtain ⟨store, hmiddle⟩ : ∃ store, middle = { world with store } := ⟨_, h.frame⟩
  subst hmiddle
  have hsize : store.size = world.store.size := h.size_eq
  have hmiddle : ({ world with store } : World).WellFormed :=
    hw.withStore (Nat.le_of_eq hsize.symm)
  obtain ⟨settled, heq, hsettled⟩ := overwrite_eq hmiddle id v
  rw [heq]
  constructor
  case frame => rfl
  case size_eq =>
    rw [hsettled.size_eq, ← hsize]
    exact Store.size_set _ _ _
  case get_placed =>
    -- no dragged vector is recomputed
    intro other w hother
    by_cases hne : other = id
    · subst hne
      rw [place_self] at hother
      cases hother
      rw [hsettled.get_eq (hindependent.not_mem_liveDependents hw hid hid)]
      exact Store.get_set_self _ _ (hsize ▸ hlt)
    · rw [place_ne placed v hne] at hother
      have hmember : other ∈ members := hplaced other (by rw [hother]; exact Option.some_ne_none w)
      rw [hsettled.get_eq (hindependent.not_mem_liveDependents hw hid hmember)]
      exact (Store.get_set_ne _ _ hne).trans (h.get_placed hother)
  case holds =>
    intro a b derivation ha hb hd
    rcases place_ne_none_iff.1 ha with rfl | hbefore
    · exact hsettled.holds hb hd
    · have hother : b ≠ id := by
        rintro rfl
        exact hindependent.not_mem_liveDependents hw (hplaced a hbefore) hid hb
      exact hsettled.holds_of_changesOnly hmiddle (Store.changesOnly_set store id v) hother hd
        (isLive_of_mem_liveDependents hw hb) (h.holds hbefore hb hd)
  case get_eq =>
    intro other hother hkept
    have hne : other ≠ id := fun heq => place_ne_none_iff.2 (.inl heq) hother
    rw [place_ne placed v hne] at hother
    rw [hsettled.get_eq (hkept id (place_ne_none_iff.2 (.inl rfl)))]
    exact (Store.get_set_ne _ _ hne).trans
      (h.get_eq hother fun a ha => hkept a (place_ne_none_iff.2 (.inr ha)))

/-- **A sequence of drags** leaves the dragged vectors in their final places. -/
theorem dragged_dragAll {members : Set VectorId} {drags : List Drag}
    (h : world.Dragged placed middle) (hw : world.WellFormed)
    (hindependent : world.Independent members) (hplaced : ∀ a, placed a ≠ none → a ∈ members)
    (htargets : ∀ drag ∈ drags, ∀ id, world.vectorOf drag.name = some id → id ∈ members)
    (hdrags : (dragAll drags).outcome middle = (.ok (), after)) :
    world.Dragged (fun id => (world.finalPlace drags id).or (placed id)) after := by
  induction drags generalizing placed middle with
  | nil =>
    rw [dragAll] at hdrags
    cases hdrags
    exact h
  | cons drag rest ih =>
    have hmiddle := h.wellFormed hw
    rw [dragAll, outcome_bind] at hdrags
    rcases outcome_move_cases hmiddle drag.name drag.x drag.y drag.snap with
      ⟨-, fault, hmove⟩ | ⟨id, hid, ⟨fault, -, hmove⟩ | ⟨v, hv, hmove⟩⟩ <;>
        rw [hmove] at hdrags
    · cases hdrags
    · cases hdrags
    · rw [h.vectorOf_eq] at hid
      have hmember : id ∈ members := htargets drag (by simp) id hid
      have hnext := h.overwrite hw hindependent hplaced hmember (lt_of_vectorOf hw hid) v
      have hplaces : (fun other => (world.finalPlace (drag :: rest) other).or (placed other)) =
          fun other => (world.finalPlace rest other).or (place placed id v other) := by
        funext other
        rw [finalPlace, hid, hv, Option.or_assoc]
        simp [place, Except.toOption]
      rw [hplaces]
      refine ih hnext ?_
        (fun other hother => htargets other (List.mem_cons_of_mem _ hother)) hdrags
      intro a ha
      rcases place_ne_none_iff.1 ha with rfl | ha
      · exact hmember
      · exact hplaced a ha

/-- What is known of drags from the start. -/
theorem dragged_finalPlace {members : Set VectorId} {drags : List Drag} (hw : world.WellFormed)
    (hindependent : world.Independent members)
    (htargets : ∀ drag ∈ drags, ∃ id ∈ members, world.vectorOf drag.name = some id)
    (hdrags : (dragAll drags).outcome world = (.ok (), after)) :
    world.Dragged (world.finalPlace drags) after := by
  have hmember : ∀ drag ∈ drags, ∀ id, world.vectorOf drag.name = some id → id ∈ members := by
    intro drag hdrag id hid
    obtain ⟨id', hid', htarget⟩ := htargets drag hdrag
    obtain rfl : id' = id := Option.some.inj (htarget.symm.trans hid)
    exact hid'
  have hdragged := dragged_dragAll (.refl _) hw hindependent (fun a ha => absurd rfl ha) hmember
    hdrags
  simpa only [Option.or_none] using hdragged

/-- Drags of vectors to places where they can land succeed. -/
theorem exists_outcome_dragAll {drags : List Drag} (hw : world.WellFormed)
    (htargets : ∀ drag ∈ drags, ∃ id, world.vectorOf drag.name = some id)
    (hlandings : ∀ drag ∈ drags, ∃ v, landing drag.x drag.y drag.snap = .ok v) :
    ∃ after, (dragAll drags).outcome world = (.ok (), after) := by
  induction drags generalizing world with
  | nil => exact ⟨world, rfl⟩
  | cons drag rest ih =>
    obtain ⟨id, hid⟩ := htargets drag (by simp)
    obtain ⟨v, hv⟩ := hlandings drag (by simp)
    rw [dragAll, outcome_bind]
    rcases outcome_move_cases hw drag.name drag.x drag.y drag.snap with
      ⟨hnone, -⟩ | ⟨_, _, ⟨fault, hfault, -⟩ | ⟨_, -, hmove⟩⟩
    · rw [hid] at hnone
      cases hnone
    · rw [hv] at hfault
      cases hfault
    · obtain ⟨store, heq, -⟩ := exists_move_eq hw drag.name drag.x drag.y drag.snap
      have hkeeps := keeps_move hw drag.name drag.x drag.y drag.snap
      rw [hmove] at heq hkeeps ⊢
      dsimp only at heq
      refine ih hkeeps.wellFormed ?_
        fun other hother => hlandings other (List.mem_cons_of_mem _ hother)
      intro other hother
      rw [heq]
      exact htargets other (List.mem_cons_of_mem _ hother)

/-! ## Only one world is possible -/

/-- **The places decide everything.**  By induction on identities: a vector that is neither in a
place nor as it was follows from its operands, which are older. -/
theorem Dragged.get_unique {after' : World} (h : world.Dragged placed after)
    (h' : world.Dragged placed after') (hw : world.WellFormed) (id : VectorId) :
    after'.store.get id = after.store.get id := by
  induction id using Nat.strongRecOn with
  | ind id ih =>
    cases hplace : placed id with
    | some v => rw [h.get_placed hplace, h'.get_placed hplace]
    | none =>
      by_cases hdependent : ∃ a, placed a ≠ none ∧ id ∈ world.liveDependents a
      · obtain ⟨a, ha, hmem⟩ := hdependent
        obtain ⟨derivation, hd⟩ := hw.graph.derivation?_of_mem_reachable hmem
        have heq := Derivation.Holds.get_eq (h.holds ha hmem hd) (h'.holds ha hmem hd)
          fun operand ho => ih operand (hw.graph.operand_lt hd ho)
        rwa [hw.graph.target_eq hd] at heq
      · have hkept : ∀ a, placed a ≠ none → id ∉ world.liveDependents a :=
          fun a ha hmem => hdependent ⟨a, ha, hmem⟩
        rw [h.get_eq hplace hkept, h'.get_eq hplace hkept]

theorem Dragged.unique {after' : World} (h : world.Dragged placed after)
    (h' : world.Dragged placed after') (hw : world.WellFormed) : after = after' := by
  have hstore : after.store = after'.store :=
    Store.ext_get (h.size_eq.trans h'.size_eq.symm) fun id => (h.get_unique h' hw id).symm
  rw [h.frame, h'.frame, hstore]

/-- **Only the last place of a dragged vector counts.**  Two sequences of successful drags that
move independent vectors, the same ones to the same final places, lead from a world to the very
same world. -/
theorem dragAll_eq_of_finalPlace_eq (requests : List Request) {members : Set VectorId}
    {drags drags' : List Drag} {after' : World}
    (hindependent : (session requests).Independent members)
    (htargets : ∀ drag ∈ drags ++ drags', ∃ id ∈ members,
      (session requests).vectorOf drag.name = some id)
    (hdrags : (dragAll drags).outcome (session requests) = (.ok (), after))
    (hdrags' : (dragAll drags').outcome (session requests) = (.ok (), after'))
    (hsame : ∀ id, (session requests).finalPlace drags id =
      (session requests).finalPlace drags' id) :
    after = after' := by
  have hw := wellFormed_session requests
  have hfirst := dragged_finalPlace hw hindependent
    (fun drag hdrag => htargets drag (List.mem_append_left _ hdrag)) hdrags
  have hsecond := dragged_finalPlace hw hindependent
    (fun drag hdrag => htargets drag (List.mem_append_right _ hdrag)) hdrags'
  rw [funext hsame] at hfirst
  exact hfirst.unique hsecond hw

/-! ## Two vectors and their difference -/

/-- The second vector is dragged between two drags of the first one, which ends at the nearest
integers. -/
def sampleDrags : List Drag := [⟨"a", 7, 7, false⟩, ⟨"b", 5, 9, false⟩, ⟨"a", 3, 4, true⟩]

/-- The same vectors the other way round. -/
def otherDrags : List Drag := [⟨"b", 0, 0, true⟩, ⟨"a", 3, 4, false⟩, ⟨"b", 5, 9, true⟩]

theorem independent_difference : difference.Independent {0, 1} := by
  -- what depends on something has a derivation, and neither vector has one
  intro a ha b hb hne hmem
  obtain ⟨derivation, hd⟩ := wellFormed_difference.graph.derivation?_of_mem_reachable hmem
  rcases hb with rfl | rfl
  · exact Option.some_ne_none derivation (hd.symm.trans rfl)
  · exact Option.some_ne_none derivation (hd.symm.trans rfl)

theorem landing_three_four (snap : Bool) : (landing 3 4 snap).toOption = some ⟨3, 4⟩ := by
  revert snap
  decide +kernel

theorem landing_five_nine (snap : Bool) : (landing 5 9 snap).toOption = some ⟨5, 9⟩ := by
  revert snap
  decide +kernel

theorem finalPlace_sampleDrags (id : VectorId) : difference.finalPlace sampleDrags id =
    if 0 = id then some ⟨3, 4⟩ else if 1 = id then some ⟨5, 9⟩ else none := by
  have ha : difference.vectorOf "a" = some 0 := rfl
  have hb : difference.vectorOf "b" = some 1 := rfl
  simp only [sampleDrags, finalPlace, ha, hb, landing_three_four, landing_five_nine,
    Option.some.injEq]
  by_cases hfirst : 0 = id
  · subst hfirst
    rfl
  · simp [hfirst]

theorem finalPlace_otherDrags (id : VectorId) :
    difference.finalPlace otherDrags id = difference.finalPlace sampleDrags id := by
  have ha : difference.vectorOf "a" = some 0 := rfl
  have hb : difference.vectorOf "b" = some 1 := rfl
  rw [finalPlace_sampleDrags]
  simp only [otherDrags, finalPlace, ha, hb, landing_three_four, landing_five_nine,
    Option.some.injEq]
  by_cases hsecond : 1 = id
  · subst hsecond
    rfl
  · simp [hsecond]

theorem exists_vectorOf_drags : ∀ drag ∈ sampleDrags ++ otherDrags,
    ∃ id ∈ ({0, 1} : Set VectorId), difference.vectorOf drag.name = some id := by
  have ha : difference.vectorOf "a" = some 0 := rfl
  have hb : difference.vectorOf "b" = some 1 := rfl
  simp only [sampleDrags, otherDrags, List.cons_append, List.nil_append, List.forall_mem_cons]
  exact ⟨⟨0, .inl rfl, ha⟩, ⟨1, .inr rfl, hb⟩, ⟨0, .inl rfl, ha⟩, ⟨1, .inr rfl, hb⟩,
    ⟨0, .inl rfl, ha⟩, ⟨1, .inr rfl, hb⟩, nofun⟩

/-- The two vectors are in their places then, and their difference follows from these. -/
theorem get_of_dragAll_sampleDrags
    (h : (dragAll sampleDrags).outcome difference = (.ok (), after)) :
    after.store.get 0 = ⟨3, 4⟩ ∧ after.store.get 1 = ⟨5, 9⟩ ∧ after.store.get 2 = ⟨2, 5⟩ := by
  have hdragged := dragged_finalPlace wellFormed_difference independent_difference
    (fun drag hdrag => exists_vectorOf_drags drag (List.mem_append_left _ hdrag)) h
  have hfirst : after.store.get 0 = ⟨3, 4⟩ :=
    hdragged.get_placed (by rw [finalPlace_sampleDrags]; rfl)
  have hsecond : after.store.get 1 = ⟨5, 9⟩ :=
    hdragged.get_placed (by rw [finalPlace_sampleDrags]; rfl)
  have hmem : 2 ∈ difference.liveDependents 0 :=
    (mem_liveDependents_iff wellFormed_difference).2
      (.single ⟨(by decide : 2 ∈ difference.graph.dependents 0), rfl⟩)
  have hd : difference.graph.derivation? 2 = some ⟨"-", .vector 1, .vector 0, 2⟩ := rfl
  have hholds :=
    hdragged.holds (by rw [finalPlace_sampleDrags]; exact Option.some_ne_none _) hmem hd
  have hless : operate "-" (.vector ⟨5, 9⟩) (.vector ⟨3, 4⟩) = .ok (.planar ⟨2, 5⟩) := by
    decide +kernel
  simp only [Derivation.Holds, Store.snapshot, hfirst, hsecond, hless, Except.ok.injEq,
    Quantity.planar.injEq] at hholds
  exact ⟨hfirst, hsecond, hholds.symm⟩

/-- Two vectors are dragged in turn, in two orders and over different places.  They end up in the
same places, and their difference with them. -/
theorem dragAll_difference :
    ∃ after, (dragAll sampleDrags).outcome difference = (.ok (), after) ∧
      (dragAll otherDrags).outcome difference = (.ok (), after) ∧
      after.store.get 0 = ⟨3, 4⟩ ∧ after.store.get 1 = ⟨5, 9⟩ ∧ after.store.get 2 = ⟨2, 5⟩ := by
  have hlandings : ∀ drag ∈ sampleDrags ++ otherDrags,
      ∃ v, landing drag.x drag.y drag.snap = .ok v := by
    simp only [sampleDrags, otherDrags, List.cons_append, List.nil_append, List.forall_mem_cons]
    refine ⟨?_, ?_, ?_, ?_, ?_, ?_, nofun⟩ <;> exact landing_of_isFinite rfl rfl _
  have hsucceeds {drags : List Drag} (hdrags : drags ⊆ sampleDrags ++ otherDrags) :
      ∃ after, (dragAll drags).outcome difference = (.ok (), after) :=
    exists_outcome_dragAll wellFormed_difference
      (fun drag hdrag => (exists_vectorOf_drags drag (hdrags hdrag)).imp fun _ h => h.2)
      fun drag hdrag => hlandings drag (hdrags hdrag)
  obtain ⟨after, hafter⟩ := hsucceeds (List.subset_append_left sampleDrags otherDrags)
  obtain ⟨after', hafter'⟩ := hsucceeds (List.subset_append_right sampleDrags otherDrags)
  obtain rfl : after = after' :=
    dragAll_eq_of_finalPlace_eq [.run [vectorLine, otherVectorLine, differenceLine]]
      independent_difference exists_vectorOf_drags hafter hafter'
      fun id => (finalPlace_otherDrags id).symm
  exact ⟨after, hafter, hafter', get_of_dragAll_sampleDrags hafter⟩

end World
end LiveVectors

import LiveVectors.Proofs.Provenance
import Mathlib.Data.Finset.Card

/-!
# Numbers of registrations

A dependency graph by itself is built by two kinds of updates: edges are added by hand, and
derivations are registered.  A vector may be registered again, with another derivation.  Its record
then gets a new number, and this file says what the numbers are and what order they give.

* `rank_build_register` — the number of a vector is how many different vectors were registered
  before its latest registration.  So the numbers of two vectors can be equal.
* `before_reachable_iff` — **how a search orders two vectors**: by their numbers, and where these
  are equal as it discovered them.
* `Orderly` — registrations in which no vector is derived from itself and none is registered again
  while another one is derived from it.
* `JustRepeated` — when an operand and what is derived from it have the same number.
* `before_of_orderly` — the result: whether an operand comes before what is derived from it.
  `order_lost_by_repetition` is a search in which it does not.
-/

set_option autoImplicit false

namespace LiveVectors
namespace DependencyGraph

open Relation

/-! ## Updates -/

/-- A change of a graph. -/
inductive Update where
  /-- An edge is added. -/
  | link (operand derived : VectorId)
  /-- A derivation is registered. -/
  | register (derivation : Derivation)

namespace Update

/-- The graph after an update. -/
def apply (graph : DependencyGraph) : Update → DependencyGraph
  | link operand derived => graph.link operand derived
  | register derivation => graph.register derivation

/-- The vector that an update registers, if it registers one. -/
def target? : Update → Option VectorId
  | link _ _ => none
  | register derivation => some derivation.target

/-- Whether an update makes an edge. -/
def Joins (a b : VectorId) : Update → Prop
  | link operand derived => a = operand ∧ b = derived
  | register derivation => a ∈ derivation.vectorOperands ∧ b = derivation.target

end Update

/-- The graph that updates make of nothing. -/
def build (updates : List Update) : DependencyGraph := updates.foldl Update.apply empty

/-- The vectors that updates register, each as often as it is registered. -/
def registered (updates : List Update) : List VectorId := updates.filterMap Update.target?

theorem build_concat (updates : List Update) (update : Update) :
    build (updates ++ [update]) = update.apply (build updates) := by
  rw [build, List.foldl_concat]
  rfl

@[simp] theorem registered_concat_link (updates : List Update) (operand derived : VectorId) :
    registered (updates ++ [.link operand derived]) = registered updates := by
  simp [registered, Update.target?]

@[simp] theorem registered_concat_register (updates : List Update) (derivation : Derivation) :
    registered (updates ++ [.register derivation]) =
      registered updates ++ [derivation.target] := by
  simp [registered, Update.target?]

@[simp] theorem registered_map_register (registrations : List Derivation) :
    registered (registrations.map .register) = registrations.map Derivation.target := by
  rw [registered, List.filterMap_map]
  exact congrFun List.filterMap_eq_map registrations

/-- **The edges of a graph** are those that its updates made; none is taken away. -/
theorem mem_dependents_build_iff {updates : List Update} {a b : VectorId} :
    b ∈ (build updates).dependents a ↔ ∃ update ∈ updates, update.Joins a b := by
  induction updates using List.reverseRecOn with
  | nil => simp [build, dependents, empty]
  | append_singleton updates update ih =>
    have hstep : b ∈ (update.apply (build updates)).dependents a ↔
        b ∈ (build updates).dependents a ∨ update.Joins a b := by
      cases update with
      | link operand derived => exact mem_dependents_link
      | register derivation => exact mem_dependents_register
    rw [build_concat, hstep, ih]
    simp only [List.mem_append, List.mem_singleton, or_and_right, exists_or, exists_eq_left]

/-! ## Records -/

theorem mem_keys_build (updates : List Update) (id : VectorId) :
    id ∈ (build updates).records.keys ↔ id ∈ registered updates := by
  induction updates using List.reverseRecOn with
  | nil => rfl
  | append_singleton updates update ih =>
    rw [build_concat]
    cases update with
    | link operand derived => rw [Update.apply, records_link, registered_concat_link, ih]
    | register derivation =>
      rw [Update.apply, records_register, Table.keys_put, registered_concat_register,
        List.mem_append, ← ih, List.mem_singleton]
      split
      · rename_i hknown
        exact ⟨.inl, fun h => h.elim (fun hid => hid) fun hid => hid ▸ hknown⟩
      · rw [List.mem_append, List.mem_singleton]

theorem nodup_keys_build (updates : List Update) : (build updates).records.keys.Nodup := by
  induction updates using List.reverseRecOn with
  | nil => exact List.nodup_nil
  | append_singleton updates update ih =>
    rw [build_concat]
    cases update with
    | link operand derived => exact ih
    | register derivation =>
      rw [Update.apply, records_register]
      exact Table.nodup_keys_put ih _ _

/-- There are as many records as different vectors were registered. -/
theorem size_records_build (updates : List Update) :
    (build updates).records.size = (registered updates).toFinset.card := by
  have hkeys : (build updates).records.keys.toFinset = (registered updates).toFinset := by
    ext id
    rw [List.mem_toFinset, List.mem_toFinset, mem_keys_build]
  rw [← hkeys, List.toFinset_card_of_nodup (nodup_keys_build updates), Table.keys, List.length_map,
    Table.size]

/-- **Later updates change no record** but those of the vectors that they register. -/
theorem get?_records_build_append (first : List Update) {later : List Update} {id : VectorId}
    (h : id ∉ registered later) :
    (build (first ++ later)).records.get? id = (build first).records.get? id := by
  induction later using List.reverseRecOn with
  | nil => rw [List.append_nil]
  | append_singleton later update ih =>
    rw [← List.append_assoc, build_concat]
    cases update with
    | link operand derived =>
      rw [registered_concat_link] at h
      exact ih h
    | register derivation =>
      rw [registered_concat_register, List.mem_append, List.mem_singleton, not_or] at h
      rw [Update.apply, records_register, Table.get?_put_ne _ _ h.2, ih h.1]

/-- **The record of a vector** is that of its latest registration, and its number is how many
different vectors were registered before. -/
theorem get?_records_build_register (before after : List Update) {derivation : Derivation}
    (h : derivation.target ∉ registered after) :
    (build (before ++ .register derivation :: after)).records.get? derivation.target =
      some ⟨derivation, (registered before).toFinset.card⟩ := by
  rw [List.append_cons, get?_records_build_append _ h, build_concat, Update.apply, records_register,
    Table.get?_put_self, size_records_build]

theorem rank_build_register (before after : List Update) {derivation : Derivation}
    (h : derivation.target ∉ registered after) :
    (build (before ++ .register derivation :: after)).rank derivation.target =
      ((registered before).toFinset.card : Int) := by
  rw [rank, get?_records_build_register before after h]

theorem rank_build_of_notMem {updates : List Update} {id : VectorId}
    (h : id ∉ registered updates) : (build updates).rank id = -1 := by
  rw [← mem_keys_build, ← Table.isSome_get?_iff, Option.not_isSome_iff_eq_none] at h
  rw [rank, h]

theorem rank_build_nonneg {updates : List Update} {id : VectorId}
    (h : id ∈ registered updates) : 0 ≤ (build updates).rank id := by
  rw [← mem_keys_build, ← Table.isSome_get?_iff, Option.isSome_iff_exists] at h
  obtain ⟨record, hrecord⟩ := h
  rw [rank, hrecord]
  exact Int.natCast_nonneg _

/-! ## The order of a search -/

/-- What a search finds, in the order in which it discovers it. -/
def discovered (graph : DependencyGraph) (start : VectorId) (follow : VectorId → Bool) :
    List VectorId :=
  graph.discover (graph.derived.filter fun id => id != start && follow id)
    (graph.dependents start).reverse

theorem mem_discovered_iff {graph : DependencyGraph} {start id : VectorId}
    {follow : VectorId → Bool} :
    id ∈ graph.discovered start follow ↔ id ∈ graph.reachable start follow :=
  List.mem_mergeSort.symm

/-- One vector stands before another in a list. -/
def Before (ids : List VectorId) (a b : VectorId) : Prop := [a, b].Sublist ids

/-- Of two members one stands before the other. -/
theorem before_total {ids : List VectorId} {a b : VectorId} (ha : a ∈ ids) (hb : b ∈ ids)
    (hne : a ≠ b) : Before ids a b ∨ Before ids b a := by
  obtain ⟨front, back, rfl⟩ := List.append_of_mem ha
  rw [List.mem_append, List.mem_cons] at hb
  rcases hb with hfront | heq | hback
  · exact .inr ((List.singleton_sublist.2 hfront).append
      (List.singleton_sublist.2 List.mem_cons_self))
  · exact absurd heq.symm hne
  · exact .inl (((List.singleton_sublist.2 hback).cons_cons a).trans
      (List.sublist_append_right front (a :: back)))

section Order

variable {graph : DependencyGraph} {start a b : VectorId} {follow : VectorId → Bool}

theorem rank_le_of_before (h : Before (graph.reachable start follow) a b) :
    graph.rank a ≤ graph.rank b :=
  List.pairwise_iff_forall_sublist.1 (pairwise_rank_reachable graph start follow) h

/-- Sorting leaves two vectors as they were discovered, unless their numbers say otherwise. -/
theorem before_reachable_of_discovered (hrank : graph.rank a ≤ graph.rank b)
    (h : Before (graph.discovered start follow) a b) :
    Before (graph.reachable start follow) a b := by
  refine List.pair_sublist_mergeSort ?_ ?_ (decide_eq_true hrank) h
  · intro x y z hxy hyz
    simp only [decide_eq_true_eq] at hxy hyz ⊢
    exact Int.le_trans hxy hyz
  · intro x y
    simp only [Bool.or_eq_true, decide_eq_true_eq]
    exact Int.le_total _ _

/-- **The order of a search**: the smaller number comes first, and of two vectors of one number the
one that was discovered first. -/
theorem before_reachable_iff (ha : a ∈ graph.reachable start follow)
    (hb : b ∈ graph.reachable start follow) (hne : a ≠ b) :
    Before (graph.reachable start follow) a b ↔ graph.rank a < graph.rank b ∨
      graph.rank a = graph.rank b ∧ Before (graph.discovered start follow) a b := by
  constructor
  · intro h
    rcases Int.lt_or_eq_of_le (rank_le_of_before h) with hlt | heq
    · exact .inl hlt
    · refine .inr ⟨heq, ?_⟩
      have hdiscovered := before_total (mem_discovered_iff.2 ha) (mem_discovered_iff.2 hb) hne
      rcases hdiscovered with hfirst | hlater
      · exact hfirst
      · have hback := before_reachable_of_discovered (Int.le_of_eq heq.symm) hlater
        exact absurd hback (not_pair_sublist_swap (nodup_reachable graph start follow) h)
  · rintro (hlt | ⟨heq, hfirst⟩)
    · rcases before_total ha hb hne with hbefore | hback
      · exact hbefore
      · exact absurd (rank_le_of_before hback) (Int.not_le.2 hlt)
    · exact before_reachable_of_discovered (Int.le_of_eq heq) hfirst

end Order

/-! ## Repeated registrations -/

/-- The last occurrence of a value in a list that is mapped. -/
theorem exists_last_of_mem_map {α β : Type} {f : α → β} {b : β} {members : List α}
    (h : b ∈ members.map f) :
    ∃ before a after, members = before ++ a :: after ∧ f a = b ∧ b ∉ after.map f := by
  induction members with
  | nil => cases h
  | cons a rest ih =>
    by_cases hrest : b ∈ rest.map f
    · obtain ⟨before, last, after, rfl, hlast, hafter⟩ := ih hrest
      exact ⟨a :: before, last, after, rfl, hlast, hafter⟩
    · rw [List.map_cons, List.mem_cons, or_iff_left hrest] at h
      exact ⟨[], a, rest, rfl, h.symm, hrest⟩

/-- The graph of registrations alone. -/
def record (registrations : List Derivation) : DependencyGraph :=
  build (registrations.map .register)

variable {registrations before after : List Derivation} {derivation : Derivation}

theorem rank_record (h : derivation.target ∉ after.map Derivation.target) :
    (record (before ++ derivation :: after)).rank derivation.target =
      ((before.map Derivation.target).toFinset.card : Int) := by
  rw [← registered_map_register] at h ⊢
  rw [record, List.map_append, List.map_cons]
  exact rank_build_register _ _ h

theorem derivation?_record (h : derivation.target ∉ after.map Derivation.target) :
    (record (before ++ derivation :: after)).derivation? derivation.target = some derivation := by
  rw [← registered_map_register] at h
  rw [derivation?, record, List.map_append, List.map_cons, get?_records_build_register _ _ h]
  rfl

/-- **The derivation of a vector is the latest** that was registered for it. -/
theorem exists_of_derivation?_record {id : VectorId}
    (h : (record registrations).derivation? id = some derivation) :
    ∃ before after, registrations = before ++ derivation :: after ∧ derivation.target = id ∧
      id ∉ after.map Derivation.target := by
  have hmem : id ∈ registrations.map Derivation.target := by
    rw [← registered_map_register, ← mem_keys_build, ← Table.isSome_get?_iff]
    obtain ⟨found, hfound, -⟩ := derivation?_eq_some_iff.1 h
    exact Option.isSome_iff_exists.2 ⟨found, hfound⟩
  obtain ⟨before, last, after, rfl, rfl, hafter⟩ := exists_last_of_mem_map hmem
  obtain rfl : last = derivation := Option.some.inj ((derivation?_record hafter).symm.trans h)
  exact ⟨before, after, rfl, rfl, hafter⟩

theorem mem_targets_of_mem_dependents {a b : VectorId}
    (h : b ∈ (record registrations).dependents a) : b ∈ registrations.map Derivation.target := by
  obtain ⟨update, hupdate, hjoins⟩ := mem_dependents_build_iff.1 h
  obtain ⟨derivation, hderivation, rfl⟩ := List.mem_map.1 hupdate
  rw [hjoins.2]
  exact List.mem_map_of_mem hderivation

/-- A search finds nothing but registered vectors. -/
theorem mem_targets_of_mem_reachable {start id : VectorId} {follow : VectorId → Bool}
    (h : id ∈ (record registrations).reachable start follow) :
    id ∈ registrations.map Derivation.target := by
  obtain ⟨operand, -, hedge, -⟩ := TransGen.tail'_iff.1 (mem_reachable_iff.1 h)
  exact mem_targets_of_mem_dependents hedge

/-- A vector was registered again, and from then on nothing was registered for the first time. -/
def JustRepeated (registrations : List Derivation) (id : VectorId) : Prop :=
  ∃ first run, registrations = first ++ run ∧ id ∈ run.map Derivation.target ∧
    ∀ derivation ∈ run, derivation.target ∈ first.map Derivation.target

theorem JustRepeated.mem {id : VectorId} (h : JustRepeated registrations id) :
    id ∈ registrations.map Derivation.target := by
  obtain ⟨first, run, rfl, hmem, -⟩ := h
  rw [List.map_append]
  exact List.mem_append_right _ hmem

/-- Whether a vector was just repeated can be told from its latest registration. -/
theorem justRepeated_iff (h : derivation.target ∉ after.map Derivation.target) :
    JustRepeated (before ++ derivation :: after) derivation.target ↔
      ∀ later ∈ derivation :: after, later.target ∈ before.map Derivation.target := by
  constructor
  · rintro ⟨first, run, hsplit, hmem, hrun⟩
    rcases List.append_eq_append_iff.1 hsplit with ⟨middle, rfl, hrest⟩ | ⟨middle, rfl, rfl⟩
    · -- the run would begin after the latest registration
      cases middle with
      | nil =>
        rw [List.append_nil] at hrun
        rw [hrest]
        exact hrun
      | cons d middle =>
        have hafter : after = middle ++ run := (List.cons.inj hrest).2
        rw [hafter, List.map_append, List.mem_append, not_or] at h
        exact absurd hmem h.2
    · intro later hlater
      rw [List.map_append]
      exact List.mem_append_left _ (hrun later (List.mem_append_right _ hlater))
  · intro hrepeated
    exact ⟨before, derivation :: after, rfl, by simp, hrepeated⟩

/-- More registrations are of no fewer vectors, and of as many only if all of them are repeats. -/
theorem card_targets_append (first run : List Derivation) :
    (first.map Derivation.target).toFinset.card ≤
        ((first ++ run).map Derivation.target).toFinset.card ∧
      ((first.map Derivation.target).toFinset.card =
          ((first ++ run).map Derivation.target).toFinset.card ↔
        ∀ derivation ∈ run, derivation.target ∈ first.map Derivation.target) := by
  have hsub : (first.map Derivation.target).toFinset ⊆
      ((first ++ run).map Derivation.target).toFinset := by
    intro id hid
    rw [List.mem_toFinset] at hid ⊢
    rw [List.map_append]
    exact List.mem_append_left _ hid
  refine ⟨Finset.card_le_card hsub, ?_, ?_⟩
  · intro hcard derivation hderivation
    have hsame := Finset.eq_of_subset_of_card_le hsub (Nat.le_of_eq hcard.symm)
    rw [← List.mem_toFinset, hsame, List.mem_toFinset, List.map_append]
    exact List.mem_append_right _ (List.mem_map_of_mem hderivation)
  · intro hrun
    refine Nat.le_antisymm (Finset.card_le_card hsub) (Finset.card_le_card fun id hid => ?_)
    rw [List.mem_toFinset, List.map_append, List.mem_append] at hid
    rw [List.mem_toFinset]
    rcases hid with hfirst | hrepeat
    · exact hfirst
    · obtain ⟨derivation, hderivation, rfl⟩ := List.mem_map.1 hrepeat
      exact hrun derivation hderivation

/-- **Numbers never fall**: what was registered before a latest registration and not after it has no
greater number, and the same number just where it was repeated right before. -/
theorem rank_record_earlier {id : VectorId} (hbefore : id ∈ before.map Derivation.target)
    (hlater : id ∉ (derivation :: after).map Derivation.target)
    (h : derivation.target ∉ after.map Derivation.target) :
    (record (before ++ derivation :: after)).rank id ≤
        (record (before ++ derivation :: after)).rank derivation.target ∧
      ((record (before ++ derivation :: after)).rank id =
          (record (before ++ derivation :: after)).rank derivation.target ↔
        JustRepeated before id) := by
  obtain ⟨first, last, middle, rfl, rfl, hmiddle⟩ := exists_last_of_mem_map hbefore
  have hlatest : last.target ∉ (middle ++ derivation :: after).map Derivation.target := by
    rw [List.map_append, List.mem_append, not_or]
    exact ⟨hmiddle, hlater⟩
  have hrank : (record (first ++ last :: (middle ++ derivation :: after))).rank last.target =
      ((first.map Derivation.target).toFinset.card : Int) := rank_record hlatest
  obtain ⟨hle, heq⟩ := card_targets_append first (last :: middle)
  rw [justRepeated_iff hmiddle, ← heq, rank_record h, List.append_assoc, List.cons_append, hrank]
  exact ⟨Int.ofNat_le.2 hle, Int.ofNat_inj⟩

/-- What is registered later has no smaller number. -/
theorem rank_record_later {id : VectorId} (hlater : id ∈ after.map Derivation.target)
    (h : derivation.target ∉ after.map Derivation.target) :
    (record (before ++ derivation :: after)).rank derivation.target ≤
      (record (before ++ derivation :: after)).rank id := by
  rw [rank_record h]
  obtain ⟨first, last, rest, rfl, rfl, hrest⟩ := exists_last_of_mem_map hlater
  have hrank : (record ((before ++ derivation :: first) ++ last :: rest)).rank last.target =
      (((before ++ derivation :: first).map Derivation.target).toFinset.card : Int) :=
    rank_record hrest
  rw [List.append_assoc, List.cons_append] at hrank
  rw [hrank]
  exact Int.ofNat_le.2 (card_targets_append before (derivation :: first)).1

/-! ## Operands -/

/-- Registrations in which no vector is derived from itself, and none is registered again while it
is an operand of the derivation of some vector.  (While it is no operand nothing depends on it, the
operands of its new derivation included.) -/
structure Orderly (registrations : List Derivation) : Prop where
  loopless : ∀ derivation ∈ registrations, derivation.target ∉ derivation.vectorOperands
  unused : ∀ before derivation after, registrations = before ++ derivation :: after →
    derivation.target ∈ before.map Derivation.target →
    ∀ id found, (record before).derivation? id = some found →
      derivation.target ∉ found.vectorOperands

/-- Registrations are orderly if no vector is registered again once it has been an operand. -/
theorem orderly_of_pairwise
    (hloopless : ∀ derivation ∈ registrations, derivation.target ∉ derivation.vectorOperands)
    (h : registrations.Pairwise fun earlier later => later.target ∉ earlier.vectorOperands) :
    Orderly registrations where
  loopless := hloopless
  unused := by
    rintro before derivation after rfl - id found hfound
    obtain ⟨front, back, rfl, -, -⟩ := exists_of_derivation?_record hfound
    exact (List.pairwise_append.1 h).2.2 found (by simp) derivation List.mem_cons_self

/-- **An operand is not registered again** as long as the derivation that uses it is the latest of
its vector. -/
theorem Orderly.notMem_after (h : Orderly (before ++ derivation :: after))
    (hlatest : derivation.target ∉ after.map Derivation.target) {operand : VectorId}
    (hoperand : operand ∈ derivation.vectorOperands)
    (hbefore : operand ∈ before.map Derivation.target) :
    operand ∉ (derivation :: after).map Derivation.target := by
  rw [List.map_cons, List.mem_cons, not_or]
  constructor
  · rintro rfl
    exact h.loopless derivation (by simp) hoperand
  · intro hafter
    obtain ⟨first, again, rest, rfl, rfl, -⟩ := exists_last_of_mem_map hafter
    rw [List.map_append, List.mem_append, not_or] at hlatest
    refine h.unused (before ++ derivation :: first) again rest (by simp) ?_ derivation.target
      derivation (derivation?_record hlatest.1) hoperand
    rw [List.map_append]
    exact List.mem_append_left _ hbefore

/-- **Where operands stand.**  After registrations that are orderly, and for every search, let an
operand of the current derivation of a vector be found together with it.

If the operand was registered before that derivation and not just repeated then, it stands before
the vector.  If it was just repeated, the two have one number, and the order is that of their
discovery, which can be either.  The operand may also have been registered for the first time after
the derivation that uses it; then it stands before the vector only where the two happen to have one
number and it is discovered first. -/
theorem before_of_orderly (h : Orderly registrations) {start vector operand : VectorId}
    {follow : VectorId → Bool} (hvector : vector ∈ (record registrations).reachable start follow)
    (hfound : operand ∈ (record registrations).reachable start follow)
    (hd : (record registrations).derivation? vector = some derivation)
    (hoperand : operand ∈ derivation.vectorOperands) :
    ∃ before after, registrations = before ++ derivation :: after ∧
      vector ∉ after.map Derivation.target ∧
      (operand ∈ before.map Derivation.target → ¬ JustRepeated before operand →
        Before ((record registrations).reachable start follow) operand vector) ∧
      (JustRepeated before operand →
        (Before ((record registrations).reachable start follow) operand vector ↔
          Before ((record registrations).discovered start follow) operand vector)) ∧
      (operand ∉ before.map Derivation.target →
        (Before ((record registrations).reachable start follow) operand vector ↔
          (record registrations).rank operand = (record registrations).rank vector ∧
            Before ((record registrations).discovered start follow) operand vector)) := by
  obtain ⟨before, after, rfl, rfl, hlatest⟩ := exists_of_derivation?_record hd
  have hne : operand ≠ derivation.target := by
    rintro rfl
    exact h.loopless derivation (by simp) hoperand
  have horder := before_reachable_iff hfound hvector hne
  refine ⟨before, after, rfl, hlatest, ?_, ?_, ?_⟩
  · intro hbefore hrepeated
    obtain ⟨hle, heq⟩ := rank_record_earlier hbefore
      (h.notMem_after hlatest hoperand hbefore) hlatest
    exact horder.2 (.inl (lt_of_le_of_ne hle fun hsame => hrepeated (heq.1 hsame)))
  · intro hrepeated
    have hbefore := hrepeated.mem
    have hsame := (rank_record_earlier hbefore
      (h.notMem_after hlatest hoperand hbefore) hlatest).2.2 hrepeated
    rw [horder, hsame]
    simp
  · intro hbefore
    have hafter : operand ∈ after.map Derivation.target := by
      have hmem := mem_targets_of_mem_reachable hfound
      rw [List.map_append, List.map_cons, List.mem_append, List.mem_cons] at hmem
      exact (hmem.resolve_left hbefore).resolve_left hne
    have hle : (record (before ++ derivation :: after)).rank derivation.target ≤
        (record (before ++ derivation :: after)).rank operand := rank_record_later hafter hlatest
    rw [horder, or_iff_right (Int.not_lt.2 hle)]

/-- Something is derived from the vector 0, and then derived in another way.  Another vector is
derived from it for the first time, and at last the sum of the first and of the vector 0 is made. -/
def spacedSum : List Derivation :=
  [⟨"*", .vector 0, .number 2, 1⟩, ⟨"+", .vector 0, .vector 0, 1⟩, ⟨"*", .vector 0, .number 3, 3⟩,
    ⟨"+", .vector 1, .vector 0, 2⟩]

/-- In `spacedSum` the operand comes first. -/
theorem before_spacedSum :
    (Orderly spacedSum ∧ 2 ∈ (record spacedSum).reachable 0 (fun _ => true) ∧
      1 ∈ (record spacedSum).reachable 0 (fun _ => true) ∧
      (record spacedSum).derivation? 2 = some ⟨"+", .vector 1, .vector 0, 2⟩) ∧
      Before ((record spacedSum).reachable 0 fun _ => true) 1 2 := by
  have horderly : Orderly spacedSum := orderly_of_pairwise (by decide) (by decide)
  have hvector : 2 ∈ (record spacedSum).reachable 0 (fun _ => true) :=
    mem_reachable_iff.2 (.single ⟨by decide, by decide⟩)
  have hfound : 1 ∈ (record spacedSum).reachable 0 (fun _ => true) :=
    mem_reachable_iff.2 (.single ⟨by decide, by decide⟩)
  have hd : (record spacedSum).derivation? 2 = some ⟨"+", .vector 1, .vector 0, 2⟩ := rfl
  have hoperand : 1 ∈ (⟨"+", .vector 1, .vector 0, 2⟩ : Derivation).vectorOperands := by decide
  have hspaced : ¬ JustRepeated spacedSum.dropLast 1 := by
    have hlatest : JustRepeated ([⟨"*", .vector 0, .number 2, 1⟩] ++
        ⟨"+", .vector 0, .vector 0, 1⟩ :: [⟨"*", .vector 0, .number 3, 3⟩]) 1 ↔ _ :=
      justRepeated_iff (by decide)
    exact fun h => absurd (hlatest.1 h) (by decide)
  refine ⟨⟨horderly, hvector, hfound, hd⟩, ?_⟩
  obtain ⟨before, after, hsplit, hafter, hearlier, -, -⟩ :=
    before_of_orderly horderly hvector hfound hd hoperand
  -- the vector 2 is registered only at the end
  obtain rfl : after = [] := by
    rcases List.eq_nil_or_concat' after with hnil | ⟨middle, last, rfl⟩
    · exact hnil
    · have hlast := congrArg List.getLast? hsplit
      rw [← List.cons_append, ← List.append_assoc, List.getLast?_concat] at hlast
      obtain rfl := Option.some.inj hlast
      exact absurd (by simp) hafter
  obtain rfl : spacedSum.dropLast = before := by
    rw [hsplit, List.dropLast_concat]
  exact hearlier (by decide) hspaced

/-- The same without the vector between them. -/
def repeatedSum : List Derivation :=
  [⟨"*", .vector 0, .number 2, 1⟩, ⟨"+", .vector 0, .vector 0, 1⟩,
    ⟨"+", .vector 1, .vector 0, 2⟩]

/-- **An operand can come after what is derived from it.**  The registrations `repeatedSum` are
orderly, and nothing depends on the vector 1 when it is registered again. -/
theorem order_lost_by_repetition :
    Orderly repeatedSum ∧ (record (repeatedSum.take 1)).dependents 1 = [] ∧
      (record repeatedSum).derivation? 2 = some ⟨"+", .vector 1, .vector 0, 2⟩ ∧
      (record repeatedSum).reachable 0 (fun _ => true) = [2, 1] := by
  have hfound : (record repeatedSum).discovered 0 (fun _ => true) = [2, 1] := by
    have hfresh : ((record repeatedSum).derived.filter fun id => id != 0 && true) = [1, 2, 2] := by
      decide
    have hfirst : (record repeatedSum).dependents 0 = [1, 2] := by decide
    have hsecond : (record repeatedSum).dependents 1 = [2] := by decide
    have hthird : (record repeatedSum).dependents 2 = [] := by decide
    rw [discovered, hfresh, hfirst]
    simp [discover, hsecond, hthird, without]
  have hranks : (record repeatedSum).rank 2 = 1 ∧ (record repeatedSum).rank 1 = 1 := by decide
  refine ⟨orderly_of_pairwise (by decide) (by decide), by decide, rfl, ?_⟩
  change ((record repeatedSum).discovered 0 fun _ => true).mergeSort _ = _
  rw [hfound, List.mergeSort_of_pairwise]
  simp [hranks]

end DependencyGraph
end LiveVectors

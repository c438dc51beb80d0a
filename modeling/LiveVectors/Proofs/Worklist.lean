import LiveVectors.Proofs.Registration
import Mathlib.Algebra.GroupWithZero.Nat
import Mathlib.Logic.Function.Iterate

/-!
# The loop of a search

`discover` says what a search finds by recursion on what is still fresh.  The search itself is a
loop: it remembers what it has found, and at each turn it takes a vector off its stack, which it
skips or finds.  A vector can stand on the stack often, and on a cycle the stack can grow at turn
after turn, so it is not the stack that says when the loop ends.

* `Search.turn` — one turn of the loop.
* `iterate_turn` — **the loop ends**: the number of its turns is what stood on the stack together
  with the edges from all that it finds, and then it has found what `discover` says.
* `reachable_build` — the result: what a search of any graph gives, and in which order.
-/

set_option autoImplicit false

namespace LiveVectors
namespace DependencyGraph

open Relation

/-- A search between two turns. -/
structure Search where
  /-- What has been found, in the order in which it was. -/
  found : List VectorId
  /-- What is to be looked at, the next vector first. -/
  stack : List VectorId
deriving DecidableEq

/-- One turn takes a vector off the stack.  If it has been found already, is the start or fails the
test, it is skipped.  Otherwise it is found, and all vectors derived from it go on the stack. -/
def Search.turn (graph : DependencyGraph) (start : VectorId) (follow : VectorId → Bool)
    (search : Search) : Search :=
  match search.stack with
  | [] => search
  | id :: rest =>
    if id ∈ search.found ∨ id = start ∨ follow id = false then { search with stack := rest }
    else ⟨search.found ++ [id], (graph.dependents id).reverse ++ rest⟩

/-- How many edges begin at the vectors of a list. -/
def outgoing (graph : DependencyGraph) (ids : List VectorId) : Nat :=
  (ids.map fun id => (graph.dependents id).length).sum

theorem outgoing_cons (graph : DependencyGraph) (id : VectorId) (ids : List VectorId) :
    graph.outgoing (id :: ids) = (graph.dependents id).length + graph.outgoing ids := by
  rw [outgoing, List.map_cons, List.sum_cons]
  rfl

section Loop

variable {graph : DependencyGraph} {start id : VectorId} {follow : VectorId → Bool}
  {found rest : List VectorId}

theorem turn_skip (h : id ∈ found ∨ id = start ∨ follow id = false) :
    Search.turn graph start follow ⟨found, id :: rest⟩ = ⟨found, rest⟩ :=
  if_pos h

theorem turn_find (h : ¬ (id ∈ found ∨ id = start ∨ follow id = false)) :
    Search.turn graph start follow ⟨found, id :: rest⟩ =
      ⟨found ++ [id], (graph.dependents id).reverse ++ rest⟩ :=
  if_neg h

/-- **The loop ends.**  Each vector is found at most once, and only then its edges go on the stack;
so there are as many turns as vectors on the stack and edges from what will be found. -/
theorem iterate_turn {fresh stack : List VectorId}
    (hfresh : ∀ id ∈ graph.derived,
      id ∈ fresh ↔ ¬ (id ∈ found ∨ id = start ∨ follow id = false))
    (hstack : ∀ id ∈ stack, id ∈ graph.derived) :
    (Search.turn graph start follow)^[stack.length + graph.outgoing (graph.discover fresh stack)]
        ⟨found, stack⟩ = ⟨found ++ graph.discover fresh stack, []⟩ := by
  fun_induction discover graph fresh stack generalizing found with
  | case1 =>
    rw [List.append_nil]
    rfl
  | case2 fresh id rest hid ih =>
    obtain ⟨hderived, hrest⟩ := List.forall_mem_cons.1 hstack
    have hleft : ∀ other ∈ graph.derived, other ∈ without id fresh ↔
        ¬ (other ∈ found ++ [id] ∨ other = start ∨ follow other = false) := by
      intro other hother
      rw [mem_without, hfresh other hother, List.mem_append, List.mem_singleton]
      tauto
    have hgrown : ∀ other ∈ (graph.dependents id).reverse ++ rest, other ∈ graph.derived := by
      intro other hother
      rcases List.mem_append.1 hother with hdependent | hold
      · exact mem_derived (List.mem_reverse.1 hdependent)
      · exact hrest other hold
    have hturns (later : List VectorId) :
        (id :: rest).length + graph.outgoing (id :: later) =
          ((graph.dependents id).reverse ++ rest).length + graph.outgoing later + 1 := by
      rw [outgoing_cons, List.length_cons, List.length_append, List.length_reverse]
      omega
    rw [hturns, Function.iterate_succ_apply, turn_find ((hfresh id hderived).1 hid),
      ih hleft hgrown, List.append_assoc, List.singleton_append]
  | case3 fresh id rest hid ih =>
    obtain ⟨hderived, hrest⟩ := List.forall_mem_cons.1 hstack
    have hskip := not_not.1 (mt (hfresh id hderived).2 hid)
    rw [List.length_cons, Nat.add_right_comm, Function.iterate_succ_apply, turn_skip hskip,
      ih hfresh hrest]

/-- The loop that starts with what is derived from the start ends with what the search discovers. -/
theorem iterate_turn_discovered (graph : DependencyGraph) (start : VectorId)
    (follow : VectorId → Bool) :
    (Search.turn graph start follow)^[graph.outgoing (start :: graph.discovered start follow)]
        ⟨[], (graph.dependents start).reverse⟩ = ⟨graph.discovered start follow, []⟩ := by
  have hfresh : ∀ id ∈ graph.derived,
      id ∈ graph.derived.filter (fun id => id != start && follow id) ↔
        ¬ (id ∈ ([] : List VectorId) ∨ id = start ∨ follow id = false) := by
    intro id hid
    simp [hid]
  have hstack : ∀ id ∈ (graph.dependents start).reverse, id ∈ graph.derived :=
    fun id hid => mem_derived (List.mem_reverse.1 hid)
  have hloop := iterate_turn hfresh hstack
  rwa [List.length_reverse, List.nil_append, ← discovered, ← outgoing_cons] at hloop

end Loop

/-- What is registered has a greater number than what is not. -/
theorem registered_of_rank_le {updates : List Update} {a b : VectorId}
    (h : (build updates).rank a ≤ (build updates).rank b) (ha : a ∈ registered updates) :
    b ∈ registered updates := by
  by_contra hb
  have hnonneg := rank_build_nonneg ha
  rw [rank_build_of_notMem hb] at h
  omega

/-- **Searching any graph.**  Let a graph be built by any edges and registrations, with edges from a
vector to itself and cycles as they come, and let any start and any test be given.

The loop of the search ends, after as many turns as there are edges from the start and from what it
finds, and what it found is sorted by number.  The result has no vector twice, and its members are
the ends of the non-empty paths of edges from the start on which every later vector passes the test
and is not the start.  It is ordered by number; what was never registered has the number -1 and
comes first, and the number of a registered vector is how many different vectors had been
registered before it was registered last. -/
theorem reachable_build (updates : List Update) (start : VectorId) (follow : VectorId → Bool) :
    (∃ found, (Search.turn (build updates) start follow)^[(build updates).outgoing (start :: found)]
          ⟨[], ((build updates).dependents start).reverse⟩ = ⟨found, []⟩ ∧
        (build updates).reachable start follow =
          found.mergeSort fun a b => (build updates).rank a ≤ (build updates).rank b) ∧
      ((build updates).reachable start follow).Nodup ∧
      (∀ id, id ∈ (build updates).reachable start follow ↔
        TransGen (fun a b => b ∈ (build updates).dependents a ∧ b ≠ start ∧ follow b = true)
          start id) ∧
      (∀ a b, b ∈ (build updates).dependents a ↔ ∃ update ∈ updates, update.Joins a b) ∧
      (((build updates).reachable start follow).Pairwise fun a b =>
        (build updates).rank a ≤ (build updates).rank b ∧
          (a ∈ registered updates → b ∈ registered updates)) ∧
      (∀ id ∉ registered updates, (build updates).rank id = -1) ∧
      (∀ before derivation after, updates = before ++ .register derivation :: after →
        derivation.target ∉ registered after →
        (build updates).rank derivation.target = ((registered before).toFinset.card : Int)) := by
  refine ⟨⟨_, iterate_turn_discovered _ start follow, rfl⟩, nodup_reachable _ start follow,
    fun id => mem_reachable_iff, fun a b => mem_dependents_build_iff, ?_,
    fun id => rank_build_of_notMem, ?_⟩
  · exact (pairwise_rank_reachable _ start follow).imp fun h =>
      ⟨h, registered_of_rank_le h⟩
  · rintro before derivation after rfl hlatest
    exact rank_build_register before after hlatest

/-- On a cycle with an edge from a vector to itself the stack grows to three vectors. -/
example :
    let graph := build [.link 0 1, .link 1 0, .link 1 1, .link 1 2]
    let search : Search := ⟨[], [1]⟩
    (search.turn graph 0 fun _ => true) = ⟨[1], [2, 1, 0]⟩ ∧
      (Search.turn graph 0 fun _ => true)^[4] search = ⟨[1, 2], []⟩ := by
  decide

end DependencyGraph
end LiveVectors

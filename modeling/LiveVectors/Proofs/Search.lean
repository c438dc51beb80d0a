import LiveVectors.Live.Dependency
import Mathlib.Data.List.Perm.Basic
import Mathlib.Logic.Relation

/-!
# What the search of the dependency graph finds

`DependencyGraph.discover` is a worklist search: it keeps a list of vectors that it has not met yet
and a stack of vectors to look at, and the stack can grow on the way.  This file says what comes
out of it, for every graph, cycles included.

* `Edge graph enter` is the step relation of a search: along an edge into a vector that `enter`
  accepts.
* `mem_discover_iff` — a search discovers exactly the fresh vectors at the end of a path of fresh
  vectors that begins on the stack, and `nodup_discover` — it discovers each of them once.
* `mem_reachable_iff`, `nodup_reachable` and `pairwise_rank_reachable` carry this over to
  `reachable`: the end points of the non-empty paths from the start, each once, sorted by rank.
-/

set_option autoImplicit false

namespace LiveVectors
namespace DependencyGraph

open Relation

/-- Of two members of a list without repetitions only one stands before the other. -/
theorem not_pair_sublist_swap {α : Type} {members : List α} {a b : α} (hnodup : members.Nodup)
    (h : [a, b].Sublist members) : ¬ [b, a].Sublist members := by
  intro hback
  have hsame : [a, b] = [b, a] := (hnodup.perm_iff_eq_of_sublist h hback).1 (.swap b a [])
  have hapart : [a, b].Nodup := hnodup.sublist h
  obtain ⟨rfl, -⟩ := List.cons.inj hsame
  simp at hapart

/-! ## Steps of a search -/

/-- There is an edge from `a` to `b`, and a search may enter `b`. -/
def Edge (graph : DependencyGraph) (enter : VectorId → Prop) (a b : VectorId) : Prop :=
  b ∈ graph.dependents a ∧ enter b

theorem Edge.mono {graph : DependencyGraph} {p q : VectorId → Prop} (hpq : ∀ id, p id → q id)
    {a b : VectorId} (h : graph.Edge p a b) : graph.Edge q a b :=
  ⟨h.1, hpq b h.2⟩

theorem mem_without {id other : VectorId} {ids : List VectorId} :
    other ∈ without id ids ↔ other ∈ ids ∧ other ≠ id := by
  simp [without]

/-- **A path can be cut where it last meets a vector.**  What is left of it begins either at the
old start or right after that vector, and does not meet the vector again. -/
theorem path_avoid {graph : DependencyGraph} {fresh : List VectorId} {id a b : VectorId}
    (h : ReflTransGen (graph.Edge (· ∈ fresh)) a b) (hb : b ≠ id) :
    (a ≠ id ∧ ReflTransGen (graph.Edge (· ∈ without id fresh)) a b) ∨
      ∃ next, graph.Edge (· ∈ without id fresh) id next ∧
        ReflTransGen (graph.Edge (· ∈ without id fresh)) next b := by
  induction h using ReflTransGen.head_induction_on with
  | refl => exact .inl ⟨hb, .refl⟩
  | @head a next hstep _ ih =>
    rcases ih with ⟨hnext, hpath⟩ | hlater
    · have hedge : graph.Edge (· ∈ without id fresh) a next :=
        ⟨hstep.1, mem_without.2 ⟨hstep.2, hnext⟩⟩
      by_cases ha : a = id
      · subst ha
        exact .inr ⟨next, hedge, hpath⟩
      · exact .inl ⟨ha, .head hedge hpath⟩
    · exact .inr hlater

theorem path_without {graph : DependencyGraph} {fresh : List VectorId} {id a b : VectorId}
    (h : ReflTransGen (graph.Edge (· ∈ without id fresh)) a b) :
    ReflTransGen (graph.Edge (· ∈ fresh)) a b := by
  have hle : graph.Edge (· ∈ without id fresh) ≤ graph.Edge (· ∈ fresh) :=
    fun _ _ hstep => hstep.mono fun _ hmem => (mem_without.1 hmem).1
  exact ReflTransGen.mono hle _ _ h

/-! ## The worklist search -/

/-- **The search is sound and complete**: it discovers exactly the end points of the paths of
fresh vectors that begin on the stack. -/
theorem mem_discover_iff (graph : DependencyGraph) (fresh stack : List VectorId) (b : VectorId) :
    b ∈ graph.discover fresh stack ↔
      ∃ a ∈ stack, a ∈ fresh ∧ ReflTransGen (graph.Edge (· ∈ fresh)) a b := by
  fun_induction discover graph fresh stack with
  | case1 => simp
  | case2 fresh id rest hid ih =>
    rw [List.mem_cons, ih]
    constructor
    · rintro (rfl | ⟨a, ha, hafresh, hpath⟩)
      · exact ⟨b, by simp, hid, .refl⟩
      · have ha' := mem_without.1 hafresh
        rcases List.mem_append.1 ha with hdep | hrest
        · have hedge : graph.Edge (· ∈ fresh) id a := ⟨List.mem_reverse.1 hdep, ha'.1⟩
          exact ⟨id, by simp, hid, .head hedge (path_without hpath)⟩
        · exact ⟨a, List.mem_cons_of_mem id hrest, ha'.1, path_without hpath⟩
    · rintro ⟨a, ha, hafresh, hpath⟩
      by_cases hb : b = id
      · exact .inl hb
      refine .inr ?_
      -- only the part of the path after its last visit to `id` is still fresh
      rcases path_avoid hpath hb with ⟨hne, hleft⟩ | ⟨next, hedge, hleft⟩
      · have hrest : a ∈ rest := (List.mem_cons.1 ha).resolve_left hne
        exact ⟨a, List.mem_append_right _ hrest, mem_without.2 ⟨hafresh, hne⟩, hleft⟩
      · exact ⟨next, List.mem_append_left _ (List.mem_reverse.2 hedge.1), hedge.2, hleft⟩
  | case3 fresh id rest hid ih =>
    rw [ih]
    constructor
    · rintro ⟨a, ha, h⟩
      exact ⟨a, List.mem_cons_of_mem id ha, h⟩
    · rintro ⟨a, ha, hafresh, hpath⟩
      have hne : a ≠ id := fun h => hid (h ▸ hafresh)
      exact ⟨a, (List.mem_cons.1 ha).resolve_left hne, hafresh, hpath⟩

theorem mem_fresh_of_path {graph : DependencyGraph} {fresh : List VectorId} {a b : VectorId}
    (ha : a ∈ fresh) (h : ReflTransGen (graph.Edge (· ∈ fresh)) a b) : b ∈ fresh := by
  cases h with
  | refl => exact ha
  | tail _ hstep => exact hstep.2

theorem mem_fresh_of_mem_discover {graph : DependencyGraph} {fresh stack : List VectorId}
    {b : VectorId} (h : b ∈ graph.discover fresh stack) : b ∈ fresh := by
  obtain ⟨a, -, hafresh, hpath⟩ := (mem_discover_iff graph fresh stack b).1 h
  exact mem_fresh_of_path hafresh hpath

theorem nodup_discover (graph : DependencyGraph) (fresh stack : List VectorId) :
    (graph.discover fresh stack).Nodup := by
  fun_induction discover graph fresh stack with
  | case1 => exact List.nodup_nil
  | case2 fresh id rest hid ih =>
    refine List.nodup_cons.2 ⟨fun hmem => ?_, ih⟩
    exact (mem_without.1 (mem_fresh_of_mem_discover hmem)).2 rfl
  | case3 fresh id rest hid ih => exact ih

/-! ## The vectors that a change reaches -/

/-- The end of every edge is among the derived vectors. -/
theorem mem_derived {graph : DependencyGraph} {a b : VectorId} (h : b ∈ graph.dependents a) :
    b ∈ graph.derived := by
  rw [dependents] at h
  cases hfound : graph.edges.get? a with
  | none => simp [hfound] at h
  | some ends =>
    rw [hfound, Option.getD_some] at h
    exact List.mem_flatMap.2 ⟨(a, ends), Table.mem_entries_of_get? hfound, h⟩

/-- **What is reachable** from a vector: the end points of the non-empty paths of edges on which
every later vector passes the test and is not the start. -/
theorem mem_reachable_iff {graph : DependencyGraph} {start : VectorId} {follow : VectorId → Bool}
    {b : VectorId} :
    b ∈ graph.reachable start follow ↔
      TransGen (graph.Edge fun id => id ≠ start ∧ follow id = true) start b := by
  have hfresh : ∀ a id, graph.Edge (· ∈ graph.derived.filter fun id => id != start && follow id)
      a id ↔ graph.Edge (fun id => id ≠ start ∧ follow id = true) a id := by
    intro a id
    simp only [Edge, List.mem_filter, Bool.and_eq_true, bne_iff_ne]
    exact ⟨fun h => ⟨h.1, h.2.2⟩, fun h => ⟨h.1, mem_derived h.1, h.2⟩⟩
  have hrel : graph.Edge (· ∈ graph.derived.filter fun id => id != start && follow id)
      = graph.Edge (fun id => id ≠ start ∧ follow id = true) :=
    funext fun a => funext fun id => propext (hfresh a id)
  rw [reachable, List.mem_mergeSort, mem_discover_iff, hrel, TransGen.head'_iff]
  constructor
  · rintro ⟨a, ha, hafresh, hpath⟩
    exact ⟨a, (hfresh start a).1 ⟨List.mem_reverse.1 ha, hafresh⟩, hpath⟩
  · rintro ⟨a, hstep, hpath⟩
    exact ⟨a, List.mem_reverse.2 hstep.1, ((hfresh start a).2 hstep).2, hpath⟩

theorem nodup_reachable (graph : DependencyGraph) (start : VectorId) (follow : VectorId → Bool) :
    (graph.reachable start follow).Nodup :=
  (List.mergeSort_perm _ _).nodup_iff.2 (nodup_discover graph _ _)

theorem pairwise_rank_reachable (graph : DependencyGraph) (start : VectorId)
    (follow : VectorId → Bool) :
    (graph.reachable start follow).Pairwise fun a b => graph.rank a ≤ graph.rank b := by
  have hsorted : (graph.reachable start follow).Pairwise
      fun a b => decide (graph.rank a ≤ graph.rank b) = true := by
    apply List.pairwise_mergeSort
    · intro a b c hab hbc
      simp only [decide_eq_true_eq] at hab hbc ⊢
      exact Int.le_trans hab hbc
    · intro a b
      simp only [Bool.or_eq_true, decide_eq_true_eq]
      exact Int.le_total _ _
  exact hsorted.imp fun h => of_decide_eq_true h

end DependencyGraph
end LiveVectors

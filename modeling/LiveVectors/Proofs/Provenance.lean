import LiveVectors.Proofs.Search
import Mathlib.Tactic.Tauto

/-!
# Well-formed provenance

A dependency graph that a run builds is more than any graph: it is acyclic, and every derivation
in it can be recomputed.  This file says what makes it so and that recording a new derivation
keeps it.

* `Derivation.Sound` — the operator can be applied, the operands are numbers and vectors, at least
  one of them is a vector, and the vectors among them are older than the derived one.  Such a
  derivation can be recomputed from every store (`Derivation.Sound.operate_eq`).
* `DependencyGraph.WellFormed` — edges are exactly what the derivations say, every derivation is
  sound and stands under its own target, and the numbers of the records grow with the targets.
  A search of such a graph lists every vector after its operands
  (`WellFormed.pairwise_reachable`).
* `DependencyGraph.Extends` — nothing of a graph is lost or changed in another one.
-/

set_option autoImplicit false

namespace LiveVectors

open Relation

/-! ## Operands -/

namespace Value

/-- Whether a value is one that operators take: a number or a vector. -/
def IsQuantity : Value → Prop
  | .number _ => True
  | .vector _ => True
  | _ => False

/-- Whether a value is stored among the first `size` vectors, if it is a vector at all. -/
def Within (size : Nat) (value : Value) : Prop := ∀ id, value.vectorId? = some id → id < size

@[simp] theorem within_number (size : Nat) (x : Float) : (number x).Within size := nofun

@[simp] theorem within_text (size : Nat) (s : String) : (text s).Within size := nofun

@[simp] theorem within_vector {size : Nat} {id : VectorId} :
    (vector id).Within size ↔ id < size := by
  simp [Within, vectorId?]

theorem Within.mono {size size' : Nat} {value : Value} (h : value.Within size)
    (hle : size ≤ size') : value.Within size' :=
  fun id hid => Nat.lt_of_lt_of_le (h id hid) hle

theorem ofSnapshot_eq_ok {symbol : String} {store : Store} {value : Value} {q : Quantity}
    (h : Quantity.ofSnapshot symbol (store.snapshot value) = .ok q) :
    value.IsQuantity ∧ (value.vectorId? = none ↔ ∃ x, q = .scalar x) := by
  cases value <;> simp_all [Store.snapshot, Quantity.ofSnapshot, IsQuantity, vectorId?]
  · exact ⟨_, h.symm⟩
  · rintro x rfl
    cases h

theorem IsQuantity.ofSnapshot_eq {value : Value} (h : value.IsQuantity) (symbol : String)
    (store : Store) : ∃ q, Quantity.ofSnapshot symbol (store.snapshot value) = .ok q := by
  cases value with
  | number x => exact ⟨.scalar x, rfl⟩
  | vector id => exact ⟨.planar (store.get id), rfl⟩
  | _ => exact h.elim

end Value

/-! ## Operations -/

theorem operate_eq_ok_iff {symbol : String} {x y : Snapshot} {q : Quantity} :
    operate symbol x y = .ok q ↔
      ∃ operator p r, Arithmetic.ofSymbol? symbol = some operator ∧
        Quantity.ofSnapshot symbol x = .ok p ∧ Quantity.ofSnapshot symbol y = .ok r ∧
        q = p.combine operator r := by
  rw [operate]
  cases Arithmetic.ofSymbol? symbol with
  | none => simp
  | some operator =>
    cases Quantity.ofSnapshot symbol x with
    | error fault => simp [bind, Except.bind]
    | ok p =>
      cases Quantity.ofSnapshot symbol y with
      | error fault => simp [bind, Except.bind]
      | ok r => simp [bind, Except.bind, pure, Except.pure, eq_comm]

/-- Two quantities combine to a number exactly if both are numbers. -/
theorem Quantity.combine_eq_scalar_iff {operator : Arithmetic} {p r : Quantity} :
    (∃ x, p.combine operator r = .scalar x) ↔ (∃ x, p = .scalar x) ∧ ∃ x, r = .scalar x := by
  cases p <;> cases r <;> simp [combine]

namespace Derivation

theorem mem_vectorOperands {derivation : Derivation} {id : VectorId} :
    id ∈ derivation.vectorOperands ↔
      derivation.left.vectorId? = some id ∨ derivation.right.vectorId? = some id := by
  simp only [vectorOperands, operands, List.mem_filterMap, List.mem_cons, List.not_mem_nil,
    or_false, exists_eq_or_imp, exists_eq_left]

/-- A derivation that makes sense: it can be computed from its operands whatever their components
are, it gives a vector, and its operands were there before it. -/
structure Sound (derivation : Derivation) : Prop where
  /-- The operator is one that can be applied. -/
  arithmetic : ∃ operator, Arithmetic.ofSymbol? derivation.operator = some operator
  /-- The left operand is a number or a vector. -/
  left : derivation.left.IsQuantity
  /-- The right operand is a number or a vector. -/
  right : derivation.right.IsQuantity
  /-- Not both operands are numbers. -/
  planar : derivation.vectorOperands ≠ []
  /-- Operands are older than what is derived from them. -/
  operand_lt : ∀ id ∈ derivation.vectorOperands, id < derivation.target

/-- Division gives no vectors, so it makes no derivation. -/
theorem Sound.operator_mem {derivation : Derivation} (h : derivation.Sound) :
    derivation.operator ∈ ["+", "-", "*"] := by
  obtain ⟨operator, hop⟩ := h.arithmetic
  rw [Arithmetic.ofSymbol?] at hop
  split at hop
  · simp_all
  split at hop
  · simp_all
  split at hop
  · simp_all
  · cases hop

/-- **A sound derivation can always be computed**, and gives a vector. -/
theorem Sound.operate_eq {derivation : Derivation} (h : derivation.Sound) (store : Store) :
    ∃ v, operate derivation.operator (store.snapshot derivation.left)
      (store.snapshot derivation.right) = .ok (.planar v) := by
  obtain ⟨operator, hop⟩ := h.arithmetic
  obtain ⟨p, hp⟩ := h.left.ofSnapshot_eq derivation.operator store
  obtain ⟨r, hr⟩ := h.right.ofSnapshot_eq derivation.operator store
  have heq : operate derivation.operator (store.snapshot derivation.left)
      (store.snapshot derivation.right) = .ok (p.combine operator r) :=
    operate_eq_ok_iff.2 ⟨operator, p, r, hop, hp, hr, rfl⟩
  cases hq : p.combine operator r with
  | planar v => exact ⟨v, hq ▸ heq⟩
  | scalar x =>
    obtain ⟨hpx, hrx⟩ := Quantity.combine_eq_scalar_iff.1 ⟨x, hq⟩
    have hl := (Value.ofSnapshot_eq_ok hp).2.2 hpx
    have hr' := (Value.ofSnapshot_eq_ok hr).2.2 hrx
    exact absurd (List.eq_nil_iff_forall_not_mem.2 fun id hid => by
      simp [mem_vectorOperands, hl, hr'] at hid) h.planar

/-- What an operation that gave a vector tells about its operands. -/
theorem sound_of_operate {symbol : String} {left right : Value} {store : Store}
    {v : PlaneVector} (h : operate symbol (store.snapshot left) (store.snapshot right)
      = .ok (.planar v)) (hleft : left.Within store.size) (hright : right.Within store.size) :
    Sound ⟨symbol, left, right, store.size⟩ := by
  obtain ⟨operator, p, r, hop, hp, hr, hq⟩ := operate_eq_ok_iff.1 h
  refine ⟨⟨operator, hop⟩, (Value.ofSnapshot_eq_ok hp).1, (Value.ofSnapshot_eq_ok hr).1,
    ?_, ?_⟩
  · -- without a vector among the operands the result would be a number
    intro hnil
    have hnone := List.eq_nil_iff_forall_not_mem.1 hnil
    simp only [mem_vectorOperands, not_or] at hnone
    have hl := (Value.ofSnapshot_eq_ok hp).2.1 (Option.eq_none_iff_forall_ne_some.2
      fun id => (hnone id).1)
    have hr' := (Value.ofSnapshot_eq_ok hr).2.1 (Option.eq_none_iff_forall_ne_some.2
      fun id => (hnone id).2)
    obtain ⟨x, hx⟩ := Quantity.combine_eq_scalar_iff.2 ⟨hl, hr'⟩
    exact Quantity.noConfusion (hq.trans hx)
  · intro id hid
    rcases mem_vectorOperands.1 hid with hl | hr'
    · exact hleft id hl
    · exact hright id hr'

end Derivation

/-! ## Graphs -/

namespace DependencyGraph

theorem derivation?_eq_some_iff {graph : DependencyGraph} {id : VectorId}
    {derivation : Derivation} :
    graph.derivation? id = some derivation ↔
      ∃ record, graph.records.get? id = some record ∧ record.derivation = derivation := by
  simp [derivation?]

theorem rank_eq_number {graph : DependencyGraph} {id : VectorId} {record : Record}
    (h : graph.records.get? id = some record) : graph.rank id = record.number := by
  rw [rank, h]

/-- Every edge of one graph is in another, and every record stands there unchanged. -/
structure Extends (old new : DependencyGraph) : Prop where
  /-- No edge is lost. -/
  edge : ∀ {operand derived}, derived ∈ old.dependents operand → derived ∈ new.dependents operand
  /-- No derivation and no number is lost or changed. -/
  record : ∀ {id record}, old.records.get? id = some record → new.records.get? id = some record

theorem Extends.refl (graph : DependencyGraph) : graph.Extends graph := ⟨fun h => h, fun h => h⟩

theorem Extends.trans {first second third : DependencyGraph} (h : first.Extends second)
    (h' : second.Extends third) : first.Extends third :=
  ⟨fun hd => h'.edge (h.edge hd), fun hr => h'.record (h.record hr)⟩

/-- The graph of a run.  `size` is the number of vectors there are. -/
structure WellFormed (graph : DependencyGraph) (size : Nat) : Prop where
  /-- There is an edge exactly from each vector operand of a derivation to its target. -/
  edge_iff : ∀ {operand derived}, derived ∈ graph.dependents operand ↔
    ∃ derivation, graph.derivation? derived = some derivation ∧
      operand ∈ derivation.vectorOperands
  /-- Every derivation is sound. -/
  sound : ∀ {id derivation}, graph.derivation? id = some derivation → derivation.Sound
  /-- Every derivation stands under its target. -/
  target_eq : ∀ {id derivation}, graph.derivation? id = some derivation → derivation.target = id
  /-- Only vectors that exist are derived. -/
  lt_size : ∀ {id record}, graph.records.get? id = some record → id < size
  /-- Numbers are given one after the other. -/
  number_lt : ∀ {id record}, graph.records.get? id = some record →
    record.number < graph.records.size
  /-- A younger vector has a greater number. -/
  number_lt_number : ∀ {id id' record record'}, graph.records.get? id = some record →
    graph.records.get? id' = some record' → id < id' → record.number < record'.number

theorem wellFormed_empty (size : Nat) : empty.WellFormed size where
  edge_iff := by simp [dependents, empty, derivation?]
  sound := nofun
  target_eq := nofun
  lt_size := nofun
  number_lt := nofun
  number_lt_number := nofun

namespace WellFormed

variable {graph : DependencyGraph} {size : Nat}

theorem mono {size' : Nat} (h : graph.WellFormed size) (hle : size ≤ size') :
    graph.WellFormed size' :=
  { h with lt_size := fun hr => Nat.lt_of_lt_of_le (h.lt_size hr) hle }

/-- Whatever is derived exists. -/
theorem lt_size_of_derivation (h : graph.WellFormed size) {id : VectorId}
    {derivation : Derivation} (hd : graph.derivation? id = some derivation) : id < size := by
  obtain ⟨record, hr, -⟩ := derivation?_eq_some_iff.1 hd
  exact h.lt_size hr

/-- What does not exist yet is not recorded. -/
theorem get?_records_eq_none (h : graph.WellFormed size) : graph.records.get? size = none := by
  rw [Option.eq_none_iff_forall_ne_some]
  intro record hr
  exact Nat.lt_irrefl _ (h.lt_size hr)

theorem operand_lt (h : graph.WellFormed size) {id operand : VectorId} {derivation : Derivation}
    (hd : graph.derivation? id = some derivation) (ho : operand ∈ derivation.vectorOperands) :
    operand < id := by
  have hlt := (h.sound hd).operand_lt operand ho
  rwa [h.target_eq hd] at hlt

theorem lt_of_edge (h : graph.WellFormed size) {operand derived : VectorId}
    (he : derived ∈ graph.dependents operand) : operand < derived := by
  obtain ⟨derivation, hd, ho⟩ := h.edge_iff.1 he
  exact h.operand_lt hd ho

/-- **No vector depends on itself**, in any number of steps. -/
theorem lt_of_path (h : graph.WellFormed size) {enter : VectorId → Prop} {a b : VectorId}
    (hpath : TransGen (graph.Edge enter) a b) : a < b := by
  induction hpath with
  | single hstep => exact h.lt_of_edge hstep.1
  | tail _ hstep ih => exact Nat.lt_trans ih (h.lt_of_edge hstep.1)

/-- Two records of one number are one record. -/
theorem number_inj (h : graph.WellFormed size) {id id' : VectorId} {record record' : Record}
    (hr : graph.records.get? id = some record) (hr' : graph.records.get? id' = some record')
    (heq : record.number = record'.number) : id = id' := by
  rcases Nat.lt_trichotomy id id' with hlt | rfl | hlt
  · exact absurd (h.number_lt_number hr hr' hlt) (by omega)
  · rfl
  · exact absurd (h.number_lt_number hr' hr hlt) (by omega)

/-- **Operands come first in the order of ranks.** -/
theorem rank_lt (h : graph.WellFormed size) {id operand : VectorId} {derivation : Derivation}
    (hd : graph.derivation? id = some derivation) (ho : operand ∈ derivation.vectorOperands) :
    graph.rank operand < graph.rank id := by
  obtain ⟨record, hr, -⟩ := derivation?_eq_some_iff.1 hd
  rw [rank_eq_number hr]
  cases ho' : graph.records.get? operand with
  | none => rw [rank, ho']; simp; omega
  | some record' =>
    rw [rank_eq_number ho']
    exact Int.ofNat_lt.2 (h.number_lt_number ho' hr (h.operand_lt hd ho))

/-- **A search lists every vector after its operands**: of two vectors in its result the later one
is never an operand of the earlier one. -/
theorem pairwise_reachable (h : graph.WellFormed size) (start : VectorId)
    (follow : VectorId → Bool) :
    (graph.reachable start follow).Pairwise fun a b =>
      ∀ derivation, graph.derivation? a = some derivation → b ∉ derivation.vectorOperands := by
  refine (pairwise_rank_reachable graph start follow).imp fun hle derivation hd ho => ?_
  exact absurd (h.rank_lt hd ho) (by omega)

/-- Whatever a search finds is derived. -/
theorem derivation?_of_mem_reachable (h : graph.WellFormed size) {start id : VectorId}
    {follow : VectorId → Bool} (hid : id ∈ graph.reachable start follow) :
    ∃ derivation, graph.derivation? id = some derivation := by
  obtain ⟨a, -, hstep⟩ := TransGen.tail'_iff.1 (mem_reachable_iff.1 hid)
  obtain ⟨derivation, hd, -⟩ := h.edge_iff.1 hstep.1
  exact ⟨derivation, hd⟩

end WellFormed

/-! ## Recording a derivation -/

theorem mem_dependents_link {graph : DependencyGraph} {operand derived a b : VectorId} :
    b ∈ (graph.link operand derived).dependents a ↔
      b ∈ graph.dependents a ∨ a = operand ∧ b = derived := by
  by_cases ha : a = operand
  · subst ha
    have hself : (graph.link a derived).dependents a =
        if derived ∈ graph.dependents a then graph.dependents a
        else graph.dependents a ++ [derived] := by
      rw [dependents, link, Table.get?_put_self, Option.getD_some]
    rw [hself]
    by_cases hknown : derived ∈ graph.dependents a
    · rw [if_pos hknown]
      exact ⟨.inl, fun h => h.elim (fun hb => hb) fun hb => hb.2 ▸ hknown⟩
    · simp [if_neg hknown]
  · simp [link, dependents, Table.get?_put_ne _ _ ha, ha]

theorem records_link (graph : DependencyGraph) (operand derived : VectorId) :
    (graph.link operand derived).records = graph.records := rfl

theorem mem_dependents_foldl_link {operands : List VectorId} {graph : DependencyGraph}
    {derived a b : VectorId} :
    b ∈ (operands.foldl (fun graph operand => graph.link operand derived) graph).dependents a ↔
      b ∈ graph.dependents a ∨ a ∈ operands ∧ b = derived := by
  induction operands generalizing graph with
  | nil => simp
  | cons operand rest ih =>
    rw [List.foldl_cons, ih, mem_dependents_link, List.mem_cons]
    tauto

theorem records_foldl_link (operands : List VectorId) (graph : DependencyGraph)
    (derived : VectorId) :
    (operands.foldl (fun graph operand => graph.link operand derived) graph).records
      = graph.records := by
  induction operands generalizing graph with
  | nil => rfl
  | cons operand rest ih => rw [List.foldl_cons, ih, records_link]

theorem mem_dependents_register {graph : DependencyGraph} {derivation : Derivation}
    {a b : VectorId} :
    b ∈ (graph.register derivation).dependents a ↔
      b ∈ graph.dependents a ∨ a ∈ derivation.vectorOperands ∧ b = derivation.target := by
  rw [register, mem_dependents_foldl_link]
  rfl

theorem records_register (graph : DependencyGraph) (derivation : Derivation) :
    (graph.register derivation).records =
      graph.records.put derivation.target ⟨derivation, graph.records.size⟩ := by
  rw [register, records_foldl_link]

theorem derivation?_register_self (graph : DependencyGraph) (derivation : Derivation) :
    (graph.register derivation).derivation? derivation.target = some derivation := by
  rw [derivation?, records_register, Table.get?_put_self]
  rfl

theorem derivation?_register_ne (graph : DependencyGraph) {derivation : Derivation}
    {id : VectorId} (h : id ≠ derivation.target) :
    (graph.register derivation).derivation? id = graph.derivation? id := by
  rw [derivation?, records_register, Table.get?_put_ne _ _ h]
  rfl

/-- A record of a graph with one more derivation is the new one or an old one. -/
theorem records_register_cases {graph : DependencyGraph} {derivation : Derivation} {id : VectorId}
    {record : Record} (h : (graph.register derivation).records.get? id = some record) :
    id = derivation.target ∧ record = ⟨derivation, graph.records.size⟩ ∨
      id ≠ derivation.target ∧ graph.records.get? id = some record := by
  rw [records_register] at h
  by_cases hid : id = derivation.target
  · subst hid
    rw [Table.get?_put_self] at h
    exact .inl ⟨rfl, (Option.some.inj h).symm⟩
  · rw [Table.get?_put_ne _ _ hid] at h
    exact .inr ⟨hid, h⟩

theorem derivation?_register_cases {graph : DependencyGraph} {derivation found : Derivation}
    {id : VectorId} (h : (graph.register derivation).derivation? id = some found) :
    id = derivation.target ∧ found = derivation ∨
      id ≠ derivation.target ∧ graph.derivation? id = some found := by
  by_cases hid : id = derivation.target
  · subst hid
    rw [derivation?_register_self] at h
    exact .inl ⟨rfl, (Option.some.inj h).symm⟩
  · rw [derivation?_register_ne graph hid] at h
    exact .inr ⟨hid, h⟩

/-- The record of a new vector loses nothing. -/
theorem extends_register {graph : DependencyGraph} {derivation : Derivation}
    (h : graph.records.get? derivation.target = none) :
    graph.Extends (graph.register derivation) where
  edge hd := mem_dependents_register.2 (.inl hd)
  record := by
    intro id record hr
    have hne : id ≠ derivation.target := by
      rintro rfl
      rw [h] at hr
      cases hr
    rw [records_register, Table.get?_put_ne _ _ hne, hr]

/-- **Recording a sound derivation of the next vector keeps a graph well-formed.** -/
theorem WellFormed.register {graph : DependencyGraph} {derivation : Derivation}
    (h : graph.WellFormed derivation.target) (hsound : derivation.Sound) :
    (graph.register derivation).WellFormed (derivation.target + 1) := by
  have hnone : graph.records.get? derivation.target = none := h.get?_records_eq_none
  have hsize : (graph.register derivation).records.size = graph.records.size + 1 := by
    rw [records_register, Table.size_put_of_get?_eq_none _ hnone]
  constructor
  case edge_iff =>
    intro operand derived
    rw [mem_dependents_register]
    by_cases hid : derived = derivation.target
    · subst hid
      have hold : derivation.target ∉ graph.dependents operand := by
        intro hmem
        obtain ⟨old, hd, -⟩ := h.edge_iff.1 hmem
        exact Nat.lt_irrefl _ (h.lt_size_of_derivation hd)
      simp [hold, derivation?_register_self]
    · simp [hid, derivation?_register_ne _ hid, h.edge_iff]
  case sound =>
    intro id found hd
    rcases derivation?_register_cases hd with ⟨-, rfl⟩ | ⟨-, hd⟩
    · exact hsound
    · exact h.sound hd
  case target_eq =>
    intro id found hd
    rcases derivation?_register_cases hd with ⟨rfl, rfl⟩ | ⟨-, hd⟩
    · rfl
    · exact h.target_eq hd
  case lt_size =>
    intro id record hr
    rcases records_register_cases hr with ⟨rfl, -⟩ | ⟨-, hr⟩
    · exact Nat.lt_succ_self _
    · exact Nat.lt_succ_of_lt (h.lt_size hr)
  case number_lt =>
    intro id record hr
    rw [hsize]
    rcases records_register_cases hr with ⟨-, rfl⟩ | ⟨-, hr⟩
    · exact Nat.lt_succ_self _
    · exact Nat.lt_succ_of_lt (h.number_lt hr)
  case number_lt_number =>
    intro id id' record record' hr hr' hlt
    rcases records_register_cases hr with ⟨rfl, rfl⟩ | ⟨-, hr⟩
    · rcases records_register_cases hr' with ⟨rfl, -⟩ | ⟨-, hr'⟩
      · exact absurd hlt (Nat.lt_irrefl _)
      · exact absurd (h.lt_size hr') (Nat.not_lt_of_lt hlt)
    · rcases records_register_cases hr' with ⟨-, rfl⟩ | ⟨-, hr'⟩
      · exact h.number_lt hr
      · exact h.number_lt_number hr hr' hlt

end DependencyGraph
end LiveVectors

import LiveVectors.Proofs.Names

/-!
# Labels of references

A reference is shown under a label that names its operands.  The names are collected by going
through the bindings, so they stand in the order in which they were bound first.  The derivation
knows which operand is the left one, but the label does not ask it.

* `operandNames` — the names in a label: all names of operands, each once (`mem_operandNames_iff`,
  `nodup_operandNames`), as they stand in the bindings (`sublist_operandNames`).
* `referenceLabel_eq` — the label of any reference.
* `label_of_operands` — the label where there are two operands with one name each: whichever name
  was bound first comes first.
* `label_swaps_operands` — so the label of `b - a` can be `a - b`.
-/

set_option autoImplicit false

namespace LiveVectors
namespace World

variable {world : World} {derivation : Derivation}

/-! ## The names in a label -/

/-- The names of the operands of a derivation, as they stand in the bindings. -/
def operandNames (world : World) (derivation : Derivation) : List String :=
  (world.bindings.table.entries.filter fun entry =>
    entry.2.value.vectorId?.any derivation.vectorOperands.contains).map Prod.fst

/-- **The label of a reference** to a derived vector. -/
theorem referenceLabel_eq {name : String} {binding : Binding} {id : VectorId}
    (hbinding : world.bindings.get? name = some binding) (hvalue : binding.value = .vector id)
    (hreference : binding.look.reference = true)
    (hd : world.graph.derivation? id = some derivation) :
    world.referenceLabel name =
      if world.operandNames derivation == [] then none
      else some ((" " ++ operatorSign derivation.operator ++ " ").intercalate
        (world.operandNames derivation)) := by
  have hid : binding.value.vectorId? = some id := by rw [hvalue]; rfl
  simp only [referenceLabel, hbinding, hid, hreference, hd, Option.bind_eq_bind,
    Option.bind_some, Bool.not_true, Bool.false_eq_true, if_false]
  rfl

/-- The names in a label are all names of operands. -/
theorem mem_operandNames_iff (hnames : world.bindings.names.Nodup) {name : String} :
    name ∈ world.operandNames derivation ↔
      ∃ operand ∈ derivation.vectorOperands, world.vectorOf name = some operand := by
  rw [operandNames, List.mem_map]
  constructor
  · rintro ⟨⟨_, binding⟩, hentry, rfl⟩
    rw [List.mem_filter, Option.any_eq_true] at hentry
    obtain ⟨hmem, operand, hoperand, hcontains⟩ := hentry
    refine ⟨operand, List.contains_iff_mem.1 hcontains, ?_⟩
    rw [vectorOf, Bindings.get?, Table.get?_of_mem_entries hnames hmem]
    exact hoperand
  · rintro ⟨operand, hmem, hname⟩
    obtain ⟨binding, hbinding, hoperand⟩ := Option.bind_eq_some_iff.1 hname
    refine ⟨(name, binding), List.mem_filter.2 ⟨Table.mem_entries_of_get? hbinding, ?_⟩, rfl⟩
    exact (Option.any_eq_true _ _).2 ⟨operand, hoperand, List.contains_iff_mem.2 hmem⟩

theorem sublist_operandNames (world : World) (derivation : Derivation) :
    (world.operandNames derivation).Sublist world.bindings.names :=
  List.filter_sublist.map Prod.fst

theorem nodup_operandNames (hnames : world.bindings.names.Nodup) (derivation : Derivation) :
    (world.operandNames derivation).Nodup :=
  hnames.sublist (world.sublist_operandNames derivation)

/-! ## Two operands -/

/-- One name stands before another in the bindings: it was bound for the first time earlier. -/
def BoundBefore (world : World) (first second : String) : Prop :=
  [first, second].Sublist world.bindings.names

/-- Of two names only one is before the other. -/
theorem BoundBefore.asymm (hnames : world.bindings.names.Nodup) {first second : String}
    (h : world.BoundBefore first second) : ¬ world.BoundBefore second first :=
  DependencyGraph.not_pair_sublist_swap hnames h

/-- Two operands with one name each are named in the order in which the names were bound. -/
theorem operandNames_eq (hnames : world.bindings.names.Nodup) {left right : VectorId}
    (hleft : derivation.left = .vector left) (hright : derivation.right = .vector right)
    (hne : left ≠ right) {l r : String}
    (hl : ∀ other, world.vectorOf other = some left ↔ other = l)
    (hr : ∀ other, world.vectorOf other = some right ↔ other = r) :
    world.operandNames derivation = [l, r] ∨ world.operandNames derivation = [r, l] := by
  have hapart : l ≠ r := by
    rintro rfl
    exact hne (Option.some.inj (((hl l).2 rfl).symm.trans ((hr l).2 rfl)))
  have hmem : ∀ name, name ∈ world.operandNames derivation ↔ name ∈ [l, r] := by
    intro name
    simp [mem_operandNames_iff hnames, Derivation.mem_vectorOperands, hleft, hright,
      Value.vectorId?, ← hl, ← hr]
  have hpair : [l, r].Nodup := by simpa using hapart
  exact List.perm_pair.1
    ((List.perm_ext_iff_of_nodup (nodup_operandNames hnames derivation) hpair).2 hmem)

theorem intercalate_pair (sign first second : String) :
    (" " ++ sign ++ " ").intercalate [first, second] =
      first ++ " " ++ sign ++ " " ++ second := by
  change first ++ (" " ++ sign ++ " ") ++ second = _
  simp only [String.append_assoc]

/-- A vector whose names are just `[name]` is the vector of this variable and of no other. -/
theorem vectorOf_eq_iff_of_namesOf (hnames : world.bindings.names.Nodup) {name : String}
    {id : VectorId} (h : world.bindings.namesOf id = [name]) (other : String) :
    world.vectorOf other = some id ↔ other = name := by
  rw [← mem_namesOf_iff hnames, h, List.mem_singleton]

/-- **The label of a reference with two operands**, after every session.  If each operand has one
name, the label has these two names with the sign of the operator between them, and the name that
was bound first comes first, whether it is that of the left operand or that of the right one. -/
theorem label_of_operands (requests : List Request) {name l r : String} {binding : Binding}
    {id left right : VectorId} {derivation : Derivation}
    (hbinding : (session requests).bindings.get? name = some binding)
    (hvalue : binding.value = .vector id) (hreference : binding.look.reference = true)
    (hd : (session requests).graph.derivation? id = some derivation)
    (hleft : derivation.left = .vector left) (hright : derivation.right = .vector right)
    (hne : left ≠ right)
    (hl : ∀ other, (session requests).vectorOf other = some left ↔ other = l)
    (hr : ∀ other, (session requests).vectorOf other = some right ↔ other = r) :
    ((session requests).BoundBefore l r ↔ ¬ (session requests).BoundBefore r l) ∧
    ((session requests).BoundBefore l r → (session requests).referenceLabel name =
      some (l ++ " " ++ operatorSign derivation.operator ++ " " ++ r)) ∧
    ((session requests).BoundBefore r l → (session requests).referenceLabel name =
      some (r ++ " " ++ operatorSign derivation.operator ++ " " ++ l)) := by
  have hnames := nodup_names_session requests
  have hlabel := referenceLabel_eq hbinding hvalue hreference hd
  have horder := (session requests).sublist_operandNames derivation
  rcases operandNames_eq hnames hleft hright hne hl hr with heq | heq <;>
    rw [heq] at hlabel horder
  · have hbefore : (session requests).BoundBefore l r := horder
    refine ⟨iff_of_true hbefore (hbefore.asymm hnames), fun _ => ?_,
      fun hback => absurd hback (hbefore.asymm hnames)⟩
    rw [hlabel]
    exact congrArg some (intercalate_pair _ _ _)
  · have hbefore : (session requests).BoundBefore r l := horder
    refine ⟨iff_of_false (hbefore.asymm hnames) (not_not_intro hbefore),
      fun hback => absurd hback (hbefore.asymm hnames), fun _ => ?_⟩
    rw [hlabel]
    exact congrArg some (intercalate_pair _ _ _)

/-! ## A label with its operands swapped -/

/-- The reference `b - a` is shown as `a - b`, because `a` was bound first. -/
theorem label_of_difference :
    difference.graph.derivation? 2 = some ⟨"-", .vector 1, .vector 0, 2⟩ ∧
      difference.BoundBefore "a" "b" ∧ difference.referenceLabel "c" = some "a - b" := by
  have hnames := nodup_names_session [.run [vectorLine, otherVectorLine, differenceLine]]
  have hd : difference.graph.derivation? 2 = some ⟨"-", .vector 1, .vector 0, 2⟩ := rfl
  have hbefore : difference.BoundBefore "a" "b" :=
    (by decide : ["a", "b"].Sublist difference.bindings.names)
  have hbinding : difference.bindings.get? "c" =
      some ⟨.vector 2, ⟨none, false, true, none⟩, differenceLine⟩ := rfl
  exact ⟨hd, hbefore, (label_of_operands [.run [vectorLine, otherVectorLine, differenceLine]]
    hbinding rfl rfl hd rfl rfl (by decide) (vectorOf_eq_iff_of_namesOf hnames rfl)
    (vectorOf_eq_iff_of_namesOf hnames rfl)).2.2 hbefore⟩

/-- **Not every label has the left operand on the left.** -/
theorem label_swaps_operands :
    ¬ ∀ (instructions : List Instruction) (name l r : String) (binding : Binding)
        (id left right : VectorId) (derivation : Derivation),
      (run instructions).bindings.get? name = some binding →
      binding.value = .vector id → binding.look.reference = true →
      (run instructions).graph.derivation? id = some derivation →
      derivation.left = .vector left → derivation.right = .vector right → left ≠ right →
      (∀ other, (run instructions).vectorOf other = some left ↔ other = l) →
      (∀ other, (run instructions).vectorOf other = some right ↔ other = r) →
      (run instructions).referenceLabel name =
        some (l ++ " " ++ operatorSign derivation.operator ++ " " ++ r) := by
  intro h
  have hnames := nodup_names_session [.run [vectorLine, otherVectorLine, differenceLine]]
  have hlabel := h [vectorLine, otherVectorLine, differenceLine] "c" "b" "a" _ 2 1 0
    ⟨"-", .vector 1, .vector 0, 2⟩ rfl rfl rfl rfl rfl rfl (by decide)
    (vectorOf_eq_iff_of_namesOf hnames rfl) (vectorOf_eq_iff_of_namesOf hnames rfl)
  exact absurd hlabel (by decide)

end World
end LiveVectors

import LiveVectors.Proofs.Moves

/-!
# Names of what was recomputed

A move gives the names of the vectors that it recomputed.  A vector can have several names or none,
and a name can have held other vectors before.

* `nodup_names_session` — no name stands twice in the bindings, so the names of a vector are those
  that hold it now (`mem_namesOf_iff`), each once.
* `pairwise_names` — the names of operands come before those of what is derived from them.
* `names_of_move` — the result: which names a move gives, in which order, and that nothing else has
  changed.
-/

set_option autoImplicit false

namespace LiveVectors

/-! ## The names of a vector -/

namespace Bindings

variable {bindings : Bindings}

/-- The names of a vector are those that hold it. -/
theorem mem_namesOf_iff (h : bindings.names.Nodup) {name : String} {id : VectorId} :
    name ∈ bindings.namesOf id ↔
      ∃ binding, bindings.get? name = some binding ∧ binding.value = .vector id := by
  rw [namesOf, List.mem_map]
  constructor
  · rintro ⟨⟨_, binding⟩, hentry, rfl⟩
    rw [List.mem_filter, beq_iff_eq] at hentry
    exact ⟨binding, Table.get?_of_mem_entries h hentry.1, hentry.2⟩
  · rintro ⟨binding, hbinding, hvalue⟩
    refine ⟨(name, binding), ?_, rfl⟩
    rw [List.mem_filter, beq_iff_eq]
    exact ⟨Table.mem_entries_of_get? hbinding, hvalue⟩

theorem nodup_namesOf (h : bindings.names.Nodup) (id : VectorId) : (bindings.namesOf id).Nodup :=
  h.sublist (List.filter_sublist.map Prod.fst)

end Bindings

namespace World

open LiveVectors.Action Relation

variable {world after : World}

theorem mem_namesOf_iff (h : world.bindings.names.Nodup) {name : String} {id : VectorId} :
    name ∈ world.bindings.namesOf id ↔ world.vectorOf name = some id := by
  rw [Bindings.mem_namesOf_iff h, vectorOf, Option.bind_eq_some_iff]
  have hvector : ∀ value : Value, value = .vector id ↔ value.vectorId? = some id := by
    intro value
    cases value <;> simp [Value.vectorId?]
  simp only [hvector]

/-! ## No name stands twice -/

theorem nodup_names_bindName (h : world.bindings.names.Nodup) (name : String)
    (binding : Binding) : (world.bindName name binding).bindings.names.Nodup :=
  Table.nodup_keys_put h name binding

/-- Only an assignment changes the names, and it keeps them apart. -/
theorem Executed.nodup_names {place : Place} {instruction : Instruction}
    (h : Executed world place instruction after) (hw : world.WellFormed)
    (hnames : world.bindings.names.Nodup) : after.bindings.names.Nodup := by
  cases h with
  | evaluated htrace =>
    rw [htrace.bindings_eq hw]
    exact hnames
  | bound htrace hvalue =>
    apply nodup_names_bindName
    rw [htrace.bindings_eq hw]
    exact hnames
  | written htrace hwritten v =>
    rw [bindings_overwrite (htrace.wellFormed_and_later hw).1, htrace.bindings_eq hw]
    exact hnames

theorem nodup_names_attempt (hw : world.WellFormed) (hnames : world.bindings.names.Nodup)
    (instruction : Instruction) : (attempt world instruction).bindings.names.Nodup := by
  rw [bindings_attempt]
  exact (executed_execute hw instruction.place instruction).nodup_names hw hnames

theorem nodup_names_foldl_attempt (hw : world.WellFormed)
    (hnames : world.bindings.names.Nodup) (instructions : List Instruction) :
    (instructions.foldl attempt world).bindings.names.Nodup := by
  induction instructions generalizing world with
  | nil => exact hnames
  | cons instruction rest ih =>
    exact ih (keeps_attempt hw instruction).wellFormed (nodup_names_attempt hw hnames instruction)

theorem Request.nodup_names_after (hw : world.WellFormed) (hnames : world.bindings.names.Nodup)
    (request : Request) : (request.after world).bindings.names.Nodup := by
  cases request with
  | run instructions => exact nodup_names_foldl_attempt wellFormed_empty List.nodup_nil instructions
  | execute place instruction => exact (executed_execute hw place instruction).nodup_names hw hnames
  | _ =>
    rw [Request.bindings_after hw]
    · exact hnames
    · rfl
    · nofun

/-- **No name is bound twice**, after every session. -/
theorem nodup_names_session (requests : List Request) :
    (session requests).bindings.names.Nodup := by
  have hkept : ∀ world : World, world.WellFormed → world.bindings.names.Nodup →
      (requests.foldl (fun world request => request.after world) world).bindings.names.Nodup := by
    induction requests with
    | nil => exact fun _ _ hnames => hnames
    | cons request rest ih =>
      intro world hw hnames
      exact ih _ (request.wellFormed_after hw) (request.nodup_names_after hw hnames)
  exact hkept empty wellFormed_empty List.nodup_nil

/-! ## Names in order -/

/-- The names of different vectors are different, so names of several vectors come once each. -/
theorem nodup_flatMap_namesOf (hnames : world.bindings.names.Nodup) {ids : List VectorId}
    (h : ids.Nodup) : (ids.flatMap world.bindings.namesOf).Nodup := by
  refine List.nodup_flatMap.2 ⟨fun id _ => Bindings.nodup_namesOf hnames id, ?_⟩
  refine h.imp fun {first second} hne name hfirst hsecond => hne ?_
  rw [mem_namesOf_iff hnames] at hfirst hsecond
  exact Option.some.inj (hfirst.symm.trans hsecond)

theorem mem_flatMap_namesOf_iff (hnames : world.bindings.names.Nodup) {ids : List VectorId}
    {name : String} :
    name ∈ ids.flatMap world.bindings.namesOf ↔ ∃ b ∈ ids, world.vectorOf name = some b := by
  simp only [List.mem_flatMap, mem_namesOf_iff hnames]

/-- The vector of `other` is an operand of the vector of `name`. -/
def NamesOperand (world : World) (name other : String) : Prop :=
  ∃ derived operand derivation, world.vectorOf name = some derived ∧
    world.vectorOf other = some operand ∧
    world.graph.derivation? derived = some derivation ∧ operand ∈ derivation.vectorOperands

/-- No vector is its own operand, whatever it is called. -/
theorem NamesOperand.ne {name other : String} (h : world.NamesOperand name other)
    (hw : world.WellFormed) : other ≠ name := by
  rintro rfl
  obtain ⟨derived, operand, derivation, hderived, hoperand, hd, ho⟩ := h
  obtain rfl : derived = operand := Option.some.inj (hderived.symm.trans hoperand)
  exact Nat.lt_irrefl derived (hw.graph.operand_lt hd ho)

/-- **Operands are named first**: among the names of dependents, none is followed by that of an
operand. -/
theorem pairwise_names (hw : world.WellFormed) (hnames : world.bindings.names.Nodup)
    (id : VectorId) :
    ((world.liveDependents id).flatMap world.bindings.namesOf).Pairwise fun name other =>
      ¬ world.NamesOperand name other := by
  have hapart : ∀ {b c}, (∀ derivation, world.graph.derivation? b = some derivation →
      c ∉ derivation.vectorOperands) → ∀ name ∈ world.bindings.namesOf b,
      ∀ other ∈ world.bindings.namesOf c, ¬ world.NamesOperand name other := by
    rintro b c hbc name hname other hother
      ⟨derived, operand, derivation, hderived, hoperand, hd, ho⟩
    rw [mem_namesOf_iff hnames] at hname hother
    obtain rfl : b = derived := Option.some.inj (hname.symm.trans hderived)
    obtain rfl : c = operand := Option.some.inj (hother.symm.trans hoperand)
    exact hbc derivation hd ho
  rw [List.pairwise_flatMap]
  constructor
  · -- the names of one vector can stand in any order, because it is not its own operand
    intro b _
    refine List.pairwise_of_forall_mem_list (hapart fun derivation hd hself => ?_)
    exact Nat.lt_irrefl b (hw.graph.operand_lt hd hself)
  · exact (hw.graph.pairwise_reachable id _).imp hapart

/-- **What a move reports.**  After every session, a move that succeeds gives, each once, just the
names of the other vectors that paths of live vectors reach from the one that was moved, all names
of such a vector, and those of an operand before those of what is derived from it.  The bindings
stay as they are; so do the components of what is not named and is not the moved vector; and so do
those of every vector that is neither moved nor reached, such as an origin. -/
theorem names_of_move (requests : List Request) {name : String} {x y : Float} {snap : Bool}
    {id : VectorId} (hid : (session requests).vectorOf name = some id) {names : List String}
    {after : World}
    (h : (move name x y snap).outcome (session requests) = (.ok names, after)) :
    names.Nodup ∧
    (∀ other, other ∈ names ↔ ∃ b, (session requests).vectorOf other = some b ∧ b ≠ id ∧
      TransGen (session requests).LiveEdge id b) ∧
    (∀ front other back, names = front ++ other :: back →
      ∀ earlier ∈ names, (session requests).NamesOperand other earlier → earlier ∈ front) ∧
    after.bindings = (session requests).bindings ∧
    (∀ other binding, (session requests).bindings.get? other = some binding → other ∉ names →
      binding.value ≠ .vector id →
      after.store.snapshot binding.value = (session requests).store.snapshot binding.value) ∧
    ∀ b, b ≠ id → ¬ TransGen (session requests).LiveEdge id b →
      after.store.get b = (session requests).store.get b := by
  have hw := wellFormed_session requests
  have hnames := nodup_names_session requests
  obtain ⟨moved, store, hmoved, -, rfl, hsettled, rfl⟩ := exists_settled_of_move hw h
  obtain rfl : id = moved := Option.some.inj (hid.symm.trans hmoved)
  have hget : ∀ b, b ≠ id → b ∉ (session requests).liveDependents id →
      store.get b = (session requests).store.get b := by
    intro b hb hnot
    rw [hsettled.get_eq hnot]
    exact Store.get_set_ne _ _ hb
  refine ⟨?_, ?_, ?_, rfl, ?_, ?_⟩
  · exact nodup_flatMap_namesOf hnames (DependencyGraph.nodup_reachable _ _ _)
  · intro other
    rw [mem_flatMap_namesOf_iff hnames]
    constructor
    · rintro ⟨b, hb, hother⟩
      exact ⟨b, hother, (mem_liveDependents_iff_path hw).1 hb⟩
    · rintro ⟨b, hother, hb⟩
      exact ⟨b, (mem_liveDependents_iff_path hw).2 hb, hother⟩
  · intro front other back hsplit earlier hearlier hoperand
    exact mem_front_of_pairwise (pairwise_names hw hnames id) hsplit hearlier (hoperand.ne hw)
      fun hnot => hnot hoperand
  · intro other binding hother hunnamed hvalue
    cases hb : binding.value with
    | vector b =>
      have hbound : (session requests).vectorOf other = some b := by
        rw [vectorOf, hother, Option.bind_some, hb]
        rfl
      have hnot : b ∉ (session requests).liveDependents id :=
        fun hdependent => hunnamed ((mem_flatMap_namesOf_iff hnames).2 ⟨b, hdependent, hbound⟩)
      have hne : b ≠ id := fun heq => hvalue (by rw [hb, heq])
      exact congrArg Snapshot.vector (hget b hne hnot)
    | _ => rfl
  · intro b hb hpath
    exact hget b hb fun hdependent => hpath ((mem_liveDependents_iff hw).1 hdependent)

/-- `c = b` -/
def aliasLine : Instruction where
  statement := .assign "c" (.named "b") []
  place := ⟨3, "c = b"⟩

/-- `d = a + b, reference` -/
def sumLine : Instruction where
  statement := .assign "d" (.operation .plus (.named "a") (.named "b")) [.flag "reference"]
  place := ⟨4, "d = a + b, reference"⟩

/-- A vector, its double under two names, and the sum of the two. -/
def doublingSum : World := run [vectorLine, doubleLine, aliasLine, sumLine]

/-- When the vector is moved, both names of its double are given, and before that of the sum. -/
theorem names_of_doublingSum :
    doublingSum.vectorOf "a" = some 0 ∧
      ∃ names after, (move "a" 3 4 false).outcome doublingSum = (.ok names, after) ∧
        names.Nodup ∧ "a" ∉ names ∧
        ∃ front back, names = front ++ "d" :: back ∧ "b" ∈ front ∧ "c" ∈ front := by
  have hid : doublingSum.vectorOf "a" = some 0 := rfl
  obtain ⟨names, after, hmove⟩ :=
    (exists_move_ok_iff (wellFormed_run _ : doublingSum.WellFormed) "a" 3 4 false).2
      ⟨fun hnone => Option.some_ne_none 0 (hid.symm.trans hnone), nofun⟩
  obtain ⟨hnodup, hmem, horder, -⟩ :=
    names_of_move [.run [vectorLine, doubleLine, aliasLine, sumLine]] hid hmove
  have hdouble : TransGen doublingSum.LiveEdge 0 1 :=
    .single ⟨(by decide : 1 ∈ doublingSum.graph.dependents 0), rfl⟩
  have hb : "b" ∈ names := (hmem "b").2 ⟨1, rfl, by decide, hdouble⟩
  have hc : "c" ∈ names := (hmem "c").2 ⟨1, rfl, by decide, hdouble⟩
  have hd : "d" ∈ names := (hmem "d").2 ⟨2, rfl, by decide, hdouble.tail
    ⟨(by decide : 2 ∈ doublingSum.graph.dependents 1), rfl⟩⟩
  obtain ⟨front, back, hsplit⟩ := List.append_of_mem hd
  have hsum : doublingSum.graph.derivation? 2 = some ⟨"+", .vector 0, .vector 1, 2⟩ := rfl
  refine ⟨hid, names, after, hmove, hnodup, ?_, front, back, hsplit, ?_, ?_⟩
  · intro ha
    obtain ⟨b, hb, hne, -⟩ := (hmem "a").1 ha
    exact hne (Option.some.inj (hb.symm.trans hid))
  · exact horder front "d" back hsplit "b" hb ⟨2, 1, _, rfl, rfl, hsum, by decide⟩
  · exact horder front "d" back hsplit "c" hc ⟨2, 1, _, rfl, rfl, hsum, by decide⟩

end World
end LiveVectors

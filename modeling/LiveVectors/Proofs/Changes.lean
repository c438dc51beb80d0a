import LiveVectors.Plane.Member
import LiveVectors.Proofs.Provenance

/-!
# What operations do to the store

Every operation on stored vectors does one of very few things: it fails and changes nothing, gives
a value and changes nothing, makes one new vector, or overwrites one vector.  The only exception is
`reset`, which can fail after it has overwritten the first component.  Here is one lemma for each
operation that says which of these can happen (`outcome_call_cases` and its relatives); nothing
else has to look into the operations themselves.

`Store.ChangesOnly id` is the frame condition that they share: no vector but `id` changes and none
goes away.
-/

set_option autoImplicit false

namespace LiveVectors

open LiveVectors.Action

namespace Store

/-! ## Frames -/

theorem set_set (store : Store) (id : VectorId) (v w : PlaneVector) :
    (store.set id v).set id w = store.set id w := by
  simp [set]

/-- Stores with the same vectors are equal. -/
theorem ext_get {store store' : Store} (hsize : store.size = store'.size)
    (hget : ∀ id, store.get id = store'.get id) : store = store' := by
  obtain ⟨cells⟩ := store
  obtain ⟨cells'⟩ := store'
  rw [mk.injEq]
  refine Array.ext hsize fun id hid hid' => ?_
  have hsame := hget id
  rwa [get, get, Array.getD_eq_getD_getElem?, Array.getD_eq_getD_getElem?,
    Array.getElem?_eq_getElem hid, Array.getElem?_eq_getElem hid', Option.getD_some,
    Option.getD_some] at hsame

/-- At most the vector `id` is changed from one store to another, and no vector is lost. -/
structure ChangesOnly (id : VectorId) (before after : Store) : Prop where
  /-- Vectors stay. -/
  size_le : before.size ≤ after.size
  /-- Other vectors keep their components. -/
  get_eq : ∀ {other}, other < before.size → other ≠ id → after.get other = before.get other

theorem ChangesOnly.refl (id : VectorId) (store : Store) : store.ChangesOnly id store :=
  ⟨Nat.le_refl _, fun _ _ => rfl⟩

theorem changesOnly_set (store : Store) (id : VectorId) (v : PlaneVector) :
    ChangesOnly id store (store.set id v) :=
  ⟨by simp, fun _ hne => get_set_ne store v hne⟩

theorem changesOnly_push (store : Store) (id : VectorId) (v : PlaneVector) :
    ChangesOnly id store (store.push v) :=
  ⟨by simp, fun hlt _ => get_push_lt store v hlt⟩

/-- A value of old vectors looks the same after new ones are made. -/
theorem snapshot_push {store : Store} {value : Value} (v : PlaneVector)
    (h : ∀ id, value.vectorId? = some id → id < store.size) :
    (store.push v).snapshot value = store.snapshot value := by
  cases value with
  | vector id => rw [snapshot, snapshot, get_push_lt store v (h id rfl)]
  | _ => rfl

/-- A value looks the same in two stores that agree on its vector. -/
theorem snapshot_congr {store store' : Store} {value : Value}
    (h : ∀ id, value.vectorId? = some id → store'.get id = store.get id) :
    store'.snapshot value = store.snapshot value := by
  cases value with
  | vector id => rw [snapshot, snapshot, h id rfl]
  | _ => rfl

/-! ## Calls -/

theorem outcome_reset_cases (self : VectorId) (x y : Snapshot) (store : Store) :
    (∃ fault, (reset self x y).outcome store = (.error fault, store)) ∨
      (∃ fault v, (reset self x y).outcome store = (.error fault, store.set self v)) ∨
      ∃ v, (reset self x y).outcome store = (.ok (), store.set self v) := by
  simp only [reset, outcome_bind, outcome_of, outcome_update]
  cases x.convert with
  | error fault => exact .inl ⟨fault, rfl⟩
  | ok a =>
    cases y.convert with
    | error fault => exact .inr (.inl ⟨fault, _, rfl⟩)
    | ok b =>
      dsimp only
      rw [set_set]
      exact .inr (.inr ⟨_, rfl⟩)

theorem outcome_otherVector (method : Method) (operation : String) (given : List Snapshot)
    (store : Store) :
    ∃ result, (otherVector method operation given).outcome store = (result, store) :=
  ⟨_, rfl⟩

/-- A change in place overwrites its vector with what the change makes of it. -/
theorem outcome_perform_change (change : Change) (self : VectorId) (arguments : List Value)
    (store : Store) :
    (perform (.change change) self arguments).outcome store =
      match change.result change.name (store.get self) (arguments.map store.snapshot) with
      | .ok v => (.ok (.vector self), store.set self v)
      | .error fault => (.error fault, store) := by
  simp only [perform, write, outcome_bind, outcome_inspect, outcome_of, outcome_update,
    outcome_pure, Method.name]
  cases change.result change.name (store.get self) (arguments.map store.snapshot) <;> rfl

/-- The twin of a change makes a new vector of what the change makes of its vector. -/
theorem outcome_perform_changed (change : Change) (self : VectorId) (arguments : List Value)
    (store : Store) :
    (perform (.changed change) self arguments).outcome store =
      match change.result (change.name ++ "_new") (store.get self)
          (arguments.map store.snapshot) with
      | .ok v => (.ok (.vector store.size), store.push v)
      | .error fault => (.error fault, store) := by
  simp only [perform, allocate, outcome_bind, outcome_inspect, outcome_of, outcome_update,
    outcome_pure, Method.name]
  cases change.result (change.name ++ "_new") (store.get self) (arguments.map store.snapshot) <;>
    rfl

/-- **What a method can do.**  It is refused, overwrites its vector and gives it, makes a
new vector, or gives a number; `reset` alone can fail halfway. -/
theorem outcome_perform_cases (method : Method) (self : VectorId) (arguments : List Value)
    (store : Store) :
    (∃ fault, (perform method self arguments).outcome store = (.error fault, store)) ∨
      (∃ v, (perform method self arguments).outcome store =
        (.ok (.vector self), store.set self v)) ∨
      (∃ v, (perform method self arguments).outcome store =
        (.ok (.vector store.size), store.push v)) ∨
      (∃ x, (perform method self arguments).outcome store = (.ok (.number x), store)) ∨
      method = .reset ∧ ∃ fault v,
        (perform method self arguments).outcome store = (.error fault, store.set self v) := by
  cases method with
  | change change =>
    rw [outcome_perform_change]
    cases change.result change.name (store.get self) (arguments.map store.snapshot) with
    | error fault => exact .inl ⟨fault, rfl⟩
    | ok v => exact .inr (.inl ⟨v, rfl⟩)
  | changed change =>
    rw [outcome_perform_changed]
    cases change.result (change.name ++ "_new") (store.get self)
        (arguments.map store.snapshot) with
    | error fault => exact .inl ⟨fault, rfl⟩
    | ok v => exact .inr (.inr (.inl ⟨v, rfl⟩))
  | clone =>
    simp only [perform, allocate, outcome_bind, outcome_inspect, outcome_of, outcome_update,
      outcome_pure]
    cases noArguments Method.clone.name (arguments.map store.snapshot) with
    | error fault => exact .inl ⟨fault, rfl⟩
    | ok _ => exact .inr (.inr (.inl ⟨_, rfl⟩))
  | reset =>
    simp only [perform, outcome_bind, outcome_inspect]
    split
    · rename_i x y _
      rw [outcome_bind]
      rcases outcome_reset_cases self x y store with
        ⟨fault, h⟩ | ⟨fault, v, h⟩ | ⟨v, h⟩ <;> rw [h]
      · exact .inl ⟨fault, rfl⟩
      · exact .inr (.inr (.inr (.inr ⟨trivial, fault, v, rfl⟩)))
      · exact .inr (.inl ⟨v, rfl⟩)
    · exact .inl ⟨_, rfl⟩
  | resetToVector =>
    obtain ⟨result, h⟩ := outcome_otherVector .resetToVector Method.resetToVector.name
      (arguments.map store.snapshot) store
    simp only [perform, write, outcome_bind, outcome_inspect, h]
    cases result with
    | error fault => exact .inl ⟨fault, rfl⟩
    | ok w => exact .inr (.inl ⟨w, rfl⟩)
  | cross =>
    obtain ⟨result, h⟩ := outcome_otherVector .cross "cross" (arguments.map store.snapshot) store
    simp only [perform, outcome_bind, outcome_inspect, h]
    cases result with
    | error fault => exact .inl ⟨fault, rfl⟩
    | ok w => exact .inr (.inr (.inr (.inl ⟨_, rfl⟩)))
  | distance =>
    obtain ⟨result, h⟩ :=
      outcome_otherVector .distance "subtract" (arguments.map store.snapshot) store
    simp only [perform, outcome_bind, outcome_inspect, h]
    cases result with
    | error fault => exact .inl ⟨fault, rfl⟩
    | ok w => exact .inr (.inr (.inr (.inl ⟨_, rfl⟩)))
  | dot =>
    obtain ⟨result, h⟩ := outcome_otherVector .dot "dot" (arguments.map store.snapshot) store
    simp only [perform, outcome_bind, outcome_inspect, h]
    cases result with
    | error fault => exact .inl ⟨fault, rfl⟩
    | ok w => exact .inr (.inr (.inr (.inl ⟨_, rfl⟩)))

/-- A call does what its method does, and reports a fault as one of a call. -/
theorem outcome_call (method : Method) (self : VectorId) (arguments : List Value) (store : Store) :
    (call method self arguments).outcome store =
      (((perform method self arguments).outcome store).1.mapError (Fault.inCall method.name),
        ((perform method self arguments).outcome store).2) := rfl

/-- **What a call of a method can do** is what the method can do. -/
theorem outcome_call_cases (method : Method) (self : VectorId) (arguments : List Value)
    (store : Store) :
    (∃ fault, (call method self arguments).outcome store = (.error fault, store)) ∨
      (∃ v, (call method self arguments).outcome store =
        (.ok (.vector self), store.set self v)) ∨
      (∃ v, (call method self arguments).outcome store =
        (.ok (.vector store.size), store.push v)) ∨
      (∃ x, (call method self arguments).outcome store = (.ok (.number x), store)) ∨
      method = .reset ∧ ∃ fault v,
        (call method self arguments).outcome store = (.error fault, store.set self v) := by
  rw [outcome_call]
  rcases outcome_perform_cases method self arguments store with
    ⟨fault, h⟩ | ⟨v, h⟩ | ⟨v, h⟩ | ⟨x, h⟩ | ⟨hreset, fault, v, h⟩ <;> rw [h]
  · exact .inl ⟨_, rfl⟩
  · exact .inr (.inl ⟨v, rfl⟩)
  · exact .inr (.inr (.inl ⟨v, rfl⟩))
  · exact .inr (.inr (.inr (.inl ⟨x, rfl⟩)))
  · exact .inr (.inr (.inr (.inr ⟨hreset, _, v, rfl⟩)))

/-- A call of a change in place overwrites its vector with what the change makes of it. -/
theorem outcome_call_change (change : Change) (self : VectorId) (arguments : List Value)
    (store : Store) :
    (call (.change change) self arguments).outcome store =
      match (change.result change.name (store.get self) (arguments.map store.snapshot)).mapError
          (Fault.inCall change.name) with
      | .ok v => (.ok (.vector self), store.set self v)
      | .error fault => (.error fault, store) := by
  rw [outcome_call, outcome_perform_change]
  cases change.result change.name (store.get self) (arguments.map store.snapshot) <;> rfl

/-- A call of the twin of a change makes a new vector of what the change makes of its vector. -/
theorem outcome_call_changed (change : Change) (self : VectorId) (arguments : List Value)
    (store : Store) :
    (call (.changed change) self arguments).outcome store =
      match (change.result (change.name ++ "_new") (store.get self)
          (arguments.map store.snapshot)).mapError (Fault.inCall (change.name ++ "_new")) with
      | .ok v => (.ok (.vector store.size), store.push v)
      | .error fault => (.error fault, store) := by
  rw [outcome_call, outcome_perform_changed]
  cases change.result (change.name ++ "_new") (store.get self) (arguments.map store.snapshot) <;>
    rfl

/-- A `reset` with two numbers overwrites its vector. -/
theorem outcome_call_reset {self : VectorId} {store : Store} (h : self < store.size)
    (x y : Float) :
    (call .reset self [.number x, .number y]).outcome store =
      (.ok (.vector self), store.set self ⟨x, y⟩) := by
  have hreset : (reset self (.number x) (.number y)).outcome store =
      (.ok (), store.set self ⟨x, y⟩) := by
    simp only [reset, Snapshot.convert, outcome_bind, outcome_of, outcome_update,
      get_set_self _ _ h, set_set]
  rw [outcome_call, perform, outcome_bind, outcome_inspect]
  dsimp only
  rw [outcome_bind, outcome_inspect]
  simp only [List.map_cons, List.map_nil, snapshot, outcome_bind, hreset, outcome_pure,
    Except.mapError]

theorem changesOnly_call (method : Method) (self : VectorId) (arguments : List Value)
    (store : Store) : ChangesOnly self store ((call method self arguments).outcome store).2 := by
  rcases outcome_call_cases method self arguments store with
    ⟨_, h⟩ | ⟨v, h⟩ | ⟨v, h⟩ | ⟨_, h⟩ | ⟨-, _, v, h⟩ <;> rw [h]
  · exact .refl self store
  · exact changesOnly_set store self v
  · exact changesOnly_push store self v
  · exact .refl self store
  · exact changesOnly_set store self v

theorem size_le_of_call {method : Method} {self : VectorId} {arguments : List Value}
    {store after : Store} {result : Except Fault Value}
    (h : (call method self arguments).outcome store = (result, after)) :
    store.size ≤ after.size := by
  have hchange := changesOnly_call method self arguments store
  rw [h] at hchange
  exact hchange.size_le

/-- A call gives no vector that is not in the store. -/
theorem within_of_call {method : Method} {self : VectorId} {arguments : List Value}
    {store after : Store} {value : Value} (hself : self < store.size)
    (h : (call method self arguments).outcome store = (.ok value, after)) :
    value.Within after.size := by
  rcases outcome_call_cases method self arguments store with
    ⟨_, h'⟩ | ⟨v, h'⟩ | ⟨v, h'⟩ | ⟨_, h'⟩ | ⟨-, _, v, h'⟩ <;> rw [h'] at h <;> cases h
  · simpa using hself
  · simp
  · simp

/-- A call that fails changes nothing, unless it is a call of `reset`. -/
theorem store_of_call_error {method : Method} {self : VectorId} {arguments : List Value}
    {store after : Store} {fault : Fault} (hmethod : method ≠ .reset)
    (h : (call method self arguments).outcome store = (.error fault, after)) : after = store := by
  rcases outcome_call_cases method self arguments store with
    ⟨_, h'⟩ | ⟨v, h'⟩ | ⟨v, h'⟩ | ⟨_, h'⟩ | ⟨hreset, -⟩
  · rw [h'] at h
    cases h
    rfl
  · rw [h'] at h
    cases h
  · rw [h'] at h
    cases h
  · rw [h'] at h
    cases h
  · exact absurd hreset hmethod

/-! ## Operators -/

/-- **What an operator does to the store**: nothing, or it makes one vector. -/
theorem outcome_operate (symbol : String) (left right : Value) (store : Store) :
    (Store.operate symbol left right).outcome store =
      match LiveVectors.operate symbol (store.snapshot left) (store.snapshot right) with
      | .error fault => (.error fault, store)
      | .ok (.scalar x) => (.ok (.number x), store)
      | .ok (.planar v) => (.ok (.vector store.size), store.push v) := by
  simp only [Store.operate, outcome_bind, outcome_inspect, outcome_of]
  rcases LiveVectors.operate symbol (store.snapshot left) (store.snapshot right) with
    fault | ⟨x | v⟩ <;> rfl

end Store

/-! ## Members -/

theorem Method.name_of_ofName? {name : String} {method : Method}
    (h : Method.ofName? name = some method) : method.name = name := by
  have hname := List.find?_some h
  exact eq_of_beq hname

/-- Writing a property of a vector overwrites it or fails. -/
theorem Store.outcome_writeProperty_cases (self : VectorId) (name : String) (value : Value)
    (store : Store) :
    (∃ fault, (writeProperty self name value).outcome store = (.error fault, store)) ∨
      ∃ v, (writeProperty self name value).outcome store = (.ok (), store.set self v) := by
  simp only [writeProperty, outcome_bind, outcome_of, outcome_inspect]
  cases Property.named name with
  | error fault => exact .inl ⟨fault, rfl⟩
  | ok property =>
    dsimp only
    cases property.write? (store.get self) (store.snapshot value) with
    | none => exact .inl ⟨_, rfl⟩
    | some result =>
      cases result with
      | error fault => exact .inl ⟨fault, rfl⟩
      | ok v => exact .inr ⟨v, rfl⟩

namespace Value

/-- The constructor makes one vector or fails. -/
theorem outcome_construct_cases (arguments : List Value) (store : Store) :
    (∃ fault, (construct arguments).outcome store = (.error fault, store)) ∨
      ∃ v, (construct arguments).outcome store = (.ok store.size, store.push v) := by
  unfold construct
  split
  · exact .inr ⟨_, rfl⟩
  · exact .inl ⟨_, rfl⟩

/-- **Reading a property** fails on every store alike, or gives a number that the components of one
vector decide. -/
theorem outcome_readProperty_cases (target : Value) (name : String) (owner : Option String) :
    (∃ fault, ∀ store, (target.readProperty name owner).outcome store = (.error fault, store)) ∨
      ∃ id property, target.vectorId? = some id ∧ ∀ store,
        (target.readProperty name owner).outcome store =
          (.ok (.number (Property.read property (store.get id))), store) := by
  rw [readProperty]
  cases hbearer : target.bearer name owner with
  | error fault => exact .inl ⟨fault, fun _ => rfl⟩
  | ok id =>
    rw [of_ok_bind]
    cases hnamed : Property.named name with
    | error fault =>
      refine .inl ⟨fault.inAccess name owner, fun store => ?_⟩
      rw [outcome_mapFault, Store.readProperty, hnamed]
      rfl
    | ok property =>
      refine .inr ⟨id, property, vectorId?_of_bearer hbearer, fun store => ?_⟩
      rw [outcome_mapFault, Store.readProperty, hnamed]
      rfl

/-- **What writing a property can do**: it is refused, or it overwrites the vector. -/
theorem outcome_writeProperty_cases (target : Value) (name : String) (value : Value)
    (owner : Option String) (store : Store) :
    (∃ fault, (target.writeProperty name value owner).outcome store = (.error fault, store)) ∨
      ∃ id v, target.vectorId? = some id ∧
        (target.writeProperty name value owner).outcome store = (.ok (), store.set id v) := by
  rw [writeProperty]
  cases hbearer : target.bearer name owner with
  | error fault => exact .inl ⟨fault, rfl⟩
  | ok id =>
    rw [of_ok_bind, outcome_mapFault]
    rcases Store.outcome_writeProperty_cases id name value store with ⟨fault, h⟩ | ⟨v, h⟩ <;> rw [h]
    · exact .inl ⟨_, rfl⟩
    · exact .inr ⟨id, v, vectorId?_of_bearer hbearer, rfl⟩

end Value
end LiveVectors

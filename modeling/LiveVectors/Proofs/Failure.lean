import LiveVectors.Proofs.Purity
import LiveVectors.Proofs.Session

/-!
# Instructions that fail

An instruction that fails binds no name, and if its expressions call no method it leaves every
vector as it was, with one exception: `reset` writes its first argument before it converts the
second one.

* `trace_of_execute_error` — an assignment or a property write that fails has done nothing beyond
  evaluating its expressions.
* `outcome_callMethod_error` — a method call fails before the call or in it, never after.
* `HalfReset` — the exception, and what it does (`HalfReset.outcome_execute`).
* `values_of_execute_error` — the result, after every session.
-/

set_option autoImplicit false

namespace LiveVectors

open LiveVectors.Action

/-! ## Calls that fail -/

/-- **A call that fails changes nothing**, unless it is a `reset` whose second argument is the first
one that does not convert; then the first component is overwritten. -/
theorem Store.outcome_call_error {method : Method} {self : VectorId} {arguments : List Value}
    {store after : Store} {fault : Fault}
    (h : (call method self arguments).outcome store = (.error fault, after)) :
    after = store ∨
      ∃ first second x found, method = .reset ∧ arguments = [first, second] ∧
        (store.snapshot first).convert = .ok x ∧
        (store.snapshot second).convert = .error found ∧
        after = store.set self ⟨x, (store.get self).y⟩ := by
  by_cases hmethod : method = .reset
  · subst hmethod
    simp only [outcome_call, perform, outcome_bind, outcome_inspect] at h
    split at h
    · rename_i first second hgiven
      obtain ⟨left, right, rfl⟩ : ∃ left right, arguments = [left, right] := by
        rcases arguments with _ | ⟨left, _ | ⟨right, _ | ⟨_, _⟩⟩⟩ <;> simp_all
      obtain ⟨rfl, rfl⟩ : store.snapshot left = first ∧ store.snapshot right = second := by
        simpa using hgiven
      simp only [reset, outcome_bind, outcome_of, outcome_update] at h
      cases hx : (store.snapshot left).convert with
      | error found =>
        rw [hx] at h
        cases h
        exact .inl rfl
      | ok x =>
        rw [hx] at h
        cases hy : (store.snapshot right).convert with
        | error found =>
          rw [hy] at h
          cases h
          exact .inr ⟨left, right, x, found, rfl, rfl, hx, hy, rfl⟩
        | ok y =>
          rw [hy] at h
          cases h
    · cases h
      exact .inl rfl
  · exact .inl (store_of_call_error hmethod h)

/-- A method that is found has the name that was asked for. -/
theorem Value.ofName?_of_method {target : Value} {name : String} {owner : Option String}
    {id : VectorId} {method : Method} (h : target.method name owner = .ok (id, method)) :
    Method.ofName? name = some method := by
  rw [Value.method] at h
  split at h
  · rename_i hmethod
    cases h
    exact hmethod
  · cases h

namespace World

/-- **How a call of a variable's method fails**: the variable or the method is not there, an
argument fails, or the call itself is refused.  What depends on the vector is never the cause. -/
theorem outcome_callMethod_error {world : World} (hw : world.WellFormed) {owner name : String}
    {arguments : List Expression} {fault : Fault} {after : World}
    (h : (callMethod owner name (evaluateAll arguments)).outcome world = (.error fault, after)) :
    after = world ∨ (evaluateAll arguments).outcome world = (.error fault, after) ∨
      ∃ id method given middle store, world.vectorOf owner = some id ∧
        Method.ofName? name = some method ∧
        (evaluateAll arguments).outcome world = (.ok given, middle) ∧
        (Store.call method id given).outcome middle.store = (.error fault, store) ∧
        after = { middle with store } := by
  rw [callMethod, outcome_bind, outcome_lookup] at h
  cases hbinding : world.bindings.get? owner with
  | none =>
    rw [hbinding] at h
    cases h
    exact .inl rfl
  | some binding =>
    simp only [hbinding, outcome_bind, outcome_of] at h
    rcases hfound : binding.value.method name (some owner) with found | ⟨id, method⟩ <;>
      rw [hfound] at h
    · cases h
      exact .inl rfl
    rcases hgiven : (evaluateAll arguments).outcome world with ⟨found | given, middle⟩ <;>
      simp only [hgiven, outcome_onStore] at h
    · cases h
      exact .inr (.inl rfl)
    rcases hcall : (Store.call method id given).outcome middle.store with ⟨found | value, store⟩ <;>
      rw [hcall] at h
    · cases h
      have hid : world.vectorOf owner = some id := by
        rw [vectorOf, hbinding]
        exact Value.vectorId?_of_method hfound
      exact .inr (.inr ⟨id, method, given, middle, store, hid, Value.ofName?_of_method hfound, rfl,
        hcall, rfl⟩)
    · -- what depends on the vector is recomputed without fail
      have htrace := (traced_evaluateAll arguments hw).trace
      rw [hgiven] at htrace
      have hmiddle := (htrace.wellFormed_and_later hw).1
      obtain ⟨settled, hpropagate, -⟩ :=
        outcome_propagate (hmiddle.withStore (Store.size_le_of_call hcall)) id
      simp only [hpropagate] at h
      cases h

/-! ## Instructions that fail -/

/-- **An assignment or a property write that fails** has evaluated its expressions, as far as it
got, and has done nothing else. -/
theorem trace_of_execute_error {world : World} (hw : world.WellFormed) {place : Place}
    {instruction : Instruction} {fault : Fault} {after : World}
    (h : (execute place instruction).outcome world = (.error fault, after))
    (hcall : ∀ owner method arguments,
      instruction.statement ≠ .callMethod owner method arguments) :
    Trace world (callsOfStatement place instruction.statement world) after := by
  cases hstatement : instruction.statement with
  | assign name expression modifiers =>
    rw [← hstatement]
    rcases outcome_assign_cases hw place hstatement with
      ⟨found, last, h', htrace⟩ | ⟨value, look, middle, h', -, -⟩ <;> rw [h'] at h <;> cases h
    exact htrace
  | setProperty owner property expression =>
    rw [← hstatement]
    rcases outcome_setProperty_cases hw place hstatement with
      ⟨found, last, h', htrace⟩ | ⟨id, v, middle, h', -, -⟩ <;> rw [h'] at h <;> cases h
    exact htrace
  | callMethod owner method arguments => exact absurd hstatement (hcall owner method arguments)

theorem callsOfStatement_eq_nil (place : Place) {statement : Statement}
    (h : statement.methodFree = true)
    (hcall : ∀ owner method arguments, statement ≠ .callMethod owner method arguments)
    (world : World) : callsOfStatement place statement world = [] := by
  cases statement with
  | assign name expression modifiers =>
    rw [Statement.methodFree, Bool.and_eq_true] at h
    exact callsThen_eq_nil (calls_eq_nil expression h.1 world)
      fun _ => callsOfModifiers_eq_nil place .plain h.2
  | setProperty owner property expression =>
    rw [callsOfStatement]
    exact callsThen_eq_nil rfl fun _ => calls_eq_nil expression h
  | callMethod owner method arguments => exact absurd rfl (hcall owner method arguments)

/-- The instruction is a `reset` of the vector `id` whose first argument converts, to `x`, and
whose second argument does not. -/
def HalfReset (world : World) (instruction : Instruction) (id : VectorId) (x : Float) : Prop :=
  ∃ owner arguments first second middle fault,
    instruction.statement = .callMethod owner Method.reset.name arguments ∧
    world.vectorOf owner = some id ∧
    (evaluateAll arguments).outcome world = (.ok [first, second], middle) ∧
    (middle.store.snapshot first).convert = .ok x ∧
    (middle.store.snapshot second).convert = .error fault

/-- **What a half reset does**: it fails, and the first component stays overwritten. -/
theorem HalfReset.outcome_execute {world : World} (hw : world.WellFormed)
    {instruction : Instruction} {id : VectorId} {x : Float}
    (h : world.HalfReset instruction id x) (hfree : instruction.statement.methodFree = true)
    (place : Place) :
    ∃ middle, world.Intact middle ∧ world.store.size ≤ middle.store.size ∧
      ∃ fault, (execute place instruction).outcome world = (.error fault,
        { middle with store := middle.store.set id ⟨x, (middle.store.get id).y⟩ }) := by
  obtain ⟨owner, arguments, first, second, middle, fault, hstatement, hid, hgiven, hx, hy⟩ := h
  have htrace := (traced_evaluateAll arguments hw).trace
  rw [hstatement] at hfree
  rw [hgiven, callsOfAll_eq_nil arguments hfree] at htrace
  refine ⟨middle, htrace.intact hw, (htrace.wellFormed_and_later hw).2.size_le,
    fault.inCall Method.reset.name, ?_⟩
  obtain ⟨binding, hbinding, hvector⟩ := Option.bind_eq_some_iff.1 hid
  have hmethod : binding.value.method Method.reset.name (some owner) = .ok (id, .reset) := by
    rw [Value.method, hvector, Method.ofName?_name]
  have hcall : (Store.call .reset id [first, second]).outcome middle.store =
      (.error (fault.inCall Method.reset.name),
        middle.store.set id ⟨x, (middle.store.get id).y⟩) := by
    simp only [Store.outcome_call, Store.perform, Store.reset, outcome_bind, outcome_inspect,
      outcome_of, outcome_update, List.map_cons, List.map_nil, hx, hy, Except.mapError]
  simp only [execute, hstatement, outcome_bind, outcome_lookup, hbinding, outcome_of, hmethod,
    hgiven, outcome_onStore, hcall]

/-- A method-free instruction that fails leaves the world intact, unless it is a half reset; that
leaves everything intact but the first component of its vector. -/
theorem intact_or_halfReset {world : World} (hw : world.WellFormed) {place : Place}
    {instruction : Instruction} {fault : Fault} {after : World}
    (hfree : instruction.statement.methodFree = true)
    (h : (execute place instruction).outcome world = (.error fault, after)) :
    world.Intact after ∨ ∃ id x, world.HalfReset instruction id x ∧
      after.bindings = world.bindings ∧
      ∀ other, other < world.store.size → other ≠ id →
        after.store.get other = world.store.get other := by
  by_cases hcall : ∀ owner method arguments,
      instruction.statement ≠ .callMethod owner method arguments
  · have htrace := trace_of_execute_error hw h hcall
    rw [callsOfStatement_eq_nil place hfree hcall] at htrace
    exact .inl (htrace.intact hw)
  · push Not at hcall
    obtain ⟨owner, name, arguments, hstatement⟩ := hcall
    rw [hstatement, Statement.methodFree] at hfree
    have harguments := (traced_evaluateAll arguments hw).trace
    rw [callsOfAll_eq_nil arguments hfree] at harguments
    have hintact := harguments.intact hw
    have hfails : (callMethod owner name (evaluateAll arguments)).outcome world =
        (.error fault, after) := by
      rw [execute_callMethod place hstatement, outcome_bind] at h
      rcases hinner : (callMethod owner name (evaluateAll arguments)).outcome world with
        ⟨found | value, last⟩ <;> rw [hinner] at h <;> cases h
      rfl
    rcases outcome_callMethod_error hw hfails with
      rfl | hgiven | ⟨id, method, given, middle, store, hid, hmethod, hgiven, hstore, rfl⟩
    · exact .inl (.refl after)
    · rw [hgiven] at hintact
      exact .inl hintact
    · rw [hgiven] at hintact
      rcases Store.outcome_call_error hstore with
        rfl | ⟨first, second, x, found, rfl, rfl, hx, hy, rfl⟩
      · exact .inl hintact
      · refine .inr ⟨id, x, ?_, hintact.bindings_eq, fun other hother hne => ?_⟩
        · rw [← Method.name_of_ofName? hmethod] at hstatement
          exact ⟨owner, arguments, first, second, middle, found, hstatement, hid, hgiven, hx, hy⟩
        · exact (Store.get_set_ne middle.store _ hne).trans (hintact.get_eq hother)

/-- **A failing instruction leaves values intact**, after every session: an instruction whose
expressions call no method and that fails changes no binding and no vector, except that a half
reset overwrites the first component of its vector. -/
theorem values_of_execute_error (requests : List Request) (place : Place)
    (instruction : Instruction) (fault : Fault) (after : World)
    (hfree : instruction.statement.methodFree = true)
    (h : (execute place instruction).outcome (session requests) = (.error fault, after)) :
    after.bindings = (session requests).bindings ∧
      ∀ id < (session requests).store.size,
        ((∀ x, ¬ (session requests).HalfReset instruction id x) →
          after.store.get id = (session requests).store.get id) ∧
        ∀ x, (session requests).HalfReset instruction id x →
          after.store.get id = ⟨x, ((session requests).store.get id).y⟩ := by
  have hw := wellFormed_session requests
  have hcases := intact_or_halfReset hw hfree h
  refine ⟨?_, fun id hid => ⟨fun hnone => ?_, fun x hhalf => ?_⟩⟩
  · rcases hcases with hintact | ⟨-, -, -, hbindings, -⟩
    · exact hintact.bindings_eq
    · exact hbindings
  · rcases hcases with hintact | ⟨other, x, hhalf, -, hget⟩
    · exact hintact.get_eq hid
    · exact hget id hid fun heq => hnone x (heq ▸ hhalf)
  · obtain ⟨middle, hintact, hsize, found, hexecute⟩ := hhalf.outcome_execute hw hfree place
    rw [hexecute] at h
    cases h
    exact (Store.get_set_self middle.store _ (Nat.lt_of_lt_of_le hid hsize)).trans
      (by rw [hintact.get_eq hid])

/-- `a.reset(5, #no)` -/
def halfResetLine : Instruction where
  statement := .callMethod "a" "reset" [.number 5, .text "#no"]
  place := ⟨3, "a.reset(5, #no)"⟩

/-- In the script `doubling`, a half reset of the first vector fails, overwrites the first component
of that vector and leaves the second vector intact, which is its double no longer. -/
theorem values_of_halfResetLine :
    halfResetLine.statement.methodFree = true ∧
      ((execute halfResetLine.place halfResetLine).outcome doubling).1 =
        .error (.breakdown (.notANumeral "#no")) ∧
      ((execute halfResetLine.place halfResetLine).outcome doubling).2.store.get 0 =
        ⟨5, (doubling.store.get 0).y⟩ ∧
      ((execute halfResetLine.place halfResetLine).outcome doubling).2.store.get 1 =
        doubling.store.get 1 := by
  have hhalf : doubling.HalfReset halfResetLine 0 5 :=
    ⟨"a", [.number 5, .text "#no"], .number 5, .text "#no", doubling,
      .breakdown (.notANumeral "#no"), rfl, rfl, rfl, rfl, rfl⟩
  have hother : ∀ x, ¬ doubling.HalfReset halfResetLine 1 x := by
    rintro x ⟨owner, arguments, first, second, middle, fault, hstatement, hid, -⟩
    cases hstatement
    exact absurd hid (by decide)
  have hvalues := (values_of_execute_error [.run [vectorLine, doubleLine]] halfResetLine.place
    halfResetLine (.breakdown (.notANumeral "#no"))
    ((execute halfResetLine.place halfResetLine).outcome doubling).2 rfl rfl).2
  exact ⟨rfl, rfl, (hvalues 0 (by decide)).2 5 hhalf, (hvalues 1 (by decide)).1 hother⟩

/-- **Not every failing instruction leaves values intact**: a half reset does not. -/
theorem values_lost_by_halfResetLine :
    ¬ ∀ (requests : List Request) (place : Place) (instruction : Instruction) (fault : Fault)
        (after : World), instruction.statement.methodFree = true →
      (execute place instruction).outcome (session requests) = (.error fault, after) →
      after.bindings = (session requests).bindings ∧
        ∀ id < (session requests).store.size,
          after.store.get id = (session requests).store.get id := by
  intro h
  have hsame := (h [.run [vectorLine, doubleLine]] halfResetLine.place halfResetLine
    (.breakdown (.notANumeral "#no"))
    ((execute halfResetLine.place halfResetLine).outcome doubling).2 rfl rfl).2 0 (by decide)
  exact absurd hsame (by decide)

end World
end LiveVectors

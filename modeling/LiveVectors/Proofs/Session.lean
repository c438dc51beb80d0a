import LiveVectors.Live.Drag
import LiveVectors.Proofs.Rounding
import LiveVectors.Proofs.Trace

/-!
# Sessions

A host runs scripts, carries out single instructions, evaluates expressions, resolves modifiers and
drags vectors, in any order, and goes on when one of these fails.  A `Request` is one of them, and
a session is a list of requests that begins with nothing.

* `executed_execute` and `outcome_move_cases` say all that an instruction and a drag can do to a
  world, beyond the trace that evaluation leaves.
* `wellFormed_session` — every session leads to a well-formed world.
* `provenance_session` — what that means for the dependency graph, and that no request but a new run
  takes anything out of it.
-/

set_option autoImplicit false

namespace LiveVectors
namespace World

open LiveVectors.Action Relation

/-! ## What is never lost -/

/-- The world is well-formed, and nothing of the graph of an earlier one is lost in it. -/
structure Keeps (world after : World) : Prop where
  wellFormed : after.WellFormed
  extends_graph : world.graph.Extends after.graph

theorem Keeps.refl {world : World} (hw : world.WellFormed) : world.Keeps world := ⟨hw, .refl _⟩

theorem Keeps.trans {world middle after : World} (h : world.Keeps middle)
    (h' : middle.Keeps after) : world.Keeps after :=
  ⟨h'.wellFormed, h.extends_graph.trans h'.extends_graph⟩

/-- A property of worlds that each step of a list keeps is kept by all of them together. -/
theorem keeps_foldl {α : Type} {step : World → α → World} {steps : List α} {world : World}
    (hw : world.WellFormed)
    (hstep : ∀ a ∈ steps, ∀ {world : World}, world.WellFormed → world.Keeps (step world a)) :
    world.Keeps (steps.foldl step world) := by
  induction steps generalizing world with
  | nil => exact .refl hw
  | cons a rest ih =>
    have hfirst := hstep a (by simp) hw
    exact hfirst.trans
      (ih hfirst.wellFormed fun b hb => hstep b (List.mem_cons_of_mem _ hb))

theorem Trace.keeps {world after : World} {made : List Call} (h : Trace world made after)
    (hw : world.WellFormed) : world.Keeps after :=
  have ⟨hafter, hlater⟩ := h.wellFormed_and_later hw
  ⟨hafter, hlater.extends_graph⟩

/-! ## Overwriting a vector -/

/-- The vector of a variable. -/
def vectorOf (world : World) (name : String) : Option VectorId :=
  (world.bindings.get? name).bind fun binding => binding.value.vectorId?

/-- The world after a vector is overwritten and what depends on it is recomputed. -/
def overwrite (world : World) (id : VectorId) (v : PlaneVector) : World :=
  ((propagate id).outcome { world with store := world.store.set id v }).2

theorem lt_of_vectorOf {world : World} (hw : world.WellFormed) {name : String} {id : VectorId}
    (h : world.vectorOf name = some id) : id < world.store.size := by
  obtain ⟨binding, hbinding, hid⟩ := Option.bind_eq_some_iff.1 h
  exact hw.bound hbinding id hid

/-- **Overwriting a vector settles its dependents** and leaves every other vector as it was. -/
theorem overwrite_eq {world : World} (hw : world.WellFormed) (id : VectorId) (v : PlaneVector) :
    ∃ store, world.overwrite id v = { world with store } ∧
      ({ world with store := world.store.set id v } : World).Settled
        (world.liveDependents id) store := by
  have hset : ({ world with store := world.store.set id v } : World).WellFormed :=
    hw.withStore (by simp)
  obtain ⟨store, hpropagate, hsettled⟩ := outcome_propagate hset id
  exact ⟨store, by rw [overwrite, hpropagate], hsettled⟩

theorem bindings_overwrite {world : World} (hw : world.WellFormed) (id : VectorId)
    (v : PlaneVector) : (world.overwrite id v).bindings = world.bindings := by
  obtain ⟨store, heq, -⟩ := overwrite_eq hw id v
  rw [heq]

theorem keeps_overwrite {world : World} (hw : world.WellFormed) (id : VectorId)
    (v : PlaneVector) : world.Keeps (world.overwrite id v) := by
  obtain ⟨store, heq, hsettled⟩ := overwrite_eq hw id v
  have hsize : store.size = world.store.size := by simpa using hsettled.size_eq
  rw [heq]
  exact ⟨hw.withStore (Nat.le_of_eq hsize.symm), .refl _⟩

/-! ## Binding a name -/

/-- The world after a name is bound. -/
def bindName (world : World) (name : String) (binding : Binding) : World :=
  { world with bindings := world.bindings.bind name binding }

theorem get?_bindName (world : World) (name other : String) (binding : Binding) :
    (world.bindName name binding).bindings.get? other =
      if other = name then some binding else world.bindings.get? other := by
  by_cases h : other = name
  · subst h
    simp [bindName, Bindings.get?, Bindings.bind]
  · simp [bindName, Bindings.get?, Bindings.bind, Table.get?_put_ne _ _ h, h]

theorem boundAsReference_bindName_self (world : World) (name : String) (binding : Binding) :
    (world.bindName name binding).bindings.boundAsReference binding.value =
      some ((world.bindings.boundAsReference binding.value).getD false ||
        binding.look.reference) := by
  rw [bindName, Bindings.boundAsReference, Bindings.bind, Table.get?_put_self]

theorem boundAsReference_bindName_ne (world : World) (name : String) {binding : Binding}
    {value : Value} (h : value ≠ binding.value) :
    (world.bindName name binding).bindings.boundAsReference value =
      world.bindings.boundAsReference value := by
  rw [bindName, Bindings.boundAsReference, Bindings.bind, Table.get?_put_ne _ _ h]
  rfl

/-- What was bound once stays known. -/
theorem isSome_boundAsReference_bindName {world : World} {value : Value}
    (h : (world.bindings.boundAsReference value).isSome) (name : String) (binding : Binding) :
    ((world.bindName name binding).bindings.boundAsReference value).isSome := by
  by_cases heq : value = binding.value
  · rw [heq, boundAsReference_bindName_self]
    rfl
  · rwa [boundAsReference_bindName_ne world name heq]

theorem wellFormed_bindName {world : World} (hw : world.WellFormed) (name : String)
    {binding : Binding} (hvalue : Has binding.value world) :
    (world.bindName name binding).WellFormed where
  graph := hw.graph
  bound := by
    intro other found hfound
    rw [get?_bindName] at hfound
    split at hfound
    · cases hfound
      exact hvalue
    · exact hw.bound hfound
  known := by
    intro id reference hknown
    by_cases h : Value.vector id = binding.value
    · exact hvalue id (h ▸ rfl)
    · rw [boundAsReference_bindName_ne world name h] at hknown
      exact hw.known hknown

/-! ## Instructions -/

/-- The vector that an instruction overwrites by writing a property, unless it fails. -/
def written (place : Place) (instruction : Instruction) (world : World) : List VectorId :=
  match instruction.statement, ((execute place instruction).outcome world).1 with
  | .setProperty owner _ _, .ok _ => (world.vectorOf owner).toList
  | _, _ => []

/-- **All that an instruction can do.**  It evaluates, and that may be all, because it fails or
because it is a method call; an assignment then binds its name, and a property write overwrites
the vector of its variable. -/
inductive Executed (world : World) (place : Place) (instruction : Instruction) : World → Prop
  | evaluated {after : World}
      (htrace : Trace world (callsOfStatement place instruction.statement world) after) :
      Executed world place instruction after
  | bound {middle : World} {name : String} {binding : Binding}
      (htrace : Trace world (callsOfStatement place instruction.statement world) middle)
      (hvalue : Has binding.value middle) :
      Executed world place instruction (middle.bindName name binding)
  | written {middle : World} {id : VectorId}
      (htrace : Trace world (callsOfStatement place instruction.statement world) middle)
      (hwritten : written place instruction world = [id]) (v : PlaneVector) :
      Executed world place instruction (middle.overwrite id v)

theorem outcome_lookup (name : String) (world : World) :
    (lookup name).outcome world =
      match world.bindings.get? name with
      | some binding => (.ok binding.value, world)
      | none => (.error (.undefinedVariable name), world) := by
  rw [lookup, outcome_bind, outcome_inspect]
  cases world.bindings.get? name <;> rfl

/-- Dropping the result of an action leaves what it does. -/
theorem outcome_discard {α : Type} (action : Action World α) (world : World) :
    ((do let _ ← action : Action World Unit).outcome world).2 = (action.outcome world).2 := by
  rw [outcome_bind]
  rcases action.outcome world with ⟨_ | _, after⟩ <;> rfl

/-- The traces of two actions one after the other, taken apart where the first one ends. -/
theorem Traced.cases_bind {α β : Type} {world : World} {action : Action World α}
    {next : α → Action World β} {made : List Call} {post : α → World → Prop}
    (h : Traced world action made post) :
    (∃ fault after, (action >>= next).outcome world = (.error fault, after) ∧
        action.outcome world = (.error fault, after) ∧ Trace world made after) ∨
      ∃ a after, (action >>= next).outcome world = (next a).outcome after ∧
        action.outcome world = (.ok a, after) ∧ Trace world made after ∧ post a after := by
  have htrace := h.trace
  rcases houtcome : action.outcome world with ⟨fault | a, after⟩ <;> rw [houtcome] at htrace
  · exact .inl ⟨fault, after, by rw [outcome_bind, houtcome], rfl, htrace⟩
  · exact .inr ⟨a, after, by rw [outcome_bind, houtcome], rfl, htrace, h.result houtcome⟩

/-- **What an assignment does**: it fails while it evaluates, and that is all, or it binds its name
to what it has evaluated. -/
theorem outcome_assign_cases {world : World} (hw : world.WellFormed) (place : Place)
    {instruction : Instruction} {name : String} {expression : Expression}
    {modifiers : List Modifier}
    (hstatement : instruction.statement = .assign name expression modifiers) :
    (∃ fault after, (execute place instruction).outcome world = (.error fault, after) ∧
        Trace world (callsOfStatement place instruction.statement world) after) ∨
      ∃ value look middle, (execute place instruction).outcome world =
          (.ok (), middle.bindName name ⟨value, look, instruction⟩) ∧
        Trace world (callsOfStatement place instruction.statement world) middle ∧
        Has value middle := by
  have hvalue := traced_evaluate expression hw
  simp only [execute, hstatement]
  rcases hvalue.cases_bind with ⟨fault, after, hbind, heval, htrace⟩ | ⟨value, after, hbind,
      heval, htrace, hhas⟩ <;> rw [hbind]
  · refine .inl ⟨fault, after, rfl, ?_⟩
    simpa [callsOfStatement, callsThen, heval] using htrace
  · obtain ⟨hafter, hlater⟩ := htrace.wellFormed_and_later hw
    have hlook := traced_resolve hafter place modifiers
    have hcalls : Trace world (callsOfStatement place (.assign name expression modifiers) world)
        ((resolve place modifiers).outcome after).2 := by
      simpa [callsOfStatement, callsThen, heval] using htrace.trans hlook.trace
    rcases hlook.cases_bind with ⟨fault, last, hbind', hresolve, -⟩ | ⟨look, last, hbind',
        hresolve, htrace', -⟩ <;> rw [hresolve] at hcalls <;> rw [hbind']
    · exact .inl ⟨fault, last, rfl, hcalls⟩
    · have hlast := (htrace'.wellFormed_and_later hafter).2
      exact .inr ⟨value, look, last, rfl, hcalls, hlast.has hhas⟩

theorem executed_assign {world : World} (hw : world.WellFormed) {place : Place}
    {instruction : Instruction} {name : String} {expression : Expression}
    {modifiers : List Modifier}
    (hstatement : instruction.statement = .assign name expression modifiers) :
    Executed world place instruction ((execute place instruction).outcome world).2 := by
  rcases outcome_assign_cases hw place hstatement with
    ⟨fault, after, h, htrace⟩ | ⟨value, look, middle, h, htrace, hvalue⟩ <;> rw [h]
  · exact .evaluated htrace
  · exact .bound htrace hvalue

/-- A write that is carried out is followed by propagation. -/
theorem outcome_overwrite {world : World} (hw : world.WellFormed) {id : VectorId}
    {v : PlaneVector} {action : Action Store Unit}
    (h : action.outcome world.store = (.ok (), world.store.set id v)) :
    (do
        onStore action
        propagateValue (.vector id) : Action World Unit).outcome world =
      (.ok (), world.overwrite id v) := by
  have hset : ({ world with store := world.store.set id v } : World).WellFormed :=
    hw.withStore (by simp)
  obtain ⟨store, hpropagate, -⟩ := outcome_propagate hset id
  rw [outcome_bind, outcome_onStore, h]
  dsimp only
  rw [propagateValue, outcome_bind, overwrite, hpropagate]
  rfl

/-- **What a property write does**: it fails while it evaluates or because it is refused, and that
is all, or it overwrites the vector of its variable. -/
theorem outcome_setProperty_cases {world : World} (hw : world.WellFormed) (place : Place)
    {instruction : Instruction} {owner property : String} {expression : Expression}
    (hstatement : instruction.statement = .setProperty owner property expression) :
    (∃ fault after, (execute place instruction).outcome world = (.error fault, after) ∧
        Trace world (callsOfStatement place instruction.statement world) after) ∨
      ∃ id v middle, (execute place instruction).outcome world = (.ok (), middle.overwrite id v) ∧
        Trace world (callsOfStatement place instruction.statement world) middle ∧
        world.vectorOf owner = some id := by
  cases hfound : world.bindings.get? owner with
  | none =>
    simp only [execute, hstatement]
    rw [outcome_bind, outcome_lookup, hfound]
    refine .inl ⟨_, world, rfl, ?_⟩
    simpa [callsOfStatement, callsThen, outcome_lookup, hfound] using Trace.nil world
  | some binding =>
    have hexecute : (execute place instruction).outcome world =
        (do
          let value ← evaluate expression
          onStore (binding.value.writeProperty property value (some owner))
          propagateValue binding.value).outcome world := by
      simp only [execute, hstatement]
      rw [outcome_bind, outcome_lookup, hfound]
    have hcalls : callsOfStatement place instruction.statement world = calls expression world := by
      simp [hstatement, callsOfStatement, callsThen, outcome_lookup, hfound]
    rw [hexecute, hcalls]
    rcases (traced_evaluate expression hw).cases_bind with
      ⟨fault, middle, hbind, -, htrace⟩ | ⟨value, middle, hbind, -, htrace, hhas⟩ <;> rw [hbind]
    · exact .inl ⟨fault, middle, rfl, htrace⟩
    · rcases binding.value.outcome_writeProperty_cases property value (some owner) middle.store with
        ⟨fault, hwrite⟩ | ⟨id, v, hid, hwrite⟩
      · rw [outcome_bind, outcome_onStore, hwrite]
        exact .inl ⟨fault, middle, rfl, htrace⟩
      · have hvector : binding.value = .vector id := by
          cases hvalue : binding.value <;> simp_all [Value.vectorId?]
        rw [hvector] at hwrite ⊢
        rw [outcome_overwrite (htrace.wellFormed_and_later hw).1 hwrite]
        exact .inr ⟨id, v, middle, rfl, htrace, by rw [vectorOf, hfound]; exact hid⟩

theorem executed_setProperty {world : World} (hw : world.WellFormed) {place : Place}
    {instruction : Instruction} {owner property : String} {expression : Expression}
    (hstatement : instruction.statement = .setProperty owner property expression) :
    Executed world place instruction ((execute place instruction).outcome world).2 := by
  rcases outcome_setProperty_cases hw place hstatement with
    ⟨fault, after, h, htrace⟩ | ⟨id, v, middle, h, htrace, hid⟩
  · rw [h]
    exact .evaluated htrace
  · have hwritten : written place instruction world = [id] := by
      simp [written, hstatement, h, hid]
    rw [h]
    exact .written htrace hwritten v

/-- A method call leaves a trace, whether it succeeds or fails. -/
theorem trace_callMethod {world : World} (hw : world.WellFormed) (place : Place)
    {instruction : Instruction} {owner method : String} {arguments : List Expression}
    (hstatement : instruction.statement = .callMethod owner method arguments) :
    Trace world (callsOfStatement place instruction.statement world)
      ((execute place instruction).outcome world).2 := by
  have hcall : Traced world (callMethod owner method (evaluateAll arguments))
      (callsOfMember owner method (evaluateAll arguments) (callsOfAll arguments) world) Has :=
    traced_callMethod hw owner method fun world hworld => traced_evaluateAll arguments hworld
  have heffect : ((execute place instruction).outcome world).2 =
      ((callMethod owner method (evaluateAll arguments)).outcome world).2 := by
    rw [execute_callMethod place hstatement]
    exact outcome_discard _ world
  rw [heffect, hstatement]
  exact hcall.trace

/-- **All that carrying out an instruction can do**, whether it succeeds or fails. -/
theorem executed_execute {world : World} (hw : world.WellFormed) (place : Place)
    (instruction : Instruction) :
    Executed world place instruction ((execute place instruction).outcome world).2 := by
  cases hstatement : instruction.statement with
  | assign name expression modifiers => exact executed_assign hw hstatement
  | setProperty owner property expression => exact executed_setProperty hw hstatement
  | callMethod owner method arguments => exact .evaluated (trace_callMethod hw place hstatement)

theorem Executed.keeps {world after : World} {place : Place} {instruction : Instruction}
    (h : Executed world place instruction after) (hw : world.WellFormed) : world.Keeps after := by
  cases h with
  | evaluated htrace => exact htrace.keeps hw
  | bound htrace hvalue =>
    have hmiddle := htrace.keeps hw
    exact hmiddle.trans ⟨wellFormed_bindName hmiddle.wellFormed _ hvalue, .refl _⟩
  | written htrace hwritten v =>
    have hmiddle := htrace.keeps hw
    exact hmiddle.trans (keeps_overwrite hmiddle.wellFormed _ v)

/-- A fault of an instruction is reported, and nothing else happens to the world. -/
theorem attempt_cases (world : World) (instruction : Instruction) :
    attempt world instruction =
        ((execute instruction.place instruction).outcome world).2 ∨
      ∃ kind message, attempt world instruction =
        ((execute instruction.place instruction).outcome world).2.report kind message
          instruction.place := by
  unfold attempt
  rcases (execute instruction.place instruction).outcome world with ⟨fault | _, after⟩
  · exact .inr ⟨fault.kind, fault.message, rfl⟩
  · exact .inl rfl

theorem bindings_attempt (world : World) (instruction : Instruction) :
    (attempt world instruction).bindings =
      ((execute instruction.place instruction).outcome world).2.bindings := by
  rcases attempt_cases world instruction with h | ⟨kind, message, h⟩ <;> rw [h]
  rfl

theorem keeps_attempt {world : World} (hw : world.WellFormed) (instruction : Instruction) :
    world.Keeps (attempt world instruction) := by
  have hexecute := (executed_execute hw instruction.place instruction).keeps hw
  rcases attempt_cases world instruction with h | ⟨kind, message, h⟩ <;> rw [h]
  · exact hexecute
  · exact hexecute.trans ((Trace.nil _).quiet (.report _ _ _ _) |>.keeps hexecute.wellFormed)

/-- **A run keeps what it has built.** -/
theorem keeps_foldl_attempt {world : World} (hw : world.WellFormed)
    (instructions : List Instruction) : world.Keeps (instructions.foldl attempt world) :=
  keeps_foldl hw fun instruction _ _ hworld => keeps_attempt hworld instruction

theorem wellFormed_run (instructions : List Instruction) : (run instructions).WellFormed :=
  (keeps_foldl_attempt wellFormed_empty instructions).wellFormed

/-! ## Drags -/

/-- Where a dragged vector ends up: the given place, or the nearest integers. -/
def landing (x y : Float) (snap : Bool) : Except Fault PlaneVector :=
  if snap then Change.round.result Change.round.name ⟨x, y⟩ [] else .ok ⟨x, y⟩

/-- Finite coordinates are always a place to land. -/
theorem landing_of_isFinite {x y : Float} (hx : x.isFinite = true) (hy : y.isFinite = true)
    (snap : Bool) : ∃ v, landing x y snap = .ok v := by
  cases snap with
  | false => exact ⟨_, rfl⟩
  | true =>
    obtain ⟨left, hleft⟩ := Change.roundComponent_of_isFinite hx
    obtain ⟨right, hright⟩ := Change.roundComponent_of_isFinite hy
    refine ⟨⟨left, right⟩, ?_⟩
    simp only [landing, if_true, Change.result, hleft, hright]
    rfl

theorem outcome_round_set {store : Store} {id : VectorId} (hid : id < store.size) (x y : Float) :
    (Store.perform (.change .round) id []).outcome (store.set id ⟨x, y⟩) =
      match landing x y true with
      | .ok v => (.ok (.vector id), store.set id v)
      | .error fault => (.error fault, store.set id ⟨x, y⟩) := by
  have h := Store.outcome_perform_change .round id [] (store.set id ⟨x, y⟩)
  rw [Store.get_set_self store _ hid, List.map_nil] at h
  rw [h, landing, if_pos rfl]
  cases Change.round.result Change.round.name ⟨x, y⟩ [] with
  | error fault => rfl
  | ok v => simp only [Store.set_set]

/-- The end of a drag: the dependents follow, and the names of what was recomputed are given. -/
theorem outcome_propagate_names {world : World} (hw : world.WellFormed) (id : VectorId)
    (v : PlaneVector) :
    (do
        let refreshed ← propagate id
        Action.inspect fun world => refreshed.flatMap world.bindings.namesOf :
          Action World (List String)).outcome { world with store := world.store.set id v } =
      (.ok ((world.liveDependents id).flatMap world.bindings.namesOf), world.overwrite id v) := by
  have hset : ({ world with store := world.store.set id v } : World).WellFormed :=
    hw.withStore (by simp)
  obtain ⟨store, hpropagate, -⟩ := outcome_propagate hset id
  rw [outcome_bind, hpropagate, overwrite, hpropagate]
  rfl

/-- **All that a drag can do.**  It is refused; or it places its vector and then fails to round
it; or the vector ends up where it should and its dependents follow. -/
theorem outcome_move_cases {world : World} (hw : world.WellFormed) (name : String) (x y : Float)
    (snap : Bool) :
    (world.vectorOf name = none ∧
        ∃ fault, (move name x y snap).outcome world = (.error fault, world)) ∨
      ∃ id, world.vectorOf name = some id ∧
        ((∃ fault, landing x y snap = .error fault ∧ (move name x y snap).outcome world =
            (.error fault, { world with store := world.store.set id ⟨x, y⟩ })) ∨
          ∃ v, landing x y snap = .ok v ∧ (move name x y snap).outcome world =
            (.ok ((world.liveDependents id).flatMap world.bindings.namesOf),
              world.overwrite id v)) := by
  cases hfound : world.bindings.get? name with
  | none =>
    refine .inl ⟨by simp [vectorOf, hfound], .undefinedVariable name, ?_⟩
    rw [move, outcome_bind, outcome_lookup, hfound]
  | some binding =>
    have hlookup : (lookup name).outcome world = (.ok binding.value, world) := by
      rw [outcome_lookup, hfound]
    cases hvalue : binding.value with
    | vector id =>
      have hid : world.vectorOf name = some id := by
        simp [vectorOf, hfound, hvalue, Value.vectorId?]
      have hround := outcome_round_set (lt_of_vectorOf hw hid) x y
      rw [hvalue] at hlookup
      refine .inr ⟨id, hid, ?_⟩
      cases snap with
      | false =>
        refine .inr ⟨⟨x, y⟩, rfl, ?_⟩
        rw [move, outcome_bind, hlookup]
        exact outcome_propagate_names hw id ⟨x, y⟩
      | true =>
        cases hlanding : landing x y true with
        | error fault =>
          rw [hlanding] at hround
          refine .inl ⟨fault, rfl, ?_⟩
          rw [move, outcome_bind, hlookup]
          simp only [outcome_bind, outcome_onStore, Store.write, outcome_update, if_true, hround]
        | ok v =>
          rw [hlanding] at hround
          refine .inr ⟨v, rfl, ?_⟩
          rw [move, outcome_bind, hlookup]
          simp only [outcome_bind, outcome_onStore, Store.write, outcome_update, if_true, hround]
          simpa only [outcome_bind] using outcome_propagate_names hw id v
    | _ =>
      refine .inl ⟨by simp [vectorOf, hfound, hvalue, Value.vectorId?],
        .badArgument (.notAVector name), ?_⟩
      rw [move, outcome_bind, hlookup, hvalue]
      rfl

/-- **A drag changes components and nothing else.** -/
theorem exists_move_eq {world : World} (hw : world.WellFormed) (name : String) (x y : Float)
    (snap : Bool) :
    ∃ store, ((move name x y snap).outcome world).2 = { world with store } ∧
      store.size = world.store.size := by
  rcases outcome_move_cases hw name x y snap with
    ⟨-, fault, h⟩ | ⟨id, -, ⟨fault, -, h⟩ | ⟨v, -, h⟩⟩ <;> rw [h]
  · exact ⟨world.store, rfl, rfl⟩
  · exact ⟨_, rfl, by simp⟩
  · obtain ⟨store, heq, hsettled⟩ := overwrite_eq hw id v
    exact ⟨store, heq, by simpa using hsettled.size_eq⟩

theorem keeps_move {world : World} (hw : world.WellFormed) (name : String) (x y : Float)
    (snap : Bool) : world.Keeps ((move name x y snap).outcome world).2 := by
  obtain ⟨store, h, hsize⟩ := exists_move_eq hw name x y snap
  rw [h]
  exact ⟨hw.withStore (Nat.le_of_eq hsize.symm), .refl _⟩

/-! ## Two scripts -/

/-- `a = Vec2(1, 2)` -/
def vectorLine : Instruction where
  statement := .assign "a" (.call "Vec2" [.number 1, .number 2]) []
  place := ⟨1, "a = Vec2(1, 2)"⟩

/-- `b = a * 2, reference` -/
def doubleLine : Instruction where
  statement := .assign "b" (.operation .times (.named "a") (.number 2)) [.flag "reference"]
  place := ⟨2, "b = a * 2, reference"⟩

/-- A vector, and a reference to its double. -/
def doubling : World := run [vectorLine, doubleLine]

theorem wellFormed_doubling : doubling.WellFormed := wellFormed_run _

/-- `b = Vec2(3, 4)` -/
def otherVectorLine : Instruction where
  statement := .assign "b" (.call "Vec2" [.number 3, .number 4]) []
  place := ⟨2, "b = Vec2(3, 4)"⟩

/-- `c = b - a, reference` -/
def differenceLine : Instruction where
  statement := .assign "c" (.operation .minus (.named "b") (.named "a")) [.flag "reference"]
  place := ⟨3, "c = b - a, reference"⟩

/-- Two vectors, and a reference to the second one less the first one. -/
def difference : World := run [vectorLine, otherVectorLine, differenceLine]

theorem wellFormed_difference : difference.WellFormed := wellFormed_run _

/-! ## Requests -/

/-- What a host can ask for. -/
inductive Request
  /-- A run of a script, which begins with nothing. -/
  | run (instructions : List Instruction)
  /-- A single instruction; warnings go to `place`. -/
  | execute (place : Place) (instruction : Instruction)
  /-- The value of an expression. -/
  | evaluate (expression : Expression)
  /-- The look that modifiers give; warnings go to `place`. -/
  | resolve (place : Place) (modifiers : List Modifier)
  /-- A drag of the vector of a variable. -/
  | move (name : String) (x y : Float) (snap : Bool)

namespace Request

/-- The world after a request, whether it succeeds or fails. -/
def after : Request → World → World
  | run instructions, _ => World.run instructions
  | execute place instruction, world => ((World.execute place instruction).outcome world).2
  | evaluate expression, world => ((World.evaluate expression).outcome world).2
  | resolve place modifiers, world => ((World.resolve place modifiers).outcome world).2
  | move name x y snap, world => ((World.move name x y snap).outcome world).2

/-- Whether a request begins with nothing. -/
def isRun : Request → Bool
  | run _ => true
  | _ => false

end Request

/-- The world after several requests, the first of which begins with nothing. -/
def session (requests : List Request) : World :=
  requests.foldl (fun world request => request.after world) empty

/-- **A request keeps what was there**, unless it is a new run. -/
theorem Request.keeps {world : World} (hw : world.WellFormed) {request : Request}
    (hrun : request.isRun = false) : world.Keeps (request.after world) := by
  cases request with
  | run instructions => exact absurd hrun (by simp [isRun])
  | execute place instruction => exact (executed_execute hw place instruction).keeps hw
  | evaluate expression => exact (traced_evaluate expression hw).trace.keeps hw
  | resolve place modifiers => exact (traced_resolve hw place modifiers).trace.keeps hw
  | move name x y snap => exact keeps_move hw name x y snap

theorem Request.wellFormed_after {world : World} (hw : world.WellFormed) (request : Request) :
    (request.after world).WellFormed := by
  cases hrun : request.isRun with
  | false => exact (request.keeps hw hrun).wellFormed
  | true =>
    cases request with
    | run instructions => exact wellFormed_run instructions
    | _ => simp [isRun] at hrun

/-- **Nothing but a new run and an instruction binds a name.** -/
theorem Request.bindings_after {world : World} (hw : world.WellFormed) {request : Request}
    (hrun : request.isRun = false)
    (hexecute : ∀ place instruction, request ≠ .execute place instruction) :
    (request.after world).bindings = world.bindings := by
  cases request with
  | run instructions => cases hrun
  | execute place instruction => exact absurd rfl (hexecute place instruction)
  | evaluate expression => exact (traced_evaluate expression hw).trace.bindings_eq hw
  | resolve place modifiers => exact (traced_resolve hw place modifiers).trace.bindings_eq hw
  | move name x y snap =>
    obtain ⟨store, heq, -⟩ := exists_move_eq hw name x y snap
    rw [after, heq]

theorem session_append (requests later : List Request) :
    session (requests ++ later) =
      later.foldl (fun world request => request.after world) (session requests) :=
  List.foldl_append

theorem wellFormed_foldl_after {world : World} (hw : world.WellFormed)
    (requests : List Request) :
    (requests.foldl (fun world request => request.after world) world).WellFormed := by
  induction requests generalizing world with
  | nil => exact hw
  | cons request rest ih => exact ih (request.wellFormed_after hw)

/-- **Every session leads to a well-formed world.** -/
theorem wellFormed_session (requests : List Request) : (session requests).WellFormed :=
  wellFormed_foldl_after wellFormed_empty requests

/-- **Where derived vectors come from**, after every session.  The edges of the graph are what the
derivations say.  Every derivation has an operator that gives vectors, stands under its own target,
comes after its operands in the order of numbers and can be recomputed whatever the components
are.  So nothing depends on itself.  Until a new run begins, and while a run goes on, nothing of
the graph is lost or changed. -/
theorem provenance_session (requests : List Request) :
    (∀ operand derived, derived ∈ (session requests).graph.dependents operand ↔
      ∃ derivation, (session requests).graph.derivation? derived = some derivation ∧
        operand ∈ derivation.vectorOperands) ∧
    (∀ id derivation, (session requests).graph.derivation? id = some derivation →
      derivation.operator ∈ ["+", "-", "*"] ∧
      derivation.vectorOperands ≠ [] ∧
      derivation.target = id ∧
      (∀ operand ∈ derivation.vectorOperands,
        (session requests).graph.rank operand < (session requests).graph.rank id) ∧
      ∀ store, (derivation.recompute.outcome store).1 = .ok ()) ∧
    (∀ id id' record record', (session requests).graph.records.get? id = some record →
      (session requests).graph.records.get? id' = some record' →
      record.number = record'.number → id = id') ∧
    (∀ id, ¬ TransGen (fun operand derived =>
      derived ∈ (session requests).graph.dependents operand) id id) ∧
    (∀ later : List Request, (∀ request ∈ later, request.isRun = false) →
      (session requests).graph.Extends (session (requests ++ later)).graph) ∧
    ∀ instructions more : List Instruction,
      (run instructions).graph.Extends (run (instructions ++ more)).graph := by
  have hw := wellFormed_session requests
  refine ⟨?_, ?_, ?_, ?_, ?_, ?_⟩
  · intro operand derived
    exact hw.graph.edge_iff
  · intro id derivation hd
    have hsound := hw.graph.sound hd
    refine ⟨hsound.operator_mem, hsound.planar, hw.graph.target_eq hd, ?_, ?_⟩
    · intro operand ho
      exact hw.graph.rank_lt hd ho
    · intro store
      obtain ⟨v, -, hrecompute⟩ := hsound.outcome_recompute store
      rw [hrecompute]
  · intro id id' record record' hr hr' heq
    exact hw.graph.number_inj hr hr' heq
  · intro id hpath
    have hedges : TransGen ((session requests).graph.Edge fun _ => True) id id :=
      TransGen.mono (fun _ _ hstep => ⟨hstep, trivial⟩) _ _ hpath
    exact absurd (hw.graph.lt_of_path hedges) (Nat.lt_irrefl id)
  · intro later hlater
    rw [session_append]
    refine (keeps_foldl hw ?_).extends_graph
    intro request hrequest world hworld
    exact request.keeps hworld (hlater request hrequest)
  · intro instructions more
    rw [run, run, List.foldl_append]
    exact (keeps_foldl_attempt (wellFormed_run instructions) more).extends_graph

end World
end LiveVectors

import LiveVectors.Live.Evaluation
import LiveVectors.Proofs.Propagation

/-!
# Traces

Evaluating an expression can do a lot to a world: it makes vectors, records derivations, calls
methods in the middle of arguments, propagates, and can stop at any point.  This file takes it
apart once and for all.

* `calls`, `callsOfModifiers` and `callsOfStatement` list the method calls that an evaluation really
  makes, in order, with the vector and how each call ended.  A call that is never reached because
  something failed before it is not in the list.
* `Trace world calls after` — `after` comes from `world` by *quiet* steps, which overwrite no
  vector, and by exactly these calls, each of them followed by propagation.
* `traced_evaluate`, `traced_resolve` and `traced_callMethod` — every evaluation leaves such a
  trace, whether it succeeds or fails.

So a property of worlds survives evaluation as soon as it survives the three quiet steps and one
call, and no later file looks into expressions again.
-/

set_option autoImplicit false

namespace LiveVectors
namespace World

open LiveVectors.Action

/-! ## Calls -/

/-- A call of a method that was made. -/
structure Call where
  /-- The vector on which the method was called. -/
  receiver : VectorId
  method : Method
  /-- Why the call failed, if it did. -/
  fault : Option Fault

/-- Why an action failed, if it did. -/
def faultOf {α : Type} : Except Fault α → Option Fault
  | .ok _ => none
  | .error fault => some fault

/-- The calls of an action and then those of what comes next, which is not reached if the action
fails. -/
def callsThen {α : Type} (action : Action World α) (first : World → List Call)
    (next : α → World → List Call) (world : World) : List Call :=
  first world ++
    match action.outcome world with
    | (.ok a, after) => next a after
    | (.error _, _) => []

/-- The calls of `owner.name(…)`: those of the arguments, and then the call itself. -/
def callsOfMember (owner name : String) (arguments : Action World (List Value))
    (inner : World → List Call) : World → List Call :=
  callsThen (lookup owner) (fun _ => []) fun target =>
    callsThen (Action.of (target.method name (some owner))) (fun _ => []) fun found =>
      callsThen arguments inner fun given world =>
        [⟨found.1, found.2, faultOf ((Store.call found.2 found.1 given).outcome world.store).1⟩]

mutual

/-- The calls that evaluating an expression makes. -/
def calls : Expression → World → List Call
  | .number _, _ => []
  | .text _, _ => []
  | .named _, _ => []
  | .call name arguments, world =>
    if name = constructorName then callsOfAll arguments world else []
  | .operation _ left right, world =>
    callsThen (evaluate left) (calls left) (fun _ => calls right) world
  | .methodCall owner name arguments, world =>
    callsOfMember owner name (evaluateAll arguments) (callsOfAll arguments) world
  | .property _ _, _ => []

/-- The calls that evaluating several expressions makes. -/
def callsOfAll : List Expression → World → List Call
  | [], _ => []
  | expression :: rest, world =>
    callsThen (evaluate expression) (calls expression) (fun _ => callsOfAll rest) world

end

/-- The calls that a modifier makes. -/
def callsOfModifier : Modifier → World → List Call
  | .option name arguments, world => if name = "origin" then callsOfAll arguments world else []
  | .flag _, _ => []

/-- The calls that several modifiers make; `look` is the look so far. -/
def callsOfModifiers (place : Place) : Look → List Modifier → World → List Call
  | _, [], _ => []
  | look, modifier :: rest, world =>
    callsThen (applyModifier place look modifier) (callsOfModifier modifier)
      (fun look => callsOfModifiers place look rest) world

/-- The calls that carrying out a statement makes. -/
def callsOfStatement (place : Place) : Statement → World → List Call
  | .assign _ value modifiers, world =>
    callsThen (evaluate value) (calls value)
      (fun _ => callsOfModifiers place .plain modifiers) world
  | .setProperty owner _ value, world =>
    callsThen (lookup owner) (fun _ => []) (fun _ => calls value) world
  | .callMethod owner method arguments, world =>
    callsOfMember owner method (evaluateAll arguments) (callsOfAll arguments) world

/-! ## Steps -/

/-- A step that overwrites no vector and binds no name. -/
inductive Quiet : World → World → Prop
  /-- A vector is made. -/
  | make (world : World) (v : PlaneVector) :
      Quiet world { world with store := world.store.push v }
  /-- A vector is derived. -/
  | derive {world : World} {symbol : String} {left right : Value} {v : PlaneVector}
      (hleft : left.Within world.store.size) (hright : right.Within world.store.size)
      (hv : operate symbol (world.store.snapshot left) (world.store.snapshot right)
        = .ok (.planar v)) :
      Quiet world { world with
        store := world.store.push v
        graph := world.graph.register ⟨symbol, left, right, world.store.size⟩ }
  /-- Something is reported. -/
  | report (world : World) (kind : DiagnosticKind) (message : String) (place : Place) :
      Quiet world (world.report kind message place)

/-- One call of a method.  After a call that returns, what depends on the vector is recomputed; a
call that fails ends right there. -/
inductive Called : World → Call → World → Prop
  | returned {world : World} {id : VectorId} {method : Method} {given : List Value} {value : Value}
      {store : Store} (hid : id < world.store.size)
      (hcall : (Store.call method id given).outcome world.store = (.ok value, store)) :
      Called world ⟨id, method, none⟩ ((propagate id).outcome { world with store }).2
  | failed {world : World} {id : VectorId} {method : Method} {given : List Value} {fault : Fault}
      {store : Store} (hid : id < world.store.size)
      (hcall : (Store.call method id given).outcome world.store = (.error fault, store)) :
      Called world ⟨id, method, some fault⟩ { world with store }

/-- The second world comes from the first one by quiet steps and these calls. -/
inductive Trace : World → List Call → World → Prop
  | nil (world : World) : Trace world [] world
  | quiet {world middle after : World} {made : List Call} (h : Trace world made middle)
      (hstep : Quiet middle after) : Trace world made after
  | call {world middle after : World} {made : List Call} {call : Call}
      (h : Trace world made middle) (hstep : Called middle call after) :
      Trace world (made ++ [call]) after

theorem Trace.trans {world middle after : World} {first second : List Call}
    (h : Trace world first middle) (h' : Trace middle second after) :
    Trace world (first ++ second) after := by
  induction h' with
  | nil => simpa using h
  | quiet _ hstep ih => exact ih.quiet hstep
  | call _ hstep ih => simpa using ih.call hstep

/-! ## What every trace keeps -/

/-- What never changes while expressions are evaluated. -/
structure Later (world after : World) : Prop where
  /-- Names keep their values. -/
  bindings_eq : after.bindings = world.bindings
  /-- No vector is lost. -/
  size_le : world.store.size ≤ after.store.size
  /-- No edge, derivation or number is lost or changed. -/
  extends_graph : world.graph.Extends after.graph

theorem Later.refl (world : World) : world.Later world :=
  ⟨rfl, Nat.le_refl _, .refl _⟩

theorem Later.trans {world middle after : World} (h : world.Later middle)
    (h' : middle.Later after) : world.Later after :=
  ⟨h'.bindings_eq.trans h.bindings_eq, Nat.le_trans h.size_le h'.size_le,
    h.extends_graph.trans h'.extends_graph⟩

theorem Quiet.wellFormed {world after : World} (h : Quiet world after) (hw : world.WellFormed) :
    after.WellFormed := by
  cases h with
  | make v => exact hw.withStore (by simp)
  | @derive symbol left right v hleft hright hv =>
    have hsound := Derivation.sound_of_operate hv hleft hright
    have hsize : world.store.size ≤ (world.store.push v).size := by simp
    have hstore := hw.withStore hsize
    exact ⟨by simpa using hw.graph.register hsound, hstore.bound, hstore.known⟩
  | report kind message place => exact ⟨hw.graph, hw.bound, hw.known⟩

theorem Quiet.later {world after : World} (h : Quiet world after) (hw : world.WellFormed) :
    world.Later after := by
  cases h with
  | make v => exact ⟨rfl, by simp, .refl _⟩
  | derive hleft hright hv =>
    exact ⟨rfl, by simp, DependencyGraph.extends_register hw.graph.get?_records_eq_none⟩
  | report kind message place => exact ⟨rfl, Nat.le_refl _, .refl _⟩

theorem Called.wellFormed_and_later {world after : World} {call : Call}
    (h : Called world call after) (hw : world.WellFormed) :
    after.WellFormed ∧ world.Later after := by
  cases h with
  | @returned id method given value store hid hcall =>
    have hsize := Store.size_le_of_call hcall
    have hstore := hw.withStore hsize
    obtain ⟨settled, hpropagate, hsettled⟩ := outcome_propagate hstore id
    rw [hpropagate]
    have hle : world.store.size ≤ settled.size := hsettled.size_eq ▸ hsize
    exact ⟨hw.withStore hle, rfl, hle, .refl _⟩
  | @failed id method given fault store hid hcall =>
    have hsize := Store.size_le_of_call hcall
    exact ⟨hw.withStore hsize, rfl, hsize, .refl _⟩

/-- **Whatever an evaluation does, the world stays well-formed and nothing of it is lost.** -/
theorem Trace.wellFormed_and_later {world after : World} {made : List Call}
    (h : Trace world made after) (hw : world.WellFormed) :
    after.WellFormed ∧ world.Later after := by
  induction h with
  | nil => exact ⟨hw, .refl _⟩
  | quiet _ hstep ih => exact ⟨hstep.wellFormed ih.1, ih.2.trans (hstep.later ih.1)⟩
  | call _ hstep ih =>
    obtain ⟨hafter, hlater⟩ := hstep.wellFormed_and_later ih.1
    exact ⟨hafter, ih.2.trans hlater⟩

/-- Evaluation binds no name. -/
theorem Trace.bindings_eq {world after : World} {made : List Call} (h : Trace world made after)
    (hw : world.WellFormed) : after.bindings = world.bindings :=
  (h.wellFormed_and_later hw).2.bindings_eq

/-! ## Actions that leave a trace -/

/-- An action that leaves a trace of the calls `made`, and whose result, if it has one, meets
`post` together with the world that it leaves. -/
structure Traced {α : Type} (world : World) (action : Action World α) (made : List Call)
    (post : α → World → Prop) : Prop where
  /-- The trace is there whether the action succeeds or fails. -/
  trace : Trace world made (action.outcome world).2
  /-- What is known of a result. -/
  result : ∀ {a after}, action.outcome world = (.ok a, after) → post a after

variable {α β : Type} {world : World} {action : Action World α} {made : List Call}
  {post : α → World → Prop}

theorem Traced.of_ok {a : α} {after : World} (h : action.outcome world = (.ok a, after))
    (htrace : Trace world made after) (hpost : post a after) : Traced world action made post where
  trace := by rw [h]; exact htrace
  result h' := by
    rw [h] at h'
    cases h'
    exact hpost

theorem Traced.of_error {fault : Fault} {after : World}
    (h : action.outcome world = (.error fault, after)) (htrace : Trace world made after) :
    Traced world action made post where
  trace := by rw [h]; exact htrace
  result h' := by
    rw [h] at h'
    cases h'

theorem traced_pure {a : α} (h : post a world) : Traced world (pure a) [] post :=
  .of_ok (outcome_pure a world) (.nil world) h

theorem traced_fail (fault : Fault) : Traced world (Action.fail fault : Action World α) [] post :=
  .of_error (outcome_fail fault world) (.nil world)

/-- **Traces of a sequence**: the calls of the first action, then those of the second one, which
starts where the first one stopped. -/
theorem Traced.bind {first : World → List Call} {next : α → Action World β}
    {second : α → World → List Call} {post' : β → World → Prop} (hw : world.WellFormed)
    (h : Traced world action (first world) post)
    (hnext : ∀ a after, after.WellFormed → world.Later after → post a after →
      Traced after (next a) (second a after) post') :
    Traced world (action >>= next) (callsThen action first second world) post' := by
  obtain ⟨hafter, hlater⟩ := h.trace.wellFormed_and_later hw
  rcases houtcome : action.outcome world with ⟨fault | a, after⟩
  · have hbind : (action >>= next).outcome world = (.error fault, after) := by
      rw [outcome_bind, houtcome]
    refine .of_error hbind ?_
    have htrace := h.trace
    rw [houtcome] at htrace
    simpa [callsThen, houtcome] using htrace
  · rw [houtcome] at hafter hlater
    have hsecond := hnext a after hafter hlater (h.result houtcome)
    have hbind : (action >>= next).outcome world = (next a).outcome after := by
      rw [outcome_bind, houtcome]
    refine ⟨?_, fun h' => hsecond.result (hbind ▸ h')⟩
    have htrace := h.trace
    rw [houtcome] at htrace
    rw [hbind]
    simpa [callsThen, houtcome] using htrace.trans hsecond.trace

/-- A sequence whose second action makes no calls. -/
theorem Traced.bind_quiet {next : α → Action World β} {post' : β → World → Prop}
    (hw : world.WellFormed) (h : Traced world action made post)
    (hnext : ∀ a after, after.WellFormed → world.Later after → post a after →
      Traced after (next a) [] post') :
    Traced world (action >>= next) made post' := by
  have hbind : Traced world (action >>= next)
      (callsThen action (fun _ => made) (fun _ _ => []) world) post' := h.bind hw hnext
  have hcalls : callsThen action (fun _ => made) (fun _ _ => []) world = made := by
    rw [callsThen]
    split <;> simp
  rwa [hcalls] at hbind

/-! ## Expressions -/

/-- A value of a world. -/
def Has (value : Value) (world : World) : Prop := value.Within world.store.size

/-- Values of a world. -/
def HasAll (values : List Value) (world : World) : Prop := ∀ value ∈ values, Has value world

theorem Later.has {after : World} (h : world.Later after) {value : Value} (hv : Has value world) :
    Has value after :=
  hv.mono h.size_le

theorem traced_lookup (hw : world.WellFormed) (name : String) :
    Traced world (lookup name) [] Has := by
  cases hbinding : world.bindings.get? name with
  | none =>
    have h : (lookup name).outcome world = (.error (.undefinedVariable name), world) := by
      simp [lookup, outcome_bind, hbinding]
    exact .of_error h (.nil world)
  | some binding =>
    have h : (lookup name).outcome world = (.ok binding.value, world) := by
      simp [lookup, outcome_bind, hbinding]
    exact .of_ok h (.nil world) (hw.bound hbinding)

theorem traced_of (result : Except Fault α) (h : ∀ a, result = .ok a → post a world) :
    Traced world (Action.of result) [] post := by
  cases result with
  | error fault => exact .of_error (outcome_of _ world) (.nil world)
  | ok a => exact .of_ok (outcome_of _ world) (.nil world) (h a rfl)

theorem outcome_onStore (action : Action Store α) (world : World) :
    (onStore action).outcome world = ((action.outcome world.store).1,
      { world with store := (action.outcome world.store).2 }) :=
  outcome_onPart _ _ _ _

theorem traced_construct (given : List Value) :
    Traced world (onStore (Value.construct given)) [] fun id after => id < after.store.size := by
  rcases Value.outcome_construct_cases given world.store with ⟨fault, h⟩ | ⟨v, h⟩
  · exact .of_error (by rw [outcome_onStore, h]) (.nil world)
  · exact .of_ok (by rw [outcome_onStore, h]) (.quiet (.nil world) (.make world v)) (by simp)

theorem traced_readProperty (target : Value) (name : String) (owner : Option String) :
    Traced world (onStore (target.readProperty name owner)) [] Has := by
  rcases target.outcome_readProperty_cases name owner with ⟨fault, h⟩ | ⟨id, property, -, h⟩
  · exact .of_error (by rw [outcome_onStore, h]) (.nil world)
  · exact .of_ok (by rw [outcome_onStore, h]) (.nil world) (Value.within_number _ _)

theorem outcome_derive (symbol : String) (left right : Value) (world : World) :
    (derive symbol left right).outcome world =
      match operate symbol (world.store.snapshot left) (world.store.snapshot right) with
      | .error fault => (.error fault, world)
      | .ok (.scalar x) => (.ok (.number x), world)
      | .ok (.planar v) => (.ok (.vector world.store.size), { world with
          store := world.store.push v
          graph := world.graph.register ⟨symbol, left, right, world.store.size⟩ }) := by
  rw [derive, outcome_bind, outcome_onStore, Store.outcome_operate]
  rcases operate symbol (world.store.snapshot left) (world.store.snapshot right) with
    fault | ⟨x | v⟩ <;> rfl

theorem traced_derive (symbol : String) {left right : Value} (hleft : Has left world)
    (hright : Has right world) : Traced world (derive symbol left right) [] Has := by
  have h := outcome_derive symbol left right world
  rcases hresult : operate symbol (world.store.snapshot left) (world.store.snapshot right) with
    fault | ⟨x | v⟩ <;> rw [hresult] at h
  · exact .of_error h (.nil world)
  · exact .of_ok h (.nil world) (Value.within_number _ x)
  · refine .of_ok h (.quiet (.nil world) (.derive hleft hright hresult)) ?_
    rw [Has, Value.within_vector, Store.size_push]
    exact Nat.lt_succ_self _

/-- A call by itself, with the propagation after it. -/
theorem traced_call (hw : world.WellFormed) {id : VectorId} (hid : id < world.store.size)
    (method : Method) (given : List Value) :
    Traced world (do
        let result ← onStore (Store.call method id given)
        let _ ← propagate id
        return result)
      [⟨id, method, faultOf ((Store.call method id given).outcome world.store).1⟩] Has := by
  rcases hcall : (Store.call method id given).outcome world.store with ⟨fault | value, store⟩
  · have h : (onStore (Store.call method id given)).outcome world =
        (.error fault, { world with store }) := by
      rw [outcome_onStore, hcall]
    refine .of_error (by rw [outcome_bind, h]) (.call (.nil world) (.failed hid hcall))
  · have hstore := hw.withStore (Store.size_le_of_call hcall)
    obtain ⟨settled, hpropagate, hsettled⟩ := outcome_propagate hstore id
    have hall : (do
        let result ← onStore (Store.call method id given)
        let _ ← propagate id
        return result : Action World Value).outcome world =
          (.ok value, ((propagate id).outcome { world with store }).2) := by
      rw [outcome_bind, outcome_onStore, hcall]
      dsimp only
      rw [outcome_bind, hpropagate]
      rfl
    have hvalue : value.Within settled.size := hsettled.size_eq ▸ Store.within_of_call hid hcall
    refine .of_ok hall (.call (.nil world) (.returned hid hcall)) ?_
    rw [Has, hpropagate]
    exact hvalue

/-- Calling a method of a variable leaves the trace of its arguments and of the call itself. -/
theorem traced_callMethod (hw : world.WellFormed) (owner name : String)
    {arguments : Action World (List Value)} {inner : World → List Call}
    (harguments : ∀ world : World, world.WellFormed →
      Traced world arguments (inner world) HasAll) :
    Traced world (callMethod owner name arguments) (callsOfMember owner name arguments inner world)
      Has := by
  rw [callMethod, callsOfMember]
  refine Traced.bind hw (traced_lookup hw owner) fun target after hafter _ htarget => ?_
  have hfound : Traced after (Action.of (target.method name (some owner))) []
      fun found world => found.1 < world.store.size :=
    traced_of _ fun found h => htarget found.1 (Value.vectorId?_of_method h)
  refine Traced.bind hafter hfound fun found after' hafter' _ hid => ?_
  refine Traced.bind hafter' (harguments after' hafter') fun given last hlast hlater _ => ?_
  exact traced_call hlast (Nat.lt_of_lt_of_le hid hlater.size_le) found.2 given

mutual

/-- **Evaluating an expression leaves a trace of exactly the calls in it.** -/
theorem traced_evaluate (expression : Expression) {world : World} (hw : world.WellFormed) :
    Traced world (evaluate expression) (calls expression world) Has := by
  cases expression with
  | number value =>
    rw [evaluate, calls]
    exact traced_pure (Value.within_number _ value)
  | text value =>
    rw [evaluate, calls]
    exact traced_pure (Value.within_text _ value)
  | named name =>
    rw [evaluate, calls]
    exact traced_lookup hw name
  | call name arguments =>
    rw [evaluate, calls]
    by_cases hname : name = constructorName
    · rw [if_pos hname, if_pos hname]
      refine Traced.bind_quiet hw (traced_evaluateAll arguments hw)
        fun given after hafter _ _ => ?_
      refine Traced.bind_quiet hafter (traced_construct given) fun id last _ _ hid => ?_
      exact traced_pure (Value.within_vector.2 hid)
    · rw [if_neg hname, if_neg hname]
      exact traced_fail _
  | operation operator left right =>
    rw [evaluate, calls]
    refine Traced.bind hw (traced_evaluate left hw) fun x after hafter _ hx => ?_
    refine Traced.bind_quiet hafter (traced_evaluate right hafter) fun y last _ hlater hy => ?_
    exact traced_derive _ (hlater.has hx) hy
  | methodCall owner name arguments =>
    rw [evaluate, calls]
    exact traced_callMethod hw owner name fun world hworld => traced_evaluateAll arguments hworld
  | property owner name =>
    rw [evaluate, calls]
    refine Traced.bind_quiet hw (traced_lookup hw owner) fun target after _ _ _ => ?_
    exact traced_readProperty target name (some owner)

/-- The same for several expressions. -/
theorem traced_evaluateAll (expressions : List Expression) {world : World}
    (hw : world.WellFormed) :
    Traced world (evaluateAll expressions) (callsOfAll expressions world) HasAll := by
  cases expressions with
  | nil =>
    rw [evaluateAll, callsOfAll]
    exact traced_pure nofun
  | cons expression rest =>
    rw [evaluateAll, callsOfAll]
    refine Traced.bind hw (traced_evaluate expression hw) fun value after hafter _ hvalue => ?_
    refine Traced.bind_quiet hafter (traced_evaluateAll rest hafter)
      fun values last _ hlater hvalues => ?_
    exact traced_pure (List.forall_mem_cons.2 ⟨hlater.has hvalue, hvalues⟩)

end

/-! ## Modifiers -/

theorem traced_resolveOrigin (hw : world.WellFormed) (arguments : List Expression) :
    Traced world (resolveOrigin arguments) (callsOfAll arguments world)
      fun id after => id < after.store.size := by
  rw [resolveOrigin]
  refine Traced.bind_quiet hw (traced_evaluateAll arguments hw) fun given after _ _ hgiven => ?_
  split
  · exact traced_pure (Value.within_vector.1 (hgiven _ (by simp)))
  · exact traced_construct given

theorem traced_applyModifier (hw : world.WellFormed) (place : Place) (look : Look)
    (modifier : Modifier) :
    Traced world (applyModifier place look modifier) (callsOfModifier modifier world)
      fun _ _ => True := by
  cases modifier with
  | option name arguments =>
    rw [applyModifier, callsOfModifier]
    by_cases hname : name = "origin"
    · rw [if_pos hname, if_pos hname]
      exact Traced.bind_quiet hw (traced_resolveOrigin hw arguments)
        fun id after _ _ _ => traced_pure trivial
    · rw [if_neg hname, if_neg hname]
      exact traced_fail _
  | flag token =>
    rw [applyModifier, callsOfModifier]
    split
    · exact traced_pure trivial
    split
    · exact traced_pure trivial
    split
    · exact traced_pure trivial
    · exact .of_ok rfl (.quiet (.nil world) (.report world _ _ place)) trivial

theorem traced_applyModifiers (modifiers : List Modifier) (place : Place) (look : Look)
    {world : World} (hw : world.WellFormed) :
    Traced world (applyModifiers place look modifiers)
      (callsOfModifiers place look modifiers world) fun _ _ => True := by
  induction modifiers generalizing look world with
  | nil => exact traced_pure trivial
  | cons modifier rest ih =>
    rw [applyModifiers, callsOfModifiers]
    exact Traced.bind hw (traced_applyModifier hw place look modifier)
      fun look' after hafter _ _ => ih look' hafter

/-- **Resolving modifiers leaves a trace of the calls in them.** -/
theorem traced_resolve (hw : world.WellFormed) (place : Place) (modifiers : List Modifier) :
    Traced world (resolve place modifiers) (callsOfModifiers place .plain modifiers world)
      fun _ _ => True :=
  traced_applyModifiers modifiers place .plain hw

end World
end LiveVectors

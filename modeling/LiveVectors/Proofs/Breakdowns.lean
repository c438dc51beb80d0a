import LiveVectors.Proofs.Causes
import LiveVectors.Proofs.Session

/-!
# Breakdowns

An instruction can call many methods, nested in each other's arguments, and everything that depends
on their vectors is recomputed in between.  Even so it fails unexpectedly for few reasons only: the
last call that it made broke down, or it wrote an infinite angle.

* `LastBreaksDown` — of some calls the last one breaks down, and all others have returned.
* `Ends` — if an action succeeds, all calls that it makes return; if it fails unexpectedly, the last
  of them breaks down.  Sequences end so (`Ends.bind`), and with them evaluation (`ends_evaluate`),
  modifiers (`ends_resolve`) and instructions (`ends_execute`).
* `returned_of_execute` and `cause_of_unexpected` — the results: what it means that an instruction
  succeeds, and, after every session, why one fails unexpectedly.
-/

set_option autoImplicit false

namespace LiveVectors
namespace World

open LiveVectors.Action

/-! ## The last call -/

/-- The last of some calls breaks down, after all the others have returned. -/
inductive LastBreaksDown (world : World) (cause : Breakdown) (after : World) : List Call → Prop
  | intro {before : List Call} {middle : World} {id : VectorId} {method : Method}
      {given : List Value} (hreturned : ∀ call ∈ before, call.fault = none)
      (htrace : Trace world before middle)
      (hcall : (Store.call method id given).outcome middle.store =
        (.error (.breakdown cause), after.store))
      (hbreaks : method.BreaksDown (middle.store.get id) (given.map middle.store.snapshot) cause) :
      LastBreaksDown world cause after (before ++ [⟨id, method, some (.breakdown cause)⟩])

/-- How an action that makes the calls `made` ends: well, when all of them have returned; or
unexpectedly, when the last of them breaks down.  It may end with another fault as well. -/
structure Ends {α : Type} (world : World) (action : Action World α) (made : List Call) : Prop where
  /-- Where the action succeeds no call has failed. -/
  returned : ∀ {a after}, action.outcome world = (.ok a, after) → ∀ call ∈ made, call.fault = none
  /-- Where the action fails unexpectedly the last call is to blame. -/
  broken : ∀ {fault after}, action.outcome world = (.error fault, after) → fault.IsUnexpected →
    ∃ cause, fault = .breakdown cause ∧ LastBreaksDown world cause after made

variable {α β : Type} {world middle : World} {action : Action World α} {made : List Call}
  {post : α → World → Prop}

theorem ends_of_foreseen (h : action.Foreseen) : Ends world action [] where
  returned _ := List.forall_mem_nil _
  broken houtcome hunexpected :=
    absurd hunexpected (h world _ (congrArg Prod.fst houtcome)).not_isUnexpected

/-- Calls that return before do not matter. -/
theorem LastBreaksDown.prepend {middle after : World} {cause : Breakdown}
    {first second : List Call} (h : LastBreaksDown middle cause after second)
    (htrace : Trace world first middle) (hreturned : ∀ call ∈ first, call.fault = none) :
    LastBreaksDown world cause after (first ++ second) := by
  cases h with
  | intro hbefore hmiddle hcall hbreaks =>
    rw [← List.append_assoc]
    refine .intro (fun call hmem => ?_) (htrace.trans hmiddle) hcall hbreaks
    rcases List.mem_append.1 hmem with hfirst | hsecond
    · exact hreturned call hfirst
    · exact hbefore call hsecond

theorem LastBreaksDown.concernsValue {after : World} {cause : Breakdown} {calls : List Call}
    (h : LastBreaksDown world cause after calls) : cause.ConcernsValue := by
  cases h with
  | intro _ _ _ hbreaks => exact hbreaks.concernsValue

theorem callsThen_of_ok {a : α} (h : action.outcome world = (.ok a, middle))
    (first : World → List Call) (second : α → World → List Call) :
    callsThen action first second world = first world ++ second a middle := by
  rw [callsThen, h]

theorem callsThen_of_error {fault : Fault} (h : action.outcome world = (.error fault, middle))
    (first : World → List Call) (second : α → World → List Call) :
    callsThen action first second world = first world := by
  rw [callsThen, h, List.append_nil]

/-- **Ends of a sequence**: the second action begins after all calls of the first have returned. -/
theorem Ends.bind {first : World → List Call} {next : α → Action World β}
    {second : α → World → List Call} (hw : world.WellFormed)
    (htraced : Traced world action (first world) post) (h : Ends world action (first world))
    (hnext : ∀ a after, after.WellFormed → world.Later after → post a after →
      Ends after (next a) (second a after)) :
    Ends world (action >>= next) (callsThen action first second world) := by
  have hrest : ∀ {a middle}, action.outcome world = (.ok a, middle) →
      Trace world (first world) middle ∧ Ends middle (next a) (second a middle) := by
    intro a middle hfirst
    have htrace := htraced.trace
    rw [hfirst] at htrace
    obtain ⟨hmiddle, hlater⟩ := htrace.wellFormed_and_later hw
    exact ⟨htrace, hnext a middle hmiddle hlater (htraced.result hfirst)⟩
  constructor
  · intro b after hbind call hcall
    obtain ⟨a, middle, hfirst, hsecond⟩ := outcome_bind_ok hbind
    rw [callsThen_of_ok hfirst, List.mem_append] at hcall
    rcases hcall with hcall | hcall
    · exact h.returned hfirst call hcall
    · exact (hrest hfirst).2.returned hsecond call hcall
  · intro fault after hbind hunexpected
    rcases outcome_bind_error_cases hbind with hfirst | ⟨a, middle, hfirst, hsecond⟩
    · rw [callsThen_of_error hfirst]
      exact h.broken hfirst hunexpected
    · obtain ⟨htrace, hends⟩ := hrest hfirst
      obtain ⟨cause, hfault, hbroken⟩ := hends.broken hsecond hunexpected
      rw [callsThen_of_ok hfirst]
      exact ⟨cause, hfault, hbroken.prepend htrace (h.returned hfirst)⟩

/-- A sequence whose second action makes no calls and is foreseen. -/
theorem Ends.bind_foreseen {next : α → Action World β} (h : Ends world action made)
    (hnext : ∀ a, (next a).Foreseen) : Ends world (action >>= next) made where
  returned hbind :=
    have ⟨_, _, hfirst, _⟩ := outcome_bind_ok hbind
    h.returned hfirst
  broken hbind hunexpected := by
    rcases outcome_bind_error_cases hbind with hfirst | ⟨a, middle, -, hsecond⟩
    · exact h.broken hfirst hunexpected
    · exact absurd hunexpected (hnext a middle _ (congrArg Prod.fst hsecond)).not_isUnexpected

/-- A sequence whose first action makes no calls and is foreseen. -/
theorem Ends.foreseen_bind {next : α → Action World β} {second : α → World → List Call}
    (hw : world.WellFormed) (htraced : Traced world action [] post) (h : action.Foreseen)
    (hnext : ∀ a after, after.WellFormed → world.Later after → post a after →
      Ends after (next a) (second a after)) :
    Ends world (action >>= next) (callsThen action (fun _ => []) second world) :=
  Ends.bind hw htraced (ends_of_foreseen h) hnext

/-! ## Expressions -/

theorem foreseen_lookup (name : String) : (lookup name).Foreseen := by
  refine (failsOnly_inspect _).bind fun found => ?_
  cases found with
  | none => exact failsOnly_fail trivial
  | some binding => exact failsOnly_pure _

theorem foreseen_derive (symbol : String) (left right : Value) :
    (derive symbol left right).Foreseen := by
  refine ((Store.foreseen_operate symbol left right).onPart _ _).bind fun result => ?_
  cases result with
  | vector target => exact (failsOnly_update _).bind fun _ => failsOnly_pure _
  | _ => exact (failsOnly_pure ()).bind fun _ => failsOnly_pure _

/-- A call by itself: what is recomputed after it never fails. -/
theorem ends_call (hw : world.WellFormed) (id : VectorId) (method : Method)
    (given : List Value) :
    Ends world (do
        let result ← onStore (Store.call method id given)
        let _ ← propagate id
        return result)
      [⟨id, method, faultOf ((Store.call method id given).outcome world.store).1⟩] := by
  rcases hcall : (Store.call method id given).outcome world.store with ⟨fault | value, store⟩
  · have h : (onStore (Store.call method id given)).outcome world =
        (.error fault, { world with store }) := by
      rw [outcome_onStore, hcall]
    constructor
    · intro a after hbind
      rw [outcome_bind, h] at hbind
      cases hbind
    · intro found after hbind hunexpected
      rw [outcome_bind, h] at hbind
      cases hbind
      obtain ⟨cause, rfl, hbreaks⟩ := Store.breaksDown_of_call hcall hunexpected
      exact ⟨cause, rfl, .intro (List.forall_mem_nil _) (.nil world) hcall hbreaks⟩
  · constructor
    · intro a after _ call hmem
      rw [List.mem_singleton.1 hmem]
      rfl
    · intro fault after hbind
      obtain ⟨settled, hpropagate, -⟩ :=
        outcome_propagate (hw.withStore (Store.size_le_of_call hcall)) id
      simp only [outcome_bind, outcome_onStore, hcall, hpropagate, outcome_pure] at hbind
      cases hbind

theorem ends_callMethod (hw : world.WellFormed) (owner name : String)
    {arguments : Action World (List Value)} {inner : World → List Call}
    (htraced : ∀ world : World, world.WellFormed →
      Traced world arguments (inner world) HasAll)
    (harguments : ∀ world : World, world.WellFormed → Ends world arguments (inner world)) :
    Ends world (callMethod owner name arguments) (callsOfMember owner name arguments inner world)
      := by
  rw [callMethod, callsOfMember]
  refine Ends.foreseen_bind hw (traced_lookup hw owner) (foreseen_lookup owner)
    fun target after hafter _ _ => ?_
  have hfound : Traced after (Action.of (target.method name (some owner))) [] fun _ _ => True :=
    traced_of _ fun _ _ => trivial
  refine Ends.foreseen_bind hafter hfound (failsOnly_of (foreseen_method target name _))
    fun found after' hafter' _ _ => ?_
  exact Ends.bind hafter' (htraced after' hafter') (harguments after' hafter')
    fun given last hlast _ _ => ends_call hlast found.1 found.2 given

mutual

/-- **Evaluating an expression ends with its last call**, or as foreseen. -/
theorem ends_evaluate (expression : Expression) {world : World} (hw : world.WellFormed) :
    Ends world (evaluate expression) (calls expression world) := by
  cases expression with
  | number value =>
    rw [evaluate, calls]
    exact ends_of_foreseen (failsOnly_pure _)
  | text value =>
    rw [evaluate, calls]
    exact ends_of_foreseen (failsOnly_pure _)
  | named name =>
    rw [evaluate, calls]
    exact ends_of_foreseen (foreseen_lookup name)
  | call name arguments =>
    rw [evaluate, calls]
    by_cases hname : name = constructorName
    · rw [if_pos hname, if_pos hname]
      refine (ends_evaluateAll arguments hw).bind_foreseen fun given => ?_
      exact ((Value.foreseen_construct given).onPart _ _).bind fun _ => failsOnly_pure _
    · rw [if_neg hname, if_neg hname]
      exact ends_of_foreseen (failsOnly_fail trivial)
  | operation operator left right =>
    rw [evaluate, calls]
    refine Ends.bind hw (traced_evaluate left hw) (ends_evaluate left hw)
      fun x after hafter _ _ => ?_
    exact (ends_evaluate right hafter).bind_foreseen fun y => foreseen_derive _ x y
  | methodCall owner name arguments =>
    rw [evaluate, calls]
    exact ends_callMethod hw owner name (fun _ hworld => traced_evaluateAll arguments hworld)
      fun world hworld => ends_evaluateAll arguments hworld
  | property owner name =>
    rw [evaluate, calls]
    exact ends_of_foreseen ((foreseen_lookup owner).bind fun target =>
      (Value.foreseen_readProperty target name _).onPart _ _)

/-- The same for several expressions. -/
theorem ends_evaluateAll (expressions : List Expression) {world : World} (hw : world.WellFormed) :
    Ends world (evaluateAll expressions) (callsOfAll expressions world) := by
  cases expressions with
  | nil =>
    rw [evaluateAll, callsOfAll]
    exact ends_of_foreseen (failsOnly_pure _)
  | cons expression rest =>
    rw [evaluateAll, callsOfAll]
    refine Ends.bind hw (traced_evaluate expression hw) (ends_evaluate expression hw)
      fun value after hafter _ _ => ?_
    exact (ends_evaluateAll rest hafter).bind_foreseen fun values => failsOnly_pure _

end

/-! ## Modifiers -/

theorem ends_resolveOrigin (hw : world.WellFormed) (arguments : List Expression) :
    Ends world (resolveOrigin arguments) (callsOfAll arguments world) := by
  refine (ends_evaluateAll arguments hw).bind_foreseen fun given => ?_
  split
  · exact failsOnly_pure _
  · exact (Value.foreseen_construct given).onPart _ _

theorem ends_applyModifier (hw : world.WellFormed) (place : Place) (look : Look)
    (modifier : Modifier) :
    Ends world (applyModifier place look modifier) (callsOfModifier modifier world) := by
  cases modifier with
  | option name arguments =>
    rw [applyModifier, callsOfModifier]
    by_cases hname : name = "origin"
    · rw [if_pos hname, if_pos hname]
      exact (ends_resolveOrigin hw arguments).bind_foreseen fun id => failsOnly_pure _
    · rw [if_neg hname, if_neg hname]
      exact ends_of_foreseen (failsOnly_fail trivial)
  | flag token =>
    refine ends_of_foreseen ?_
    rw [applyModifier]
    split
    · exact failsOnly_pure _
    split
    · exact failsOnly_pure _
    split
    · exact failsOnly_pure _
    · exact (failsOnly_update _).bind fun _ => failsOnly_pure _

theorem ends_applyModifiers (modifiers : List Modifier) (place : Place) (look : Look)
    {world : World} (hw : world.WellFormed) :
    Ends world (applyModifiers place look modifiers)
      (callsOfModifiers place look modifiers world) := by
  induction modifiers generalizing look world with
  | nil => exact ends_of_foreseen (failsOnly_pure _)
  | cons modifier rest ih =>
    rw [applyModifiers, callsOfModifiers]
    exact Ends.bind hw (traced_applyModifier hw place look modifier)
      (ends_applyModifier hw place look modifier) fun look' after hafter _ _ => ih look' hafter

/-- **Resolving modifiers ends with its last call**, or as foreseen. -/
theorem ends_resolve (hw : world.WellFormed) (place : Place) (modifiers : List Modifier) :
    Ends world (resolve place modifiers) (callsOfModifiers place .plain modifiers world) :=
  ends_applyModifiers modifiers place .plain hw

/-! ## Instructions -/

/-- An instruction that writes no property ends with its last call, or as foreseen. -/
theorem ends_execute {world : World} (hw : world.WellFormed) {place : Place}
    {instruction : Instruction}
    (hwrite : ∀ owner property expression,
      instruction.statement ≠ .setProperty owner property expression) :
    Ends world (execute place instruction)
      (callsOfStatement place instruction.statement world) := by
  cases hstatement : instruction.statement with
  | assign name expression modifiers =>
    simp only [execute, hstatement, callsOfStatement]
    refine Ends.bind hw (traced_evaluate expression hw) (ends_evaluate expression hw)
      fun value after hafter _ _ => ?_
    exact (ends_resolve hafter place modifiers).bind_foreseen fun look => failsOnly_update _
  | setProperty owner property expression =>
    exact absurd hstatement (hwrite owner property expression)
  | callMethod owner method arguments =>
    rw [execute_callMethod place hstatement, callsOfStatement]
    have hcall := ends_callMethod hw owner method
      (fun _ hworld => traced_evaluateAll arguments hworld)
      fun _ hworld => ends_evaluateAll arguments hworld
    exact hcall.bind_foreseen fun _ => failsOnly_pure _

theorem eq_of_lookup {world middle : World} {owner : String} {target : Value}
    (h : (lookup owner).outcome world = (.ok target, middle)) : middle = world := by
  rw [outcome_lookup] at h
  split at h <;> cases h
  rfl

theorem callsOfStatement_setProperty {world middle : World} {owner : String} {target : Value}
    (h : (lookup owner).outcome world = (.ok target, middle)) (place : Place) (property : String)
    (expression : Expression) :
    callsOfStatement place (.setProperty owner property expression) world =
      calls expression world := by
  simp [callsOfStatement, callsThen, h, eq_of_lookup h]

/-- **Property writes that fail unexpectedly** break down in a call, or write an infinite angle. -/
theorem cause_of_setProperty {world after : World} (hw : world.WellFormed) {place : Place}
    {instruction : Instruction} {owner property : String} {expression : Expression}
    {fault : Fault} (hstatement : instruction.statement = .setProperty owner property expression)
    (h : (execute place instruction).outcome world = (.error fault, after))
    (hunexpected : fault.IsUnexpected) :
    (∃ cause, fault = .breakdown cause ∧
        LastBreaksDown world cause after (callsOfStatement place instruction.statement world)) ∨
      fault = .breakdown .infiniteAngle ∧ property = Property.angle.name ∧
        ∃ x, (evaluate expression).outcome world = (.ok (.number x), after) ∧ x.isInf = true := by
  simp only [execute, hstatement] at h
  rcases outcome_bind_error_cases h with hlookup | ⟨target, middle, hlookup, hrest⟩
  · exact absurd hunexpected
      (foreseen_lookup owner world fault (congrArg Prod.fst hlookup)).not_isUnexpected
  obtain rfl := eq_of_lookup hlookup
  have htraced := traced_evaluate expression hw
  rw [hstatement, callsOfStatement_setProperty hlookup]
  rcases outcome_bind_error_cases hrest with hvalue | ⟨value, last, hvalue, hwrite⟩
  · exact .inl ((ends_evaluate expression hw).broken hvalue hunexpected)
  have htrace := htraced.trace
  rw [hvalue] at htrace
  rcases target.outcome_writeProperty_cases property value (some owner) last.store with
    ⟨found, hfails⟩ | ⟨id, v, hid, hwritten⟩
  · rw [outcome_bind, outcome_onStore, hfails] at hwrite
    cases hwrite
    obtain ⟨-, hname, x, rfl, hinf, hfault⟩ :=
      Value.infinite_of_writeProperty hfails hunexpected
    exact .inr ⟨hfault, hname, x, hvalue, hinf⟩
  · -- what depends on the vector is recomputed without fail
    have hvector : target = .vector id := by
      cases target <;> simp_all [Value.vectorId?]
    rw [hvector] at hwrite hwritten
    rw [outcome_overwrite (htrace.wellFormed_and_later hw).1 hwritten] at hwrite
    cases hwrite

/-- **An instruction that succeeds has made no call that failed.** -/
theorem returned_of_execute {world after : World} (hw : world.WellFormed) {place : Place}
    {instruction : Instruction} (h : (execute place instruction).outcome world = (.ok (), after)) :
    ∀ call ∈ callsOfStatement place instruction.statement world, call.fault = none := by
  by_cases hwrite : ∀ owner property expression,
      instruction.statement ≠ .setProperty owner property expression
  · exact (ends_execute hw hwrite).returned h
  · push Not at hwrite
    obtain ⟨owner, property, expression, hstatement⟩ := hwrite
    simp only [execute, hstatement] at h
    obtain ⟨target, middle, hlookup, hrest⟩ := outcome_bind_ok h
    obtain rfl := eq_of_lookup hlookup
    obtain ⟨value, last, hvalue, -⟩ := outcome_bind_ok hrest
    rw [hstatement, callsOfStatement_setProperty hlookup]
    exact (ends_evaluate expression hw).returned hvalue

/-- **The causes of unexpected faults**, after every session.  An instruction that fails
unexpectedly has made calls of which the last one broke down, or it has written an infinite
angle.  So there are four causes: a text that writes no number in a `reset`, not a number and
infinity where a vector is rounded, and an infinite angle.  No division by zero is among them, no
argument that does not fit and no missing property, although vectors of length zero are normalised,
others are divided by, arguments are of all numbers and kinds, and properties are asked for under
all names. -/
theorem cause_of_unexpected (requests : List Request) (place : Place) (instruction : Instruction)
    (fault : Fault) (after : World)
    (h : (execute place instruction).outcome (session requests) = (.error fault, after))
    (hunexpected : fault.IsUnexpected) :
    ∃ cause, fault = .breakdown cause ∧ cause.ConcernsValue ∧
      (LastBreaksDown (session requests) cause after
          (callsOfStatement place instruction.statement (session requests)) ∨
        cause = .infiniteAngle ∧ ∃ owner expression x,
          instruction.statement = .setProperty owner Property.angle.name expression ∧
          (evaluate expression).outcome (session requests) = (.ok (.number x), after) ∧
          x.isInf = true) := by
  have hw := wellFormed_session requests
  by_cases hwrite : ∀ owner property expression,
      instruction.statement ≠ .setProperty owner property expression
  · obtain ⟨cause, hfault, hbroken⟩ := (ends_execute hw hwrite).broken h hunexpected
    exact ⟨cause, hfault, hbroken.concernsValue, .inl hbroken⟩
  · push Not at hwrite
    obtain ⟨owner, property, expression, hstatement⟩ := hwrite
    rcases cause_of_setProperty hw hstatement h hunexpected with
      ⟨cause, hfault, hbroken⟩ | ⟨hfault, rfl, x, hvalue, hinf⟩
    · exact ⟨cause, hfault, hbroken.concernsValue, .inl hbroken⟩
    · exact ⟨_, hfault, trivial, .inr ⟨rfl, owner, expression, x, hstatement, hvalue, hinf⟩⟩

/-- `c = Vec2(1, a.reset(5, #no))` -/
def nestedResetLine : Instruction where
  statement := .assign "c"
    (.call "Vec2" [.number 1, .methodCall "a" "reset" [.number 5, .text "#no"]]) []
  place := ⟨3, "c = Vec2(1, a.reset(5, #no))"⟩

/-- After the script `doubling`, a `reset` inside of another call fails unexpectedly, and a text
that writes no number is the cause. -/
theorem cause_of_nestedResetLine :
    ∃ after,
      (execute nestedResetLine.place nestedResetLine).outcome doubling =
        (.error (.breakdown (.notANumeral "#no")), after) ∧
      (Fault.breakdown (.notANumeral "#no")).IsUnexpected ∧
      (Breakdown.notANumeral "#no").ConcernsValue ∧
      LastBreaksDown doubling (.notANumeral "#no") after
        (callsOfStatement nestedResetLine.place nestedResetLine.statement doubling) := by
  have hfault : ((execute nestedResetLine.place nestedResetLine).outcome doubling).1 =
      .error (.breakdown (.notANumeral "#no")) := rfl
  have hfails : (execute nestedResetLine.place nestedResetLine).outcome doubling =
      (.error (.breakdown (.notANumeral "#no")), _) := Prod.ext hfault rfl
  obtain ⟨cause, hcause, hvalue, hbroken | ⟨-, owner, expression, x, hstatement, -⟩⟩ :=
    cause_of_unexpected [.run [vectorLine, doubleLine]] nestedResetLine.place nestedResetLine
      _ _ hfails rfl
  · cases hcause
    exact ⟨_, hfails, rfl, hvalue, hbroken⟩
  · cases hstatement

end World
end LiveVectors

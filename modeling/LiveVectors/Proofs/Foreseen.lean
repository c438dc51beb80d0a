import LiveVectors.Live.Evaluation

/-!
# Faults that are foreseen

Nearly all faults are mistakes in the use of names and arguments, and the catalogue has a kind for
each of them.  What it has no kind for is *unexpected*.  This file goes through the operations on
values and finds those that fail with mistakes only.

* `FailsOnly p` — if a result or an action fails, then with a fault that `p` holds of.
* `Foreseen` — it fails with mistakes only.  Most operations are foreseen.
* `ForeseenInCall` — it fails with mistakes, or with arguments that do not fit.  Most methods are
  foreseen so.
-/

set_option autoImplicit false

namespace LiveVectors

/-! ## Results and actions that fail -/

/-- If a result is a fault, then one that `p` holds of. -/
def FailsOnly {α : Type} (p : Fault → Prop) (result : Except Fault α) : Prop :=
  ∀ fault, result = .error fault → p fault

section

variable {α β : Type} {p q : Fault → Prop}

theorem failsOnly_ok (a : α) : FailsOnly p (.ok a) := nofun

theorem failsOnly_error {fault : Fault} (h : p fault) :
    FailsOnly p (.error fault : Except Fault α) := by
  rintro _ ⟨⟩
  exact h

theorem FailsOnly.mono {result : Except Fault α} (h : FailsOnly p result)
    (hmono : ∀ fault, p fault → q fault) : FailsOnly q result :=
  fun fault hfault => hmono fault (h fault hfault)

/-- A sequence of results fails where its first part does or where its second part does. -/
theorem bind_error_cases {result : Except Fault α} {next : α → Except Fault β} {fault : Fault}
    (h : (result >>= next) = .error fault) :
    result = .error fault ∨ ∃ a, result = .ok a ∧ next a = .error fault := by
  cases result with
  | error found =>
    cases h
    exact .inl rfl
  | ok a => exact .inr ⟨a, rfl, h⟩

theorem FailsOnly.bind {result : Except Fault α} {next : α → Except Fault β}
    (h : FailsOnly p result) (hnext : ∀ a, FailsOnly p (next a)) :
    FailsOnly p (result >>= next) := by
  intro fault hfault
  rcases bind_error_cases hfault with hfirst | ⟨a, -, hsecond⟩
  · exact h fault hfirst
  · exact hnext a fault hsecond

end

namespace Action

variable {σ τ α β : Type} {p q : Fault → Prop}

/-- Whenever an action fails, then with a fault that `p` holds of. -/
def FailsOnly (p : Fault → Prop) (action : Action σ α) : Prop :=
  ∀ state, LiveVectors.FailsOnly p (action.outcome state).1

theorem failsOnly_pure (a : α) : (pure a : Action σ α).FailsOnly p := fun _ => failsOnly_ok a

theorem failsOnly_fail {fault : Fault} (h : p fault) :
    (Action.fail fault : Action σ α).FailsOnly p := fun _ => failsOnly_error h

theorem failsOnly_of {result : Except Fault α} (h : LiveVectors.FailsOnly p result) :
    (Action.of result : Action σ α).FailsOnly p := fun _ => h

theorem failsOnly_inspect (f : σ → α) : (Action.inspect f).FailsOnly p := fun _ => failsOnly_ok _

theorem failsOnly_update (f : σ → σ) : (Action.update f).FailsOnly p := fun _ => failsOnly_ok _

theorem FailsOnly.mono {action : Action σ α} (h : action.FailsOnly p)
    (hmono : ∀ fault, p fault → q fault) : action.FailsOnly q := fun state => (h state).mono hmono

theorem FailsOnly.bind {action : Action σ α} {next : α → Action σ β} (h : action.FailsOnly p)
    (hnext : ∀ a, (next a).FailsOnly p) : (action >>= next).FailsOnly p := by
  intro state fault hfault
  rcases outcome_bind_error_cases (Prod.ext hfault rfl) with hfirst | ⟨a, middle, -, hsecond⟩
  · exact h state fault (congrArg Prod.fst hfirst)
  · exact hnext a middle fault (congrArg Prod.fst hsecond)

theorem FailsOnly.onPart {action : Action σ α} (h : action.FailsOnly p) (part : τ → σ)
    (put : σ → τ → τ) : (Action.onPart part put action).FailsOnly p := fun state => h (part state)

theorem FailsOnly.mapFault {action : Action σ α} {f : Fault → Fault}
    (h : action.FailsOnly fun fault => p (f fault)) : (action.mapFault f).FailsOnly p := by
  intro state fault hfault
  rw [outcome_mapFault] at hfault
  rcases hresult : (action.outcome state).1 with found | a <;> rw [hresult] at hfault <;>
    cases hfault
  exact h state found hresult

end Action

/-! ## Mistakes -/

namespace Fault

/-- Whether a fault is a mistake of a script. -/
def IsMistake : Fault → Prop
  | breakdown _ => False
  | reported _ _ => False
  | _ => True

/-- Whether the call of a method reports a fault as a mistake of a script. -/
def IsMistakeInCall (fault : Fault) : Prop := ∀ method, (fault.inCall method).IsMistake

/-- Whether the catalogue has no kind of its own for a fault. -/
def IsUnexpected (fault : Fault) : Prop := fault.kind = .unexpectedFailure

/-- Whether a fault is reported as an error. -/
def isError (fault : Fault) : Bool := fault.kind.entry.severity == .error

theorem IsMistake.inCall {fault : Fault} (h : fault.IsMistake) : fault.IsMistakeInCall := by
  cases fault <;> first | exact fun _ => trivial | cases h

/-- Arguments that do not fit a method are a mistake in its call. -/
theorem isMistakeInCall_misfit (problem : Misfit) : (breakdown (.misfit problem)).IsMistakeInCall :=
  fun _ => trivial

theorem IsMistake.not_isUnexpected {fault : Fault} (h : fault.IsMistake) :
    ¬ fault.IsUnexpected := by
  cases fault with
  | unknownMember kind => cases kind <;> exact nofun
  | breakdown => cases h
  | reported => cases h
  | _ => exact nofun

theorem IsMistake.isError {fault : Fault} (h : fault.IsMistake) : fault.isError = true := by
  cases fault with
  | unknownMember kind => cases kind <;> rfl
  | breakdown => cases h
  | reported => cases h
  | _ => rfl

theorem inCall_of_isError {fault : Fault} (h : fault.isError = true) (method : String) :
    (fault.inCall method).isError = true := by
  cases fault with
  | breakdown cause => cases cause <;> rfl
  | _ => exact h

theorem inAccess_of_isError {fault : Fault} (h : fault.isError = true) (name : String)
    (owner : Option String) : (fault.inAccess name owner).isError = true := by
  cases fault with
  | breakdown cause => cases cause <;> rfl
  | _ => exact h

/-- What is unexpected in access to a property is so in itself. -/
theorem IsUnexpected.of_inAccess {fault : Fault} {name : String} {owner : Option String}
    (h : (fault.inAccess name owner).IsUnexpected) : fault.IsUnexpected := by
  cases fault with
  | breakdown cause => rfl
  | _ => exact h

/-- What is a mistake in a call is an error in itself. -/
theorem IsMistakeInCall.isError {fault : Fault} (h : fault.IsMistakeInCall) :
    fault.isError = true := by
  cases fault with
  | breakdown cause => rfl
  | _ => exact (h "").isError

end Fault

/-- If a result is a fault, then a mistake. -/
abbrev Foreseen {α : Type} (result : Except Fault α) : Prop := FailsOnly Fault.IsMistake result

/-- If a result is a fault, then a mistake in a call. -/
abbrev ForeseenInCall {α : Type} (result : Except Fault α) : Prop :=
  FailsOnly Fault.IsMistakeInCall result

theorem Foreseen.inCall {α : Type} {result : Except Fault α} (h : Foreseen result) :
    ForeseenInCall result := h.mono fun _ => Fault.IsMistake.inCall

namespace Action

variable {σ α : Type}

/-- Whenever an action fails, then with a mistake. -/
abbrev Foreseen (action : Action σ α) : Prop := action.FailsOnly Fault.IsMistake

/-- Whenever an action fails, then with a mistake in a call. -/
abbrev ForeseenInCall (action : Action σ α) : Prop := action.FailsOnly Fault.IsMistakeInCall

theorem Foreseen.inCall {action : Action σ α} (h : action.Foreseen) : action.ForeseenInCall :=
  h.mono fun _ => Fault.IsMistake.inCall

end Action

/-! ## Values -/

open LiveVectors.Action

theorem foreseen_toVector (operation : String) (given : Snapshot) :
    Foreseen (given.toVector operation) := by
  cases given with
  | vector v => exact failsOnly_ok v
  | _ => exact failsOnly_error trivial

theorem foreseen_toNumber (operation : String) (given : Snapshot) :
    Foreseen (given.toNumber operation) := by
  cases given with
  | number x => exact failsOnly_ok x
  | _ => exact failsOnly_error trivial

theorem foreseen_ofSnapshot (symbol : String) (given : Snapshot) :
    Foreseen (Quantity.ofSnapshot symbol given) := by
  cases given with
  | number x => exact failsOnly_ok (Quantity.scalar x)
  | vector v => exact failsOnly_ok (Quantity.planar v)
  | _ => exact failsOnly_error trivial

theorem foreseen_operate (symbol : String) (left right : Snapshot) :
    Foreseen (operate symbol left right) := by
  unfold operate
  split
  · exact failsOnly_error trivial
  · exact (foreseen_ofSnapshot _ _).bind fun x =>
      (foreseen_ofSnapshot _ _).bind fun y => failsOnly_ok _

theorem foreseen_method (target : Value) (name : String) (owner : Option String) :
    Foreseen (target.method name owner) := by
  unfold Value.method
  split
  · exact failsOnly_ok _
  · exact failsOnly_error trivial

theorem foreseen_bearer (target : Value) (name : String) (owner : Option String) :
    Foreseen (target.bearer name owner) := by
  unfold Value.bearer
  split
  · exact failsOnly_ok _
  · exact failsOnly_error trivial

theorem Store.foreseen_allocate (v : PlaneVector) : (allocate v).Foreseen :=
  (failsOnly_inspect _).bind fun _ => (failsOnly_update _).bind fun _ => failsOnly_pure _

theorem Store.foreseen_operate (symbol : String) (left right : Value) :
    (Store.operate symbol left right).Foreseen := by
  refine (failsOnly_inspect _).bind fun x => (failsOnly_inspect _).bind fun y => ?_
  refine (failsOnly_of (LiveVectors.foreseen_operate symbol x y)).bind fun result => ?_
  cases result with
  | scalar x => exact failsOnly_pure _
  | planar v => exact (Store.foreseen_allocate v).bind fun _ => failsOnly_pure _

theorem Value.foreseen_construct (arguments : List Value) : (construct arguments).Foreseen := by
  unfold construct
  split
  · exact Store.foreseen_allocate _
  · exact (failsOnly_inspect _).bind fun _ => failsOnly_fail trivial

/-- A property that is missing is a mistake in access to it. -/
theorem foreseen_named (name : String) (owner : Option String) :
    FailsOnly (fun fault => (fault.inAccess name owner).IsMistake) (Property.named name) := by
  unfold Property.named
  split
  · exact failsOnly_ok _
  · exact failsOnly_error trivial

theorem Value.foreseen_readProperty (target : Value) (name : String) (owner : Option String) :
    (target.readProperty name owner).Foreseen := by
  refine (failsOnly_of (foreseen_bearer target name owner)).bind fun id => ?_
  exact ((failsOnly_of (foreseen_named name owner)).bind fun property =>
    (failsOnly_inspect _).bind fun v => failsOnly_pure _).mapFault

/-! ## Methods -/

theorem foreseenInCall_noArguments {α : Type} (method : String) (arguments : List α) :
    ForeseenInCall (noArguments method arguments) := by
  unfold noArguments
  split
  · exact failsOnly_ok _
  · exact failsOnly_error (Fault.isMistakeInCall_misfit _)

theorem foreseenInCall_onlyArgument {α : Type} (method parameter : String) (arguments : List α) :
    ForeseenInCall (onlyArgument method parameter arguments) := by
  unfold onlyArgument
  split
  · exact failsOnly_ok _
  · exact failsOnly_error (Fault.isMistakeInCall_misfit _)

theorem foreseenInCall_otherVector (change : Change) (method : String) (given : List Snapshot) :
    ForeseenInCall (change.otherVector method given) :=
  (foreseenInCall_onlyArgument _ _ _).bind fun argument => (foreseen_toVector _ argument).inCall

theorem foreseenInCall_otherNumber (change : Change) (method parameter : String)
    (given : List Snapshot) : ForeseenInCall (change.otherNumber method parameter given) :=
  (foreseenInCall_onlyArgument _ _ _).bind fun argument => (foreseen_toNumber _ argument).inCall

/-- **Changes other than rotation and rounding** only refuse their arguments.  Those that divide
have made sure that they do not divide by zero. -/
theorem foreseenInCall_result {change : Change} (hrotate : change ≠ .rotate)
    (hround : change ≠ .round) (method : String) (v : PlaneVector) (given : List Snapshot) :
    ForeseenInCall (change.result method v given) := by
  cases change with
  | add | subtract | multiply =>
    exact (foreseenInCall_otherVector _ _ _).bind fun w => failsOnly_ok _
  | divide =>
    refine (foreseenInCall_otherVector _ _ _).bind fun w => ?_
    split
    · exact failsOnly_error fun _ => trivial
    · rename_i hzero
      rw [v.divide_of_ne (Bool.eq_false_iff.2 hzero)]
      exact failsOnly_ok _
  | addScalar | subtractScalar | scale =>
    exact (foreseenInCall_otherNumber _ _ _ _).bind fun s => failsOnly_ok _
  | negate => exact (foreseenInCall_noArguments _ _).bind fun _ => failsOnly_ok _
  | normalise =>
    refine (foreseenInCall_noArguments _ _).bind fun _ => ?_
    rw [v.normalise_eq]
    exact failsOnly_ok _
  | rotate => exact absurd rfl hrotate
  | round => exact absurd rfl hround

/-- A vector argument is refused or taken. -/
theorem Store.foreseenInCall_otherVector (method : Method) (operation : String)
    (given : List Snapshot) : (Store.otherVector method operation given).ForeseenInCall :=
  failsOnly_of ((foreseenInCall_onlyArgument _ _ _).bind fun argument =>
    (foreseen_toVector _ argument).inCall)

/-- **Methods that make no change, other than `reset`**, only refuse their arguments. -/
theorem Store.foreseenInCall_perform {method : Method}
    (hchange : ∀ change, method ≠ .change change) (hchanged : ∀ change, method ≠ .changed change)
    (hreset : method ≠ .reset) (self : VectorId) (arguments : List Value) :
    (perform method self arguments).ForeseenInCall := by
  refine (failsOnly_inspect _).bind fun v => (failsOnly_inspect _).bind fun given => ?_
  cases method with
  | change change => exact absurd rfl (hchange change)
  | changed change => exact absurd rfl (hchanged change)
  | clone =>
    exact (failsOnly_of (foreseenInCall_noArguments _ _)).bind fun _ =>
      (Store.foreseen_allocate v).inCall.bind fun _ => failsOnly_pure _
  | cross => exact (Store.foreseenInCall_otherVector _ _ _).bind fun w => failsOnly_pure _
  | distance => exact (Store.foreseenInCall_otherVector _ _ _).bind fun w => failsOnly_pure _
  | dot => exact (Store.foreseenInCall_otherVector _ _ _).bind fun w => failsOnly_pure _
  | reset => exact absurd rfl hreset
  | resetToVector =>
    exact (Store.foreseenInCall_otherVector _ _ _).bind fun w => (failsOnly_update _).bind fun _ =>
      failsOnly_pure _

end LiveVectors

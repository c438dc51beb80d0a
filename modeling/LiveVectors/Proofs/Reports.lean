import LiveVectors.Proofs.Foreseen

/-!
# What actions report

A fault that ends an instruction is reported under its kind in the catalogue, and the catalogue has
one kind that is no error: the warning about a flag of no known meaning.  No operation fails in
that way, and while an instruction is carried out nothing but such warnings is reported.

* `Grave` — a result or an action that is a fault counts as an error.  What is foreseen is grave,
  and so is every breakdown; all operations have this property.
* `Orderly place` — an action fails with errors only and reports nothing but warnings at `place`.
  Carrying out an instruction is such an action (`orderly_execute`).
-/

set_option autoImplicit false

namespace LiveVectors

open LiveVectors.Action

/-! ## Results -/

/-- If a result is a fault, then one that counts as an error. -/
abbrev Grave {α : Type} (result : Except Fault α) : Prop :=
  FailsOnly (fun fault => fault.isError = true) result

theorem Foreseen.grave {α : Type} {result : Except Fault α} (h : Foreseen result) : Grave result :=
  h.mono fun _ => Fault.IsMistake.isError

theorem ForeseenInCall.grave {α : Type} {result : Except Fault α} (h : ForeseenInCall result) :
    Grave result := h.mono fun _ => Fault.IsMistakeInCall.isError

theorem grave_breakdown {α : Type} (cause : Breakdown) :
    Grave (.error (.breakdown cause) : Except Fault α) := failsOnly_error rfl

theorem grave_convert (given : Snapshot) : Grave given.convert := by
  cases given with
  | text s =>
    rw [Snapshot.convert]
    split
    · exact failsOnly_ok _
    · exact grave_breakdown _
  | number => exact failsOnly_ok _
  | truth => exact failsOnly_ok _
  | vector => exact grave_breakdown _
  | absent => exact grave_breakdown _

theorem grave_roundComponent (x : Float) : Grave (Change.roundComponent x) := by
  unfold Change.roundComponent
  split
  · exact failsOnly_ok _
  · exact grave_breakdown _
  · exact grave_breakdown _

theorem grave_checkAngle (radians : Float) : Grave (Change.checkAngle radians) := by
  unfold Change.checkAngle
  split
  · exact grave_breakdown _
  · exact failsOnly_ok _

theorem grave_result (change : Change) (method : String) (v : PlaneVector)
    (arguments : List Snapshot) : Grave (change.result method v arguments) := by
  by_cases hrotate : change = .rotate
  · subst hrotate
    exact (foreseenInCall_otherNumber _ _ _ _).grave.bind fun s =>
      (grave_checkAngle s).bind fun radians => failsOnly_ok _
  by_cases hround : change = .round
  · subst hround
    exact (foreseenInCall_noArguments _ _).grave.bind fun _ =>
      (grave_roundComponent _).bind fun x => (grave_roundComponent _).bind fun y => failsOnly_ok _
  · exact (foreseenInCall_result hrotate hround _ _ _).grave

theorem grave_write? {property : Property} {v : PlaneVector} {value : Snapshot}
    {result : Except Fault PlaneVector} (h : property.write? v value = some result) :
    Grave result := by
  have hnumber := (foreseen_toNumber property.name value).grave
  cases property <;> cases h
  · exact hnumber.bind fun s => (grave_checkAngle s).bind fun radians => failsOnly_ok _
  · refine hnumber.bind fun s => ?_
    rw [v.withLength_eq]
    exact failsOnly_ok _
  · exact hnumber.bind fun s => failsOnly_ok _
  · exact hnumber.bind fun s => failsOnly_ok _

/-! ## Actions -/

namespace Action

variable {σ α : Type}

/-- Whenever an action fails, then with a fault that counts as an error. -/
abbrev Grave (action : Action σ α) : Prop := action.FailsOnly fun fault => fault.isError = true

theorem Foreseen.grave {action : Action σ α} (h : action.Foreseen) : action.Grave :=
  h.mono fun _ => Fault.IsMistake.isError

theorem ForeseenInCall.grave {action : Action σ α} (h : action.ForeseenInCall) : action.Grave :=
  h.mono fun _ => Fault.IsMistakeInCall.isError

end Action

namespace Store

theorem grave_reset (self : VectorId) (x y : Snapshot) : (reset self x y).Grave :=
  (failsOnly_of (grave_convert x)).bind fun _ => (failsOnly_update _).bind fun _ =>
    (failsOnly_of (grave_convert y)).bind fun _ => failsOnly_update _

theorem grave_perform (method : Method) (self : VectorId) (arguments : List Value) :
    (perform method self arguments).Grave := by
  by_cases hchange : ∃ change, method = .change change
  · obtain ⟨change, rfl⟩ := hchange
    exact (failsOnly_inspect _).bind fun v => (failsOnly_inspect _).bind fun given =>
      (failsOnly_of (grave_result _ _ _ _)).bind fun w => (failsOnly_update _).bind fun _ =>
        failsOnly_pure _
  by_cases hchanged : ∃ change, method = .changed change
  · obtain ⟨change, rfl⟩ := hchanged
    exact (failsOnly_inspect _).bind fun v => (failsOnly_inspect _).bind fun given =>
      (failsOnly_of (grave_result _ _ _ _)).bind fun w => (foreseen_allocate w).grave.bind fun _ =>
        failsOnly_pure _
  by_cases hreset : method = .reset
  · subst hreset
    refine (failsOnly_inspect _).bind fun v => (failsOnly_inspect _).bind fun given => ?_
    dsimp only
    split
    · exact (grave_reset _ _ _).bind fun _ => failsOnly_pure _
    · exact failsOnly_fail rfl
  · rw [not_exists] at hchange hchanged
    exact (foreseenInCall_perform hchange hchanged hreset self arguments).grave

/-- What is an error in a method is one in its call. -/
theorem grave_call (method : Method) (self : VectorId) (arguments : List Value) :
    (call method self arguments).Grave :=
  ((grave_perform method self arguments).mono fun _ h =>
    Fault.inCall_of_isError h method.name).mapFault

end Store

theorem grave_named (name : String) : Grave (Property.named name) := by
  unfold Property.named
  split
  · exact failsOnly_ok _
  · exact failsOnly_error rfl

theorem Store.grave_writeProperty (self : VectorId) (name : String) (value : Value) :
    (writeProperty self name value).Grave := by
  refine (failsOnly_of (grave_named name)).bind fun property =>
    (failsOnly_inspect _).bind fun v => (failsOnly_inspect _).bind fun given => ?_
  cases hwrite : property.write? v given with
  | none => exact failsOnly_fail rfl
  | some result => exact (failsOnly_of (grave_write? hwrite)).bind fun _ => failsOnly_update _

/-- What is an error on a vector is one in access to its properties. -/
theorem Value.grave_writeProperty (target : Value) (name : String) (value : Value)
    (owner : Option String) : (target.writeProperty name value owner).Grave :=
  (failsOnly_of (foreseen_bearer target name owner).grave).bind fun id =>
    ((Store.grave_writeProperty id name value).mono fun _ h =>
      Fault.inAccess_of_isError h name owner).mapFault

theorem Derivation.grave_recompute (derivation : Derivation) : derivation.recompute.Grave := by
  refine (failsOnly_inspect _).bind fun x => (failsOnly_inspect _).bind fun y =>
    (failsOnly_of (foreseen_operate _ x y).grave).bind fun result => ?_
  cases result with
  | planar v => exact failsOnly_update _
  | scalar x => exact failsOnly_fail rfl

namespace World

/-! ## Evaluation -/

variable {α β : Type}

/-- An action that fails with errors only and reports nothing but flags of no known meaning, at
`place`. -/
structure Orderly (place : Place) (action : Action World α) : Prop where
  grave : action.Grave
  /-- What is reported comes after what was reported before. -/
  reports : ∀ world, ∃ messages : List String, (action.outcome world).2.diagnostics =
    world.diagnostics ++ messages.map fun message =>
      Diagnostic.ofKind .unrecognisedFlag message place .run

variable {place : Place}

/-- An action that reports nothing. -/
theorem orderly_of_silent {action : Action World α} (hgrave : action.Grave)
    (hsilent : ∀ world, (action.outcome world).2.diagnostics = world.diagnostics) :
    Orderly place action :=
  ⟨hgrave, fun world => ⟨[], by simp [hsilent world]⟩⟩

theorem orderly_pure (a : α) : Orderly place (pure a) :=
  orderly_of_silent (failsOnly_pure a) fun _ => rfl

theorem orderly_fail {fault : Fault} (h : fault.isError = true) :
    Orderly place (Action.fail fault : Action World α) :=
  orderly_of_silent (failsOnly_fail h) fun _ => rfl

theorem orderly_of {result : Except Fault α} (h : LiveVectors.Grave result) :
    Orderly place (Action.of result) :=
  orderly_of_silent (failsOnly_of h) fun _ => rfl

theorem orderly_inspect (f : World → α) : Orderly place (Action.inspect f) :=
  orderly_of_silent (failsOnly_inspect f) fun _ => rfl

theorem orderly_update {f : World → World}
    (h : ∀ world, (f world).diagnostics = world.diagnostics) : Orderly place (Action.update f) :=
  orderly_of_silent (failsOnly_update f) h

theorem orderly_onStore {action : Action Store α} (h : action.Grave) :
    Orderly place (onStore action) :=
  orderly_of_silent (h.onPart _ _) fun _ => rfl

/-- **Reports of a sequence** are those of the first action and then those of the second one. -/
theorem Orderly.bind {action : Action World α} {next : α → Action World β}
    (h : Orderly place action) (hnext : ∀ a, Orderly place (next a)) :
    Orderly place (action >>= next) := by
  refine ⟨h.grave.bind fun a => (hnext a).grave, fun world => ?_⟩
  obtain ⟨first, hfirst⟩ := h.reports world
  rw [outcome_bind]
  rcases houtcome : action.outcome world with ⟨fault | a, after⟩ <;> rw [houtcome] at hfirst
  · exact ⟨first, hfirst⟩
  · obtain ⟨second, hsecond⟩ := (hnext a).reports after
    refine ⟨first ++ second, ?_⟩
    rw [List.map_append, ← List.append_assoc, ← hfirst]
    exact hsecond

theorem orderly_lookup (name : String) : Orderly place (lookup name) := by
  refine (orderly_inspect _).bind fun found => ?_
  cases found with
  | some binding => exact orderly_pure _
  | none => exact orderly_fail rfl

theorem orderly_refresh (ids : List VectorId) : Orderly place (refresh ids) := by
  induction ids with
  | nil => exact orderly_pure _
  | cons id rest ih =>
    refine (orderly_inspect _).bind fun found => ?_
    cases found with
    | none => exact ih
    | some derivation =>
      exact (orderly_onStore derivation.grave_recompute).bind fun _ => ih.bind fun _ =>
        orderly_pure _

theorem orderly_propagate (id : VectorId) : Orderly place (propagate id) :=
  (orderly_inspect _).bind fun ids => orderly_refresh ids

theorem orderly_derive (symbol : String) (left right : Value) :
    Orderly place (derive symbol left right) := by
  refine (orderly_onStore (Store.foreseen_operate symbol left right).grave).bind fun result => ?_
  cases result with
  | vector target =>
    refine Orderly.bind (orderly_update ?_) fun _ => orderly_pure _
    exact fun _ => rfl
  | _ => exact orderly_pure _

theorem orderly_callMethod (owner name : String) {arguments : Action World (List Value)}
    (h : Orderly place arguments) : Orderly place (callMethod owner name arguments) :=
  (orderly_lookup owner).bind fun _ => (orderly_of (foreseen_method _ _ _).grave).bind fun found =>
    h.bind fun _ => (orderly_onStore (Store.grave_call _ _ _)).bind fun _ =>
      (orderly_propagate found.1).bind fun _ => orderly_pure _

mutual

/-- **Expressions report nothing and fail with errors only.** -/
theorem orderly_evaluate (expression : Expression) : Orderly place (evaluate expression) := by
  cases expression with
  | number value => exact orderly_pure _
  | text value => exact orderly_pure _
  | named name => exact orderly_lookup name
  | call name arguments =>
    rw [evaluate]
    split
    · exact (orderly_evaluateAll arguments).bind fun given =>
        (orderly_onStore (Value.foreseen_construct given).grave).bind fun _ => orderly_pure _
    · exact orderly_fail rfl
  | operation operator left right =>
    exact (orderly_evaluate left).bind fun x => (orderly_evaluate right).bind fun y =>
      orderly_derive _ x y
  | methodCall owner name arguments =>
    exact orderly_callMethod owner name (orderly_evaluateAll arguments)
  | property owner name =>
    exact (orderly_lookup owner).bind fun target =>
      orderly_onStore (Value.foreseen_readProperty target name (some owner)).grave

theorem orderly_evaluateAll (expressions : List Expression) :
    Orderly place (evaluateAll expressions) := by
  cases expressions with
  | nil => exact orderly_pure _
  | cons expression rest =>
    exact (orderly_evaluate expression).bind fun value => (orderly_evaluateAll rest).bind fun _ =>
      orderly_pure _

end

/-! ## Modifiers and instructions -/

theorem orderly_resolveOrigin (arguments : List Expression) :
    Orderly place (resolveOrigin arguments) := by
  refine (orderly_evaluateAll arguments).bind fun given => ?_
  split
  · exact orderly_pure _
  · exact orderly_onStore (Value.foreseen_construct _).grave

/-- A modifier reports a flag of no known meaning, where it is told to. -/
theorem orderly_applyModifier (look : Look) (modifier : Modifier) :
    Orderly place (applyModifier place look modifier) := by
  cases modifier with
  | option name arguments =>
    rw [applyModifier]
    split
    · exact (orderly_resolveOrigin arguments).bind fun _ => orderly_pure _
    · exact orderly_fail rfl
  | flag token =>
    rw [applyModifier]
    split
    · exact orderly_pure _
    split
    · exact orderly_pure _
    split
    · exact orderly_pure _
    · exact ⟨(failsOnly_update _).bind fun _ => failsOnly_pure _, fun world => ⟨[_], rfl⟩⟩

theorem orderly_resolve (modifiers : List Modifier) : Orderly place (resolve place modifiers) := by
  rw [resolve]
  generalize Look.plain = look
  induction modifiers generalizing look with
  | nil => exact orderly_pure _
  | cons modifier rest ih => exact (orderly_applyModifier look modifier).bind fun look' => ih look'

/-- **Carrying out an instruction** fails with errors only and reports nothing but flags of no known
meaning. -/
theorem orderly_execute (place : Place) (instruction : Instruction) :
    Orderly place (execute place instruction) := by
  cases hstatement : instruction.statement with
  | assign name expression modifiers =>
    simp only [execute, hstatement]
    exact (orderly_evaluate _).bind fun _ => (orderly_resolve _).bind fun _ =>
      orderly_update fun _ => rfl
  | setProperty owner property expression =>
    simp only [execute, hstatement]
    refine (orderly_lookup _).bind fun target => (orderly_evaluate _).bind fun value =>
      (orderly_onStore (Value.grave_writeProperty _ _ _ _)).bind fun _ => ?_
    cases target with
    | vector id => exact (orderly_propagate id).bind fun _ => orderly_pure _
    | _ => exact orderly_pure _
  | callMethod owner name arguments =>
    rw [execute_callMethod place hstatement]
    exact (orderly_callMethod _ _ (orderly_evaluateAll _)).bind fun _ => orderly_pure _

end World
end LiveVectors

import LiveVectors.Fault

/-!
# Actions

An action works on a state and either gives a result or fails with a fault.  The state survives a
failure: what an action did before it failed stays done.  `Action.outcome` is the view under
which actions are reasoned about, and the lemmas here say what each way to build an action does
to it.
-/

set_option autoImplicit false

namespace LiveVectors

/-- A computation on a state that can fail and keeps its effects when it does. -/
abbrev Action (σ α : Type) := ExceptT Fault (StateM σ) α

namespace Action

variable {σ τ α β : Type}

/-- What an action gives from a state, and the state it leaves. -/
def outcome (action : Action σ α) (state : σ) : Except Fault α × σ := action.run state

/-- The action that fails and does nothing else. -/
def fail (fault : Fault) : Action σ α := throw fault

/-- The action whose result or failure is known. -/
def of (result : Except Fault α) : Action σ α := ExceptT.mk (pure result)

/-- The result that the state alone decides. -/
def inspect (f : σ → α) : Action σ α := do return f (← get)

/-- Changes the state. -/
def update (f : σ → σ) : Action σ Unit := modify f

/-- An action on a part of a state: `part` takes it out and `put` puts it back. -/
def onPart (part : τ → σ) (put : σ → τ → τ) (action : Action σ α) : Action τ α :=
  ExceptT.mk fun state =>
    let (result, inner) := action.outcome (part state)
    (result, put inner state)

/-- An action whose faults are reported as `f` says. -/
def mapFault (f : Fault → Fault) (action : Action σ α) : Action σ α :=
  ExceptT.mk fun state =>
    let (result, after) := action.outcome state
    (result.mapError f, after)

theorem of_ok_bind (a : α) (next : α → Action σ β) : (of (.ok a) >>= next) = next a := rfl

theorem of_error_bind (fault : Fault) (next : α → Action σ β) :
    (of (.error fault) >>= next) = fail fault := rfl

/-! ## Outcomes -/

@[simp] theorem outcome_pure (a : α) (state : σ) :
    (pure a : Action σ α).outcome state = (.ok a, state) := rfl

@[simp] theorem outcome_fail (fault : Fault) (state : σ) :
    (fail fault : Action σ α).outcome state = (.error fault, state) := rfl

@[simp] theorem outcome_throw (fault : Fault) (state : σ) :
    (throw fault : Action σ α).outcome state = (.error fault, state) := rfl

@[simp] theorem outcome_of (result : Except Fault α) (state : σ) :
    (of result : Action σ α).outcome state = (result, state) := rfl

@[simp] theorem outcome_inspect (f : σ → α) (state : σ) :
    (inspect f).outcome state = (.ok (f state), state) := rfl

@[simp] theorem outcome_update (f : σ → σ) (state : σ) :
    (update f).outcome state = (.ok (), f state) := rfl

@[simp] theorem outcome_onPart (part : τ → σ) (put : σ → τ → τ) (action : Action σ α) (state : τ) :
    (onPart part put action).outcome state =
      ((action.outcome (part state)).1, put (action.outcome (part state)).2 state) := rfl

@[simp] theorem outcome_mapFault (f : Fault → Fault) (action : Action σ α) (state : σ) :
    (mapFault f action).outcome state =
      ((action.outcome state).1.mapError f, (action.outcome state).2) := rfl

/-- The second action of a sequence starts where the first one stops, and does not start at all
if the first one fails. -/
theorem outcome_bind (action : Action σ α) (next : α → Action σ β) (state : σ) :
    (action >>= next).outcome state =
      match action.outcome state with
      | (.ok a, after) => (next a).outcome after
      | (.error fault, after) => (.error fault, after) := by
  unfold outcome
  change ExceptT.bindCont next (action.run state).1 (action.run state).2 = _
  rcases action.run state with ⟨_ | _, _⟩ <;> rfl

/-- A sequence of actions fails where its first part does or where its second part does. -/
theorem outcome_bind_error_cases {action : Action σ α} {next : α → Action σ β} {state after : σ}
    {fault : Fault} (h : (action >>= next).outcome state = (.error fault, after)) :
    action.outcome state = (.error fault, after) ∨
      ∃ a middle, action.outcome state = (.ok a, middle) ∧
        (next a).outcome middle = (.error fault, after) := by
  rw [outcome_bind] at h
  rcases houtcome : action.outcome state with ⟨found | a, middle⟩ <;> rw [houtcome] at h
  · cases h
    exact .inl rfl
  · exact .inr ⟨a, middle, rfl, h⟩

/-- A sequence of actions succeeds where both parts do. -/
theorem outcome_bind_ok {action : Action σ α} {next : α → Action σ β} {state after : σ}
    {b : β} (h : (action >>= next).outcome state = (.ok b, after)) :
    ∃ a middle, action.outcome state = (.ok a, middle) ∧
      (next a).outcome middle = (.ok b, after) := by
  rw [outcome_bind] at h
  rcases houtcome : action.outcome state with ⟨found | a, middle⟩ <;> rw [houtcome] at h
  · cases h
  · exact ⟨a, middle, rfl, h⟩

end Action
end LiveVectors

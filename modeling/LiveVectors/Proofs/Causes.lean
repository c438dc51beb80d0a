import LiveVectors.Proofs.Changes
import LiveVectors.Proofs.Foreseen
import LiveVectors.Proofs.Rounding

/-!
# Calls and writes that break down

Some calls fail unexpectedly: a text that writes no number, a component that cannot be rounded, and
an infinite angle.  Nothing else breaks down: what a method divides by is not zero, a call reports
arguments that do not fit its method as a mistake, and access to a property does so with one that is
missing.

* `Change.BreaksDown` and `Method.BreaksDown` — the calls that break down.  No other call fails
  unexpectedly (`Change.breaksDown_of_result`, `Store.breaksDown_of_call`).
* `Value.infinite_of_writeProperty` — of the properties, only the angle can fail so.
-/

set_option autoImplicit false

namespace LiveVectors

open LiveVectors.Action

/-! ## Calls that break down -/

/-- A change breaks down on a vector with the components `v`: there is no integer near to what is
not finite, and no sine of what is infinite. -/
inductive Change.BreaksDown (v : PlaneVector) : Change → List Snapshot → Breakdown → Prop
  | notANumber {component : Float} (hcomponent : component = v.x ∨ component = v.y)
      (h : component.isNaN = true) : BreaksDown v .round [] .roundsNotANumber
  | infinity {component : Float} (hcomponent : component = v.x ∨ component = v.y)
      (h : component.isInf = true) : BreaksDown v .round [] .roundsInfinity
  | angle {radians : Float} (h : radians.isInf = true) :
      BreaksDown v .rotate [.number radians] .infiniteAngle

/-- A method breaks down on a vector with the components `v`: its change does, or it is `reset` and
gets a text that writes no number. -/
inductive Method.BreaksDown (v : PlaneVector) : Method → List Snapshot → Breakdown → Prop
  | change {change : Change} {given : List Snapshot} {cause : Breakdown}
      (h : change.BreaksDown v given cause) : BreaksDown v (.change change) given cause
  | changed {change : Change} {given : List Snapshot} {cause : Breakdown}
      (h : change.BreaksDown v given cause) : BreaksDown v (.changed change) given cause
  | reset {x y : Snapshot} {text : String} (htext : x = .text text ∨ y = .text text)
      (hnumeral : Number.coerce? text.toList = none) :
      BreaksDown v .reset [x, y] (.notANumeral text)

/-- Whether a breakdown is about the value of a number or of a text.  A division by zero, arguments
that do not fit a method, a property that is missing and a vector that became a number are none of
these. -/
def Breakdown.ConcernsValue : Breakdown → Prop
  | notANumeral _ => True
  | roundsNotANumber => True
  | roundsInfinity => True
  | infiniteAngle => True
  | _ => False

theorem Change.BreaksDown.concernsValue {v : PlaneVector} {change : Change} {given : List Snapshot}
    {cause : Breakdown} (h : change.BreaksDown v given cause) : cause.ConcernsValue := by
  cases h <;> trivial

theorem Method.BreaksDown.concernsValue {v : PlaneVector} {method : Method} {given : List Snapshot}
    {cause : Breakdown} (h : method.BreaksDown v given cause) : cause.ConcernsValue := by
  cases h with
  | change h => exact h.concernsValue
  | changed h => exact h.concernsValue
  | reset => trivial

/-- A call leaves such a breakdown as it is. -/
theorem Breakdown.ConcernsValue.inCall {cause : Breakdown} (h : cause.ConcernsValue)
    (method : String) : (Fault.breakdown cause).inCall method = .breakdown cause := by
  cases cause <;> first | rfl | cases h

theorem eq_nil_of_noArguments {α : Type} {method : String} {arguments : List α}
    (h : noArguments method arguments = .ok ()) : arguments = [] := by
  cases arguments with
  | nil => rfl
  | cons argument rest => cases h

theorem Change.eq_of_otherNumber {change : Change} {method parameter : String}
    {given : List Snapshot} {x : Float}
    (h : change.otherNumber method parameter given = .ok x) : given = [.number x] := by
  rcases given with _ | ⟨argument, _ | ⟨second, rest⟩⟩
  · cases h
  · cases argument <;> cases h
    rfl
  · cases h

theorem checkAngle_error {x : Float} {fault : Fault} (h : Change.checkAngle x = .error fault) :
    x.isInf = true ∧ fault = .breakdown .infiniteAngle := by
  rw [Change.checkAngle] at h
  split at h <;> cases h
  exact ⟨‹_›, rfl⟩

/-- **Changes that fail without a mistake in their call** are those that break down. -/
theorem Change.breaksDown_of_result {change : Change} {method : String} {v : PlaneVector}
    {given : List Snapshot} {fault : Fault} (h : change.result method v given = .error fault)
    (hbroken : ¬ fault.IsMistakeInCall) :
    ∃ cause, fault = .breakdown cause ∧ change.BreaksDown v given cause := by
  by_cases hrotate : change = .rotate
  · subst hrotate
    rcases bind_error_cases h with hgiven | ⟨x, hgiven, hrest⟩
    · exact absurd (foreseenInCall_otherNumber _ _ _ _ fault hgiven) hbroken
    rcases bind_error_cases hrest with hangle | ⟨radians, -, hrotated⟩
    · obtain ⟨hinf, hfault⟩ := checkAngle_error hangle
      exact ⟨_, hfault, eq_of_otherNumber hgiven ▸ .angle hinf⟩
    · cases hrotated
  by_cases hround : change = .round
  · subst hround
    rcases bind_error_cases h with hgiven | ⟨_, hgiven, hrest⟩
    · exact absurd (foreseenInCall_noArguments _ _ fault hgiven) hbroken
    have hcomponent : ∃ component, (component = v.x ∨ component = v.y) ∧
        roundComponent component = .error fault := by
      rcases bind_error_cases hrest with hx | ⟨x, -, hlast⟩
      · exact ⟨v.x, .inl rfl, hx⟩
      rcases bind_error_cases hlast with hy | ⟨y, -, hrounded⟩
      · exact ⟨v.y, .inr rfl, hy⟩
      · cases hrounded
    obtain rfl := eq_nil_of_noArguments hgiven
    obtain ⟨component, hof, hrounds⟩ := hcomponent
    rcases roundComponent_error_cases hrounds with ⟨hnan, rfl⟩ | ⟨hinf, rfl⟩
    · exact ⟨_, rfl, .notANumber hof hnan⟩
    · exact ⟨_, rfl, .infinity hof hinf⟩
  · exact absurd (foreseenInCall_result hrotate hround method v given fault h) hbroken

/-- A value that is not converted, and not for being of the wrong kind, is a text that writes no
number. -/
theorem Snapshot.eq_of_convert_error {given : Snapshot} {fault : Fault}
    (h : given.convert = .error fault) (hbroken : ¬ fault.IsMistakeInCall) :
    ∃ text, given = .text text ∧ Number.coerce? text.toList = none ∧
      fault = .breakdown (.notANumeral text) := by
  cases given with
  | text s =>
    rw [convert] at h
    split at h <;> cases h
    exact ⟨s, rfl, ‹_›, rfl⟩
  | number => cases h
  | truth => cases h
  | vector =>
    cases h
    exact absurd (Fault.isMistakeInCall_misfit _) hbroken
  | absent =>
    cases h
    exact absurd (Fault.isMistakeInCall_misfit _) hbroken

/-- A `reset` that breaks down got a text that writes no number. -/
theorem Store.exists_text_of_reset {self : VectorId} {x y : Snapshot} {store after : Store}
    {fault : Fault} (h : (reset self x y).outcome store = (.error fault, after))
    (hbroken : ¬ fault.IsMistakeInCall) :
    ∃ text, (x = .text text ∨ y = .text text) ∧ Number.coerce? text.toList = none ∧
      fault = .breakdown (.notANumeral text) := by
  rcases outcome_bind_error_cases h with hx | ⟨left, _, -, hrest⟩
  · obtain ⟨text, htext, hnumeral, hfault⟩ :=
      Snapshot.eq_of_convert_error (congrArg Prod.fst hx) hbroken
    exact ⟨text, .inl htext, hnumeral, hfault⟩
  rcases outcome_bind_error_cases hrest with hwrite | ⟨_, _, -, hlast⟩
  · cases hwrite
  rcases outcome_bind_error_cases hlast with hy | ⟨right, _, -, hwritten⟩
  · obtain ⟨text, htext, hnumeral, hfault⟩ :=
      Snapshot.eq_of_convert_error (congrArg Prod.fst hy) hbroken
    exact ⟨text, .inr htext, hnumeral, hfault⟩
  · cases hwritten

/-- **Methods that fail without a mistake in their call** are those that break down. -/
theorem Store.breaksDown_of_perform {method : Method} {self : VectorId} {arguments : List Value}
    {store after : Store} {fault : Fault}
    (h : (perform method self arguments).outcome store = (.error fault, after))
    (hbroken : ¬ fault.IsMistakeInCall) :
    ∃ cause, fault = .breakdown cause ∧
      method.BreaksDown (store.get self) (arguments.map store.snapshot) cause := by
  by_cases hchange : ∃ change, method = .change change
  · obtain ⟨change, rfl⟩ := hchange
    rw [outcome_perform_change] at h
    split at h <;> cases h
    obtain ⟨cause, hfault, hbreaks⟩ := Change.breaksDown_of_result ‹_› hbroken
    exact ⟨cause, hfault, .change hbreaks⟩
  by_cases hchanged : ∃ change, method = .changed change
  · obtain ⟨change, rfl⟩ := hchanged
    rw [outcome_perform_changed] at h
    split at h <;> cases h
    obtain ⟨cause, hfault, hbreaks⟩ := Change.breaksDown_of_result ‹_› hbroken
    exact ⟨cause, hfault, .changed hbreaks⟩
  by_cases hreset : method = .reset
  · subst hreset
    simp only [perform, outcome_bind, outcome_inspect] at h
    split at h
    · rename_i x y hgiven
      rcases outcome_bind_error_cases h with hwrite | ⟨_, _, -, hwritten⟩
      · obtain ⟨text, htext, hnumeral, hfault⟩ := exists_text_of_reset hwrite hbroken
        exact ⟨_, hfault, hgiven ▸ .reset htext hnumeral⟩
      · cases hwritten
    · cases h
      exact absurd (Fault.isMistakeInCall_misfit _) hbroken
  · rw [not_exists] at hchange hchanged
    exact absurd (foreseenInCall_perform hchange hchanged hreset self arguments store fault
      (congrArg Prod.fst h)) hbroken

/-- **Calls that fail unexpectedly** are those that break down. -/
theorem Store.breaksDown_of_call {method : Method} {self : VectorId} {arguments : List Value}
    {store after : Store} {fault : Fault}
    (h : (call method self arguments).outcome store = (.error fault, after))
    (hunexpected : fault.IsUnexpected) :
    ∃ cause, fault = .breakdown cause ∧
      method.BreaksDown (store.get self) (arguments.map store.snapshot) cause := by
  rw [outcome_call] at h
  rcases hperform : (perform method self arguments).outcome store with ⟨found | value, last⟩ <;>
    rw [hperform] at h <;> cases h
  have hbroken : ¬ found.IsMistakeInCall := fun hmistake =>
    (hmistake method.name).not_isUnexpected hunexpected
  obtain ⟨cause, rfl, hbreaks⟩ := breaksDown_of_perform hperform hbroken
  exact ⟨cause, hbreaks.concernsValue.inCall method.name, hbreaks⟩

/-! ## Writes that break down -/

theorem Snapshot.eq_of_toNumber {given : Snapshot} {operation : String} {x : Float}
    (h : given.toNumber operation = .ok x) : given = .number x := by
  cases given <;> cases h
  rfl

/-- Of the properties only the angle can refuse a number: an infinite one. -/
theorem Property.infinite_of_write? {property : Property} {v : PlaneVector} {value : Snapshot}
    {fault : Fault} (h : property.write? v value = some (.error fault))
    (hunexpected : fault.IsUnexpected) :
    property = .angle ∧
      ∃ x, value = .number x ∧ x.isInf = true ∧ fault = .breakdown .infiniteAngle := by
  have hplain : ∀ f : Float → PlaneVector,
      (do return f (← value.toNumber property.name)) ≠ Except.error fault := fun f hfault =>
    ((foreseen_toNumber _ _).bind fun _ => failsOnly_ok _) fault hfault |>.not_isUnexpected
      hunexpected
  cases property with
  | angle =>
    rcases bind_error_cases (Option.some.inj h) with hgiven | ⟨x, hgiven, hrest⟩
    · exact absurd hunexpected (foreseen_toNumber _ _ fault hgiven).not_isUnexpected
    rcases bind_error_cases hrest with hangle | ⟨radians, -, hwritten⟩
    · obtain ⟨hinf, hfault⟩ := checkAngle_error hangle
      exact ⟨rfl, x, Snapshot.eq_of_toNumber hgiven, hinf, hfault⟩
    · cases hwritten
  | length =>
    simp only [write?, v.withLength_eq] at h
    exact absurd (Option.some.inj h) (hplain _)
  | lengthSquared => cases h
  | x => exact absurd (Option.some.inj h) (hplain _)
  | y => exact absurd (Option.some.inj h) (hplain _)

theorem Property.name_of_named {name : String} {property : Property}
    (h : named name = .ok property) : property.name = name := by
  rw [named] at h
  split at h
  · rename_i hfound
    cases h
    have hname := List.find?_some hfound
    exact eq_of_beq hname
  · cases h

/-- Writes to a vector that are no mistake in access to a property, and fail, are writes of infinite
angles. -/
theorem Store.infinite_of_writeProperty {self : VectorId} {value : Value} {name : String}
    {owner : Option String} {store after : Store} {fault : Fault}
    (h : (writeProperty self name value).outcome store = (.error fault, after))
    (hunexpected : (fault.inAccess name owner).IsUnexpected) :
    after = store ∧ name = Property.angle.name ∧
      ∃ x, value = .number x ∧ x.isInf = true ∧ fault = .breakdown .infiniteAngle := by
  rcases outcome_bind_error_cases h with hfound | ⟨property, _, hfound, hrest⟩
  · exact absurd hunexpected
      (foreseen_named name owner fault (congrArg Prod.fst hfound)).not_isUnexpected
  obtain ⟨hnamed, rfl⟩ := Prod.mk.inj hfound
  simp only [outcome_bind, outcome_inspect] at hrest
  split at hrest
  · rename_i result hwrite
    rcases outcome_bind_error_cases hrest with hresult | ⟨_, _, -, hwritten⟩
    · obtain ⟨rfl, rfl⟩ := Prod.mk.inj hresult
      obtain ⟨rfl, x, hvalue, hinf, hfault⟩ :=
        Property.infinite_of_write? hwrite hunexpected.of_inAccess
      refine ⟨rfl, (Property.name_of_named hnamed).symm, x, ?_, hinf, hfault⟩
      cases value <;> cases hvalue
      rfl
    · cases hwritten
  · cases hrest
    cases hunexpected

/-- **Writes that fail unexpectedly** are writes of infinite angles. -/
theorem Value.infinite_of_writeProperty {target value : Value} {name : String}
    {owner : Option String} {store after : Store} {fault : Fault}
    (h : (target.writeProperty name value owner).outcome store = (.error fault, after))
    (hunexpected : fault.IsUnexpected) :
    after = store ∧ name = Property.angle.name ∧
      ∃ x, value = .number x ∧ x.isInf = true ∧ fault = .breakdown .infiniteAngle := by
  rcases outcome_bind_error_cases h with hbearer | ⟨id, _, hbearer, hrest⟩
  · exact absurd hunexpected
      (foreseen_bearer target name owner fault (congrArg Prod.fst hbearer)).not_isUnexpected
  obtain ⟨-, rfl⟩ := Prod.mk.inj hbearer
  rw [outcome_mapFault] at hrest
  rcases hwrite : (Store.writeProperty id name value).outcome store with ⟨found | _, last⟩ <;>
    rw [hwrite] at hrest <;> cases hrest
  obtain ⟨hafter, hname, x, hvalue, hinf, rfl⟩ :=
    Store.infinite_of_writeProperty hwrite hunexpected
  exact ⟨hafter, hname, x, hvalue, hinf, rfl⟩

end LiveVectors

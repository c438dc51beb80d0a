import LiveVectors.Proofs.Broadcast

/-!
# Changes and their twins

Eleven methods change the vector that they are called on, and each of them has a twin that leaves it
alone and gives a new vector instead.  Both succeed on the same arguments and make the same
components; where they fail they fail alike, except that a complaint about the number of arguments
names the method that was called.

* `Fault.calledAs` — a fault as the method of a name reports it.
* `UpToName` — what is computed under different names and differs in such complaints alone.
* `Change.upToName_result` — what a change makes of a vector does not depend on the name.
* `Value.outcome_twins` — the result, for methods by name.
-/

set_option autoImplicit false

namespace LiveVectors

open LiveVectors.Action

/-! ## Names in faults -/

/-- What does not fit the method `method`: a complaint about the number of arguments names the
method that was called. -/
def Misfit.calledAs (method : String) : Misfit → Misfit
  | wrongCount _ parameters given => wrongCount method parameters given
  | problem => problem

/-- A fault as the method `method` reports it: a complaint about arguments that do not fit names the
method that was called, and no other fault does. -/
def Fault.calledAs (method : String) : Fault → Fault
  | breakdown (.misfit problem) => breakdown (.misfit (problem.calledAs method))
  | badArgument (.misfit _ problem) => badArgument (.misfit method (problem.calledAs method))
  | fault => fault

/-- A call reports a fault of its method under the name that was called. -/
theorem Fault.inCall_calledAs (method other : String) (fault : Fault) :
    (fault.calledAs method).inCall method = (fault.inCall other).calledAs method := by
  cases fault with
  | breakdown cause => cases cause <;> rfl
  | badArgument problem => cases problem <;> rfl
  | _ => rfl

/-- The last name counts. -/
theorem Fault.calledAs_calledAs (method other : String) (fault : Fault) :
    (fault.calledAs other).calledAs method = fault.calledAs method := by
  cases fault with
  | breakdown cause =>
    cases cause with
    | misfit problem => cases problem <;> rfl
    | _ => rfl
  | badArgument problem =>
    cases problem with
    | misfit _ problem => cases problem <;> rfl
    | _ => rfl
  | _ => rfl

/-- Whether a computation does the same under every name of a method, up to the name in its
fault. -/
def UpToName {α : Type} (computation : String → Except Fault α) : Prop :=
  (∃ a, ∀ method, computation method = .ok a) ∨
    ∃ fault : Fault, ∀ method, computation method = .error (fault.calledAs method)

variable {α β : Type}

/-- **Steps of a computation that all do the same under every name** do so together. -/
theorem UpToName.bind {computation : String → Except Fault α}
    {next : String → α → Except Fault β} (h : UpToName computation)
    (hnext : ∀ a, UpToName fun method => next method a) :
    UpToName fun method => computation method >>= next method := by
  rcases h with ⟨a, ha⟩ | ⟨fault, hfault⟩
  · have hsame : (fun method => computation method >>= next method) = fun method => next method a :=
      funext fun method => by rw [ha]; rfl
    exact hsame ▸ hnext a
  · exact .inr ⟨fault, fun method => by dsimp only; rw [hfault]; rfl⟩

theorem upToName_ok (a : α) : UpToName fun _ => .ok a := .inl ⟨a, fun _ => rfl⟩

/-- What fails under no name does the same under every name. -/
theorem upToName_of_calledAs {result : Except Fault α}
    (h : ∀ fault, result = .error fault → ∀ method, fault.calledAs method = fault) :
    UpToName fun _ => result := by
  cases result with
  | ok a => exact upToName_ok a
  | error fault => exact .inr ⟨fault, fun method => by rw [h fault rfl method]⟩

/-- What does the same under every name does so when it is called. -/
theorem UpToName.inCall {computation : String → Except Fault α} (h : UpToName computation) :
    UpToName fun method => (computation method).mapError (Fault.inCall method) := by
  rcases h with ⟨a, ha⟩ | ⟨fault, hfault⟩
  · exact .inl ⟨a, fun method => by dsimp only; rw [ha, Except.mapError]⟩
  · refine .inr ⟨fault.inCall "", fun method => ?_⟩
    dsimp only
    rw [hfault, Except.mapError, fault.inCall_calledAs method ""]

theorem upToName_onlyArgument (parameter : String) (arguments : List α) :
    UpToName fun method => onlyArgument method parameter arguments := by
  match arguments with
  | [] => exact .inr ⟨.breakdown (.misfit (.wrongCount "" [parameter] 0)), fun _ => rfl⟩
  | [argument] => exact upToName_ok argument
  | first :: second :: rest =>
    exact .inr ⟨.breakdown (.misfit (.wrongCount "" [parameter] (first :: second :: rest).length)),
      fun _ => rfl⟩

theorem upToName_noArguments (arguments : List α) :
    UpToName fun method => noArguments method arguments := by
  cases arguments with
  | nil => exact upToName_ok ()
  | cons first rest =>
    exact .inr ⟨.breakdown (.misfit (.wrongCount "" [] (first :: rest).length)), fun _ => rfl⟩

/-! ## What a change makes under its two names -/

namespace Snapshot

theorem upToName_toVector (operation : String) (value : Snapshot) :
    UpToName fun _ => value.toVector operation := by
  refine upToName_of_calledAs fun fault hfault method => ?_
  cases value <;> cases hfault <;> rfl

theorem upToName_toNumber (operation : String) (value : Snapshot) :
    UpToName fun _ => value.toNumber operation := by
  refine upToName_of_calledAs fun fault hfault method => ?_
  cases value <;> cases hfault <;> rfl

end Snapshot

namespace Change

variable (change : Change)

theorem upToName_otherVector (arguments : List Snapshot) :
    UpToName fun method => change.otherVector method arguments :=
  (upToName_onlyArgument "other" arguments).bind fun value => value.upToName_toVector change.name

theorem upToName_otherNumber (parameter : String) (arguments : List Snapshot) :
    UpToName fun method => change.otherNumber method parameter arguments :=
  (upToName_onlyArgument parameter arguments).bind fun value =>
    value.upToName_toNumber change.name

theorem upToName_roundComponent (x : Float) : UpToName fun _ => roundComponent x := by
  refine upToName_of_calledAs fun fault hfault method => ?_
  rw [roundComponent] at hfault
  split at hfault <;> cases hfault <;> rfl

theorem upToName_checkAngle (radians : Float) : UpToName fun _ => checkAngle radians := by
  refine upToName_of_calledAs fun fault hfault method => ?_
  rw [checkAngle] at hfault
  split at hfault <;> cases hfault
  rfl

/-- **What a change makes of a vector does not depend on the name** under which it is called. -/
theorem upToName_result (v : PlaneVector) (arguments : List Snapshot) :
    UpToName fun method => change.result method v arguments := by
  cases change with
  | add | subtract | multiply =>
    exact (upToName_otherVector _ arguments).bind fun w => upToName_ok _
  | divide =>
    refine (upToName_otherVector _ arguments).bind fun w => ?_
    split
    · exact .inr ⟨.badArgument .zeroDivisor, fun _ => rfl⟩
    · rename_i hzero
      rw [v.divide_of_ne (Bool.eq_false_iff.2 hzero)]
      exact upToName_ok _
  | addScalar | subtractScalar | scale =>
    exact (upToName_otherNumber _ "value" arguments).bind fun s => upToName_ok _
  | negate => exact (upToName_noArguments arguments).bind fun _ => upToName_ok _
  | normalise =>
    refine (upToName_noArguments arguments).bind fun _ => ?_
    rw [v.normalise_eq]
    exact upToName_ok _
  | rotate =>
    exact (upToName_otherNumber _ "radians" arguments).bind fun s =>
      (upToName_checkAngle s).bind fun radians => upToName_ok _
  | round =>
    exact (upToName_noArguments arguments).bind fun _ =>
      (upToName_roundComponent v.x).bind fun x =>
        (upToName_roundComponent v.y).bind fun y => upToName_ok _

end Change

/-! ## Calls by name -/

/-- **Methods that have a twin** are the changes in place. -/
theorem Method.exists_change_of_twin {name : String}
    (h : (Method.ofName? (name ++ "_new")).isSome = true) :
    ∃ change : Change, name = change.name := by
  obtain ⟨method, hmethod⟩ := Option.isSome_iff_exists.1 h
  have hname := congrArg String.toList (Method.name_of_ofName? hmethod)
  rw [String.toList_append] at hname
  have hsuffix : "_new".toList <:+ method.name.toList := hname ▸ List.suffix_append _ _
  cases method with
  | change c =>
    have hplain : ¬ "_new".toList <:+ c.name.toList := by cases c <;> decide
    exact absurd hsuffix hplain
  | changed c =>
    rw [Method.name, String.toList_append] at hname
    exact ⟨c, (String.toList_injective (List.append_cancel_right hname)).symm⟩
  | _ => exact absurd hsuffix (by decide)

namespace Value

/-- A method of a vector is called by its name. -/
theorem outcome_callMethod_name (method : Method) (self : VectorId) (arguments : List Value)
    (owner : Option String) (store : Store) :
    ((vector self).callMethod method.name arguments owner).outcome store =
      (Store.call method self arguments).outcome store := by
  have hmethod : (vector self).method method.name owner = .ok (self, method) := by
    simp [Value.method, vectorId?, Method.ofName?_name]
  rw [callMethod, hmethod, outcome_bind, outcome_of]

theorem outcome_callMethod_change (change : Change) (self : VectorId) (arguments : List Value)
    (owner : Option String) (store : Store) :
    ((vector self).callMethod change.name arguments owner).outcome store =
      match (change.result change.name (store.get self) (arguments.map store.snapshot)).mapError
          (Fault.inCall change.name) with
      | .ok v => (.ok (.vector self), store.set self v)
      | .error fault => (.error fault, store) :=
  (outcome_callMethod_name (.change change) self arguments owner store).trans
    (Store.outcome_call_change change self arguments store)

theorem outcome_callMethod_changed (change : Change) (self : VectorId) (arguments : List Value)
    (owner : Option String) (store : Store) :
    ((vector self).callMethod (change.name ++ "_new") arguments owner).outcome store =
      match (change.result (change.name ++ "_new") (store.get self)
          (arguments.map store.snapshot)).mapError (Fault.inCall (change.name ++ "_new")) with
      | .ok v => (.ok (.vector store.size), store.push v)
      | .error fault => (.error fault, store) :=
  (outcome_callMethod_name (.changed change) self arguments owner store).trans
    (Store.outcome_call_changed change self arguments store)

/-- To change a copy in place is to call the twin. -/
theorem outcome_callMethod_copy (change : Change) {self : VectorId} {arguments : List Value}
    (owner : Option String) {store : Store} {v : PlaneVector}
    (h : ∀ argument ∈ arguments, argument.Within store.size)
    (hresult : (change.result change.name (store.get self)
      (arguments.map store.snapshot)).mapError (Fault.inCall change.name) = .ok v) :
    (do (vector (← Store.allocate (store.get self))).callMethod change.name arguments owner :
        Action Store Value).outcome store = (.ok (.vector store.size), store.push v) := by
  simp only [outcome_bind, Store.outcome_allocate, outcome_callMethod_change,
    Store.map_snapshot_push _ h, Store.get_push_self, hresult, Store.set_push_self]

/-- **Changes and their twins agree.**  For a method with a twin, every store, every vector in it
and every list of arguments: either both calls fail with the same fault, each under its own name,
and no vector changes; or the method gives its vector and changes that one alone, the twin changes
no vector and gives a new one with exactly those components, and this is also what the method makes
of a copy.  The arguments count as they are before the call, so that it is of no account whether the
vector itself is among them or a copy of it. -/
theorem outcome_twins {name : String} (hname : (Method.ofName? (name ++ "_new")).isSome = true)
    {self : VectorId} {arguments : List Value} {store : Store} (owner : Option String)
    (hself : self < store.size) (harguments : ∀ argument ∈ arguments, argument.Within store.size) :
    ((∃ fault : Fault, ∀ method ∈ [name, name ++ "_new"],
        ((vector self).callMethod method arguments owner).outcome store =
          (.error (fault.calledAs method), store)) ∨
      ∃ changed fresh made,
        ((vector self).callMethod name arguments owner).outcome store =
          (.ok (.vector self), changed) ∧
        changed.size = store.size ∧ store.ChangesOnly self changed ∧
        ((vector self).callMethod (name ++ "_new") arguments owner).outcome store =
          (.ok (.vector fresh), made) ∧
        store.size ≤ fresh ∧ fresh < made.size ∧
        (∀ other < store.size, made.get other = store.get other) ∧
        made.get fresh = changed.get self ∧
        (do (vector (← Store.allocate (store.get self))).callMethod name arguments owner :
            Action Store Value).outcome store = (.ok (.vector fresh), made)) ∧
    ∀ arguments', arguments'.map store.snapshot = arguments.map store.snapshot →
      ∀ method ∈ [name, name ++ "_new"],
        ((vector self).callMethod method arguments' owner).outcome store =
          ((vector self).callMethod method arguments owner).outcome store := by
  obtain ⟨change, rfl⟩ := Method.exists_change_of_twin hname
  have hboth {p : String → Prop} (h : p change.name) (h' : p (change.name ++ "_new")) :
      ∀ method ∈ [change.name, change.name ++ "_new"], p method :=
    List.forall_mem_cons.2 ⟨h, List.forall_mem_singleton.2 h'⟩
  have hresult : (∃ v, ∀ method, (change.result method (store.get self)
        (arguments.map store.snapshot)).mapError (Fault.inCall method) = .ok v) ∨
      ∃ fault : Fault, ∀ method, (change.result method (store.get self)
        (arguments.map store.snapshot)).mapError (Fault.inCall method) =
          .error (fault.calledAs method) :=
    (change.upToName_result (store.get self) (arguments.map store.snapshot)).inCall
  refine ⟨?_, fun arguments' hsame => hboth ?_ ?_⟩
  · rcases hresult with ⟨v, hv⟩ | ⟨fault, hfault⟩
    · refine .inr ⟨store.set self v, store.size, store.push v, ?_, store.size_set self v,
        Store.changesOnly_set store self v, ?_, Nat.le_refl _, by simp,
        fun other hlt => Store.get_push_lt store v hlt, ?_,
        outcome_callMethod_copy change owner harguments (hv change.name)⟩
      · rw [outcome_callMethod_change, hv]
      · rw [outcome_callMethod_changed, hv]
      · rw [Store.get_push_self, Store.get_set_self store v hself]
    · refine .inl ⟨fault, hboth ?_ ?_⟩
      · rw [outcome_callMethod_change, hfault]
      · rw [outcome_callMethod_changed, hfault]
  · rw [outcome_callMethod_change, outcome_callMethod_change, hsame]
  · rw [outcome_callMethod_changed, outcome_callMethod_changed, hsame]

/-- A vector that is added to itself.  One with a zero component cannot be divided by itself, and no
vector by nothing; the second complaint names the method, the first one does not. -/
theorem outcome_twins_doubling :
    ((Method.ofName? ("add" ++ "_new")).isSome = true ∧ (vector 0).Within 1 ∧
      ∃ changed fresh made,
        ((vector 0).callMethod "add" [vector 0] none).outcome ⟨#[⟨2, 4⟩]⟩ =
          (.ok (.vector 0), changed) ∧
        ((vector 0).callMethod "add_new" [vector 0] none).outcome ⟨#[⟨2, 4⟩]⟩ =
          (.ok (.vector fresh), made) ∧
        made.get 0 = ⟨2, 4⟩ ∧ made.get fresh = changed.get 0 ∧ changed.get 0 = ⟨4, 8⟩) ∧
    (Method.ofName? ("divide" ++ "_new")).isSome = true ∧
      ∀ method ∈ ["divide", "divide_new"],
        ((vector 0).callMethod method [vector 0] none).outcome ⟨#[⟨0, 4⟩]⟩ =
          (.error (.badArgument .zeroDivisor), ⟨#[⟨0, 4⟩]⟩) ∧
        ((vector 0).callMethod method [] none).outcome ⟨#[⟨0, 4⟩]⟩ =
          (.error (.badArgument (.misfit method (.wrongCount method ["other"] 0))),
            ⟨#[⟨0, 4⟩]⟩) := by
  have hwithin : (vector 0).Within 1 := within_vector.2 Nat.one_pos
  constructor
  · have hname : (Method.ofName? ("add" ++ "_new")).isSome = true := by decide
    have hsum : ((vector 0).callMethod "add" [vector 0] none).outcome ⟨#[⟨2, 4⟩]⟩ =
        (.ok (.vector 0), ⟨#[⟨2 + 2, 4 + 4⟩]⟩) :=
      outcome_callMethod_change .add 0 [vector 0] none ⟨#[⟨2, 4⟩]⟩
    obtain ⟨⟨fault, hfault⟩ | ⟨changed, fresh, made, hcall, -, -, htwin, -, -, hkeep, hget, -⟩,
        -⟩ :=
      @outcome_twins "add" hname 0 [vector 0] ⟨#[⟨2, 4⟩]⟩ none Nat.one_pos
        (List.forall_mem_singleton.2 hwithin)
    · rw [hfault "add" List.mem_cons_self] at hsum
      cases hsum
    · rw [hsum] at hcall
      cases hcall
      exact ⟨hname, hwithin, _, fresh, made, hsum, htwin, hkeep 0 Nat.one_pos, hget,
        by decide +kernel⟩
  · have hname : (Method.ofName? ("divide" ++ "_new")).isSome = true := by decide
    -- it is enough to call the method that divides in place
    have hfails {arguments : List Value} {fault : Fault}
        (harguments : ∀ argument ∈ arguments, argument.Within 1)
        (h : ((vector 0).callMethod "divide" arguments none).outcome ⟨#[⟨0, 4⟩]⟩ =
          (.error fault, ⟨#[⟨0, 4⟩]⟩)) :
        ∀ method ∈ ["divide", "divide_new"],
          ((vector 0).callMethod method arguments none).outcome ⟨#[⟨0, 4⟩]⟩ =
            (.error (fault.calledAs method), ⟨#[⟨0, 4⟩]⟩) := by
      obtain ⟨⟨given, hgiven⟩ | ⟨changed, fresh, made, hcall, -⟩, -⟩ :=
        @outcome_twins "divide" hname 0 arguments ⟨#[⟨0, 4⟩]⟩ none Nat.one_pos harguments
      · have hsame := (hgiven "divide" List.mem_cons_self).symm.trans h
        obtain rfl : given.calledAs "divide" = fault := by
          cases hsame
          rfl
        intro method hmethod
        rw [hgiven method hmethod, Fault.calledAs_calledAs]
      · rw [h] at hcall
        cases hcall
    have hzero : ((vector 0).callMethod "divide" [vector 0] none).outcome ⟨#[⟨0, 4⟩]⟩ =
        (.error (.badArgument .zeroDivisor), ⟨#[⟨0, 4⟩]⟩) :=
      outcome_callMethod_change .divide 0 [vector 0] none ⟨#[⟨0, 4⟩]⟩
    have hmissing : ((vector 0).callMethod "divide" [] none).outcome ⟨#[⟨0, 4⟩]⟩ =
        (.error (.badArgument (.misfit "divide" (.wrongCount "divide" ["other"] 0))),
          ⟨#[⟨0, 4⟩]⟩) :=
      outcome_callMethod_change .divide 0 [] none ⟨#[⟨0, 4⟩]⟩
    exact ⟨hname, fun method hmethod =>
      ⟨hfails (List.forall_mem_singleton.2 hwithin) hzero method hmethod,
        hfails (List.forall_mem_nil _) hmissing method hmethod⟩⟩

end Value
end LiveVectors

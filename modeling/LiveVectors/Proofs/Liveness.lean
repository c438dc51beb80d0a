import LiveVectors.Proofs.LateReferences

/-!
# Liveness

Whether a vector is live cannot be read off the names as they are: a name can be given to another
value, and a vector can have several names or none.  It is decided by what has happened since the
run began, namely by the assignments that succeeded and bound the vector, under whatever names.

* `Event` — what can happen in a run.  `ofEvents` is the world that events lead to, and every
  session leads to such a world (`session_eq_ofEvents`).
* `Naming` — an assignment that has bound a vector.  `namings` lists those of a run.
* `Event.boundAsReference_after` — what one event does to the record of a vector: only a naming of
  the vector changes it.  `boundAsReference_ofEvents` — what the record tells after a run.
* `liveness_of_namings` — the result: which vectors are live, that a reference stays live, and how
  a vector stops being live.
-/

set_option autoImplicit false

namespace LiveVectors
namespace World

open LiveVectors.Action

/-! ## What happens in a run -/

/-- Something that happens in a run. -/
inductive Event
  /-- An instruction of the script is carried out; a fault is reported. -/
  | attempt (instruction : Instruction)
  /-- The host asks for something other than a new run. -/
  | ask (request : Request) (hrun : request.isRun = false)

variable {world : World} {events : List Event} {id : VectorId}

/-- The world after an event, whether what was tried succeeds or fails. -/
def Event.after : Event → World → World
  | attempt instruction, world => World.attempt world instruction
  | ask request _, world => request.after world

/-- The world after some events of a run, which begins with nothing. -/
def ofEvents (events : List Event) : World :=
  events.foldl (fun world event => event.after world) empty

theorem ofEvents_concat (events : List Event) (last : Event) :
    ofEvents (events ++ [last]) = last.after (ofEvents events) :=
  List.foldl_concat ..

theorem Event.wellFormed_after (hw : world.WellFormed) (event : Event) :
    (event.after world).WellFormed := by
  cases event with
  | attempt instruction => exact (keeps_attempt hw instruction).wellFormed
  | ask request hrun => exact (request.keeps hw hrun).wellFormed

theorem wellFormed_ofEvents (events : List Event) : (ofEvents events).WellFormed := by
  induction events using List.reverseRecOn with
  | nil => exact wellFormed_empty
  | append_singleton rest last ih =>
    rw [ofEvents_concat]
    exact last.wellFormed_after ih

/-- What has happened in a run after one more request.  In a new run nothing has happened but that
its instructions were carried out. -/
def Request.extend : Request → List Event → List Event
  | run instructions, _ => instructions.map .attempt
  | execute place instruction, events => events ++ [.ask (.execute place instruction) rfl]
  | evaluate expression, events => events ++ [.ask (.evaluate expression) rfl]
  | resolve place modifiers, events => events ++ [.ask (.resolve place modifiers) rfl]
  | move name x y snap, events => events ++ [.ask (.move name x y snap) rfl]

/-- What has happened since the last run of a session began. -/
def eventsOf (requests : List Request) : List Event :=
  requests.foldl (fun events request => request.extend events) []

theorem ofEvents_extend (events : List Event) (request : Request) :
    ofEvents (request.extend events) = request.after (ofEvents events) := by
  cases request with
  | run instructions => exact List.foldl_map
  | _ => exact ofEvents_concat events _

/-- **Every session leads to a world that the events of its last run lead to.** -/
theorem session_eq_ofEvents (requests : List Request) :
    session requests = ofEvents (eventsOf requests) := by
  induction requests using List.reverseRecOn with
  | nil => rfl
  | append_singleton rest last ih =>
    rw [session_append, eventsOf, List.foldl_concat, ← eventsOf, ofEvents_extend, ← ih]
    rfl

/-! ## Namings -/

/-- An assignment that has bound a vector to a name. -/
structure Naming where
  name : String
  vector : VectorId
  /-- Whether the flag `reference` is among the modifiers. -/
  reference : Bool
deriving DecidableEq, Repr

/-- The naming that an instruction makes: it is an assignment, it succeeds, and right after it its
name holds a vector. -/
def naming? (place : Place) (instruction : Instruction) (world : World) : Option Naming :=
  match instruction.statement, (execute place instruction).outcome world with
  | .assign name _ modifiers, (.ok _, after) =>
    (after.vectorOf name).map fun vector => ⟨name, vector, modifiers.any Modifier.isReference⟩
  | _, _ => none

/-- The naming of an assignment tells what its binding tells. -/
theorem naming?_of_assigned {place : Place} {instruction : Instruction} {after : World}
    {name : String} {binding : Binding} (hname : instruction.assigned? = some name)
    (h : (execute place instruction).outcome world = (.ok (), after))
    (hbinding : after.bindings.get? name = some binding) :
    naming? place instruction world =
      binding.value.vectorId?.map fun vector => ⟨name, vector, binding.look.reference⟩ := by
  rw [Instruction.assigned?] at hname
  split at hname
  · rename_i other expression modifiers hstatement
    cases hname
    obtain ⟨value, look, last, rfl, hlook⟩ := eq_bindName_of_execute h hstatement
    rw [get?_bindName, if_pos rfl] at hbinding
    cases hbinding
    simp [naming?, hstatement, h, vectorOf, get?_bindName, hlook]
  · cases hname

/-- What fails or is no assignment makes no naming. -/
theorem naming?_of_not_assigned {place : Place} {instruction : Instruction}
    (hnot : ((execute place instruction).outcome world).1 = .ok () →
      instruction.assigned? = none) : naming? place instruction world = none := by
  unfold naming?
  split
  · rename_i name expression modifiers _ after hstatement houtcome
    have hname := hnot (congrArg Prod.fst houtcome)
    rw [Instruction.assigned?, hstatement] at hname
    cases hname
  · rfl

/-- The naming that an event makes; of all that a host can ask for, only an instruction makes
one. -/
def Event.naming? : Event → World → Option Naming
  | attempt instruction, world => World.naming? instruction.place instruction world
  | ask (.execute place instruction) _, world => World.naming? place instruction world
  | ask _ _, _ => none

/-- The namings of a run that goes on from a world, in order. -/
def namingsFrom : World → List Event → List Naming
  | _, [] => []
  | world, event :: rest => (event.naming? world).toList ++ namingsFrom (event.after world) rest

/-- The namings of a run, in order. -/
def namings (events : List Event) : List Naming := namingsFrom empty events

theorem namingsFrom_append (world : World) (events later : List Event) :
    namingsFrom world (events ++ later) = namingsFrom world events ++
      namingsFrom (events.foldl (fun world event => event.after world) world) later := by
  induction events generalizing world with
  | nil => rfl
  | cons event rest ih =>
    rw [List.cons_append, namingsFrom, ih, namingsFrom, List.append_assoc, List.foldl_cons]

theorem namings_append (events later : List Event) :
    namings (events ++ later) = namings events ++ namingsFrom (ofEvents events) later :=
  namingsFrom_append empty events later

theorem namings_concat (events : List Event) (last : Event) :
    namings (events ++ [last]) =
      namings events ++ (last.naming? (ofEvents events)).toList := by
  rw [namings_append, namingsFrom, namingsFrom, List.append_nil]

/-- Some assignment of a run has bound the vector. -/
def Named (events : List Event) (id : VectorId) : Prop :=
  ∃ naming ∈ namings events, naming.vector = id

/-- Some assignment of a run has bound the vector and carried the flag `reference`. -/
def NamedAsReference (events : List Event) (id : VectorId) : Prop :=
  ∃ naming ∈ namings events, naming.vector = id ∧ naming.reference = true

theorem NamedAsReference.named (h : NamedAsReference events id) : Named events id := by
  obtain ⟨naming, hmem, hvector, -⟩ := h
  exact ⟨naming, hmem, hvector⟩

theorem NamedAsReference.append (h : NamedAsReference events id) (later : List Event) :
    NamedAsReference (events ++ later) id := by
  obtain ⟨naming, hmem, hnaming⟩ := h
  refine ⟨naming, ?_, hnaming⟩
  rw [namings_append]
  exact List.mem_append_left _ hmem

theorem named_concat (last : Event) :
    Named (events ++ [last]) id ↔ Named events id ∨
      ∃ naming, last.naming? (ofEvents events) = some naming ∧ naming.vector = id := by
  simp only [Named, namings_concat, List.mem_append, Option.mem_toList, or_and_right, exists_or]

theorem namedAsReference_concat (last : Event) :
    NamedAsReference (events ++ [last]) id ↔ NamedAsReference events id ∨
      ∃ naming, last.naming? (ofEvents events) = some naming ∧
        naming.vector = id ∧ naming.reference = true := by
  simp only [NamedAsReference, namings_concat, List.mem_append, Option.mem_toList, or_and_right,
    exists_or]

/-! ## The record of a vector -/

/-- What is known of a vector, namely whether some binding of it was a reference if it was ever
bound, after something has happened that may have made a naming. -/
def recordAfter (id : VectorId) (before : Option Bool) : Option Naming → Option Bool
  | some naming =>
    if naming.vector = id then some (before.getD false || naming.reference) else before
  | none => before

/-- A binding is known of its own vector only. -/
theorem boundAsReference_bind (bindings : Bindings) (name : String) (binding : Binding)
    (id : VectorId) :
    (bindings.bind name binding).boundAsReference (.vector id) =
      recordAfter id (bindings.boundAsReference (.vector id))
        (binding.value.vectorId?.map fun vector => ⟨name, vector, binding.look.reference⟩) := by
  by_cases h : Value.vector id = binding.value
  · rw [← h, Value.vectorId?, Option.map_some, recordAfter, if_pos rfl, h]
    exact Table.get?_put_self _ _ _
  · have hother : (bindings.bind name binding).boundAsReference (.vector id) =
        bindings.boundAsReference (.vector id) := Table.get?_put_ne _ _ h
    rw [hother]
    cases hvalue : binding.value with
    | vector other =>
      have hne : other ≠ id := fun heq => h (by rw [hvalue, heq])
      exact (if_neg hne).symm
    | _ => rfl

/-- **What an instruction does to the record of a vector**: the naming that it makes is added, and
nothing else can change the record. -/
theorem boundAsReference_execute (hw : world.WellFormed) (place : Place)
    (instruction : Instruction) (id : VectorId) :
    ((execute place instruction).outcome world).2.bindings.boundAsReference (.vector id) =
      recordAfter id (world.bindings.boundAsReference (.vector id))
        (naming? place instruction world) := by
  rcases bindings_execute_cases hw place instruction with
    ⟨name, binding, hname, hok, -, hbindings⟩ | ⟨hnot, hbindings⟩
  · have hbinding : ((execute place instruction).outcome world).2.bindings.get? name =
        some binding := by
      rw [hbindings]
      exact Table.get?_put_self _ _ _
    rw [hbindings, naming?_of_assigned hname (Prod.ext hok rfl) hbinding]
    exact boundAsReference_bind world.bindings name binding id
  · rw [hbindings, naming?_of_not_assigned hnot]
    rfl

/-- **What an event does to the record of a vector.** -/
theorem Event.boundAsReference_after (hw : world.WellFormed) (event : Event) (id : VectorId) :
    (event.after world).bindings.boundAsReference (.vector id) =
      recordAfter id (world.bindings.boundAsReference (.vector id)) (event.naming? world) := by
  cases event with
  | attempt instruction =>
    rw [after, bindings_attempt]
    exact boundAsReference_execute hw instruction.place instruction id
  | ask request hrun =>
    cases request with
    | run instructions => cases hrun
    | execute place instruction => exact boundAsReference_execute hw place instruction id
    | _ =>
      rw [after, Request.bindings_after hw hrun nofun]
      rfl

/-- **What the record of a vector tells after a run**: whether the vector was named, and whether
it was named as a reference. -/
theorem boundAsReference_ofEvents (events : List Event) (id : VectorId) :
    (((ofEvents events).bindings.boundAsReference (.vector id)).isSome = true ↔
        Named events id) ∧
      ((ofEvents events).bindings.boundAsReference (.vector id) = some true ↔
        NamedAsReference events id) := by
  induction events using List.reverseRecOn with
  | nil => exact ⟨⟨nofun, nofun⟩, ⟨nofun, nofun⟩⟩
  | append_singleton rest last ih =>
    obtain ⟨hnamed, hreference⟩ := ih
    rw [ofEvents_concat, last.boundAsReference_after (wellFormed_ofEvents rest), named_concat,
      namedAsReference_concat, ← hnamed, ← hreference]
    cases last.naming? (ofEvents rest) with
    | none => simp [recordAfter]
    | some naming =>
      by_cases hvector : naming.vector = id
      · -- what was known before counts only if the vector was a reference
        rcases (ofEvents rest).bindings.boundAsReference (.vector id) with _ | _ | _ <;>
          simp [recordAfter, hvector]
      · simp [recordAfter, hvector]

/-! ## Which vectors are live -/

/-- A vector is live exactly if it was never named or was named as a reference. -/
theorem isLive_ofEvents_iff (events : List Event) (id : VectorId) :
    (ofEvents events).isLive (.vector id) = true ↔
      ¬ Named events id ∨ NamedAsReference events id := by
  obtain ⟨hnamed, hreference⟩ := boundAsReference_ofEvents events id
  rw [isLive, ← hnamed, ← hreference]
  rcases (ofEvents events).bindings.boundAsReference (.vector id) with _ | _ | _ <;> simp

/-- **How a vector stops being live**: it is named for the first time, and not as a reference. -/
theorem isLive_lost_iff (events : List Event) (event : Event) (id : VectorId) :
    (ofEvents events).isLive (.vector id) = true ∧
        (ofEvents (events ++ [event])).isLive (.vector id) = false ↔
      ¬ Named events id ∧
        ∃ name, event.naming? (ofEvents events) = some ⟨name, id, false⟩ := by
  rw [← Bool.not_eq_true, isLive_ofEvents_iff, isLive_ofEvents_iff, named_concat,
    namedAsReference_concat, not_or, not_not, not_or]
  constructor
  · rintro ⟨hlive, hnow, hbefore, hplain⟩
    have hfirst : ¬ Named events id := hlive.resolve_right hbefore
    obtain ⟨⟨name, vector, reference⟩, hnaming, rfl⟩ := hnow.resolve_left hfirst
    cases reference with
    | false => exact ⟨hfirst, name, hnaming⟩
    | true => exact absurd ⟨_, hnaming, rfl, rfl⟩ hplain
  · rintro ⟨hfirst, name, hnaming⟩
    refine ⟨.inl hfirst, .inr ⟨_, hnaming, rfl⟩, ?_, ?_⟩
    · exact fun hreference => hfirst hreference.named
    · rintro ⟨naming, hother, -, hreference⟩
      obtain rfl := Option.some.inj (hnaming.symm.trans hother)
      cases hreference

/-- **Liveness is decided by what has bound a vector.**  Every session leads to a world that the
events since its last run began lead to.  In such a world a vector is live exactly if no assignment
of the run has bound it, or one that has bound it carried the flag `reference`, whatever the names
hold now.  So what was bound as a reference stays live for the rest of the run; and an event makes
a vector stop being live exactly if it is the first to bind it, by an assignment without the
flag. -/
theorem liveness_of_namings :
    (∀ requests : List Request, session requests = ofEvents (eventsOf requests)) ∧
    ∀ (events : List Event) (id : VectorId),
      ((ofEvents events).isLive (.vector id) = true ↔
        ¬ Named events id ∨ NamedAsReference events id) ∧
      (NamedAsReference events id → ∀ later : List Event,
        (ofEvents (events ++ later)).isLive (.vector id) = true) ∧
      ∀ event : Event,
        (ofEvents events).isLive (.vector id) = true ∧
            (ofEvents (events ++ [event])).isLive (.vector id) = false ↔
          ¬ Named events id ∧
            ∃ name, event.naming? (ofEvents events) = some ⟨name, id, false⟩ := by
  refine ⟨session_eq_ofEvents, fun events id =>
    ⟨isLive_ofEvents_iff events id, fun hreference later => ?_, fun event =>
      isLive_lost_iff events event id⟩⟩
  exact (isLive_ofEvents_iff _ id).2 (.inr (hreference.append later))

/-- `b = 7` -/
def numberLine : Instruction where
  statement := .assign "b" (.number 7) []
  place := ⟨3, "b = 7"⟩

/-- A vector stops being live when it gets its name.  Its double, bound as a reference, stays live
when its only name is given to a number, and when the vector is dragged after that. -/
theorem liveness_of_nameless_double :
    (run [vectorLine]).isLive (.vector 0) = false ∧
      (run [vectorLine, doubleLine, numberLine]).bindings.namesOf 1 = [] ∧
      (session [.run [vectorLine, doubleLine, numberLine], .move "a" 5 6 true]).isLive
        (.vector 1) = true := by
  obtain ⟨hsession, hlive⟩ := liveness_of_namings
  obtain ⟨-, -, hstops⟩ := hlive [] 0
  obtain ⟨-, hstays, -⟩ := hlive (eventsOf [.run [vectorLine, doubleLine, numberLine]]) 1
  have hfirst : ¬ Named [] 0 := nofun
  have hdouble : NamedAsReference (eventsOf [.run [vectorLine, doubleLine, numberLine]]) 1 :=
    ⟨⟨"b", 1, true⟩, by decide, rfl, rfl⟩
  refine ⟨((hstops (.attempt vectorLine)).2 ⟨hfirst, "a", rfl⟩).2, by decide, ?_⟩
  rw [hsession]
  exact hstays hdouble [.ask (.move "a" 5 6 true) rfl]

end World
end LiveVectors

import LiveVectors.Proofs.Accounting
import LiveVectors.Proofs.Breakdowns
import LiveVectors.Proofs.Purity
import LiveVectors.Proofs.Reactivity

/-!
# Late references

A vector that is bound without the flag `reference` no longer follows its operands.  When it is
bound again, now with the flag, it is live again, but binding a name recomputes nothing: the vector
keeps the components that it has until one of its operands changes.  This file says what the
components of a vector are right after it is bound as a reference.

* `Spares` — what a step can do to a vector that it is not about: nothing, or it recomputes it, and
  that only if it is live.  Evaluation spares all vectors but the receivers of its calls
  (`Trace.spares`), and so do successful steps (`Step.spares`).
* `Smooth` — the runs in which every step succeeds and none is about the vector.
* `Standing` — the invariant, which depends on how the vector was bound so far.  Sparing steps keep
  it (`Standing.spares`), and so do bindings (`Standing.bound`).
* `components_of_reference` — the result, and `stale_reference` — a reference that is not what its
  operands give.
-/

set_option autoImplicit false

namespace LiveVectors

/-- Whether a modifier is the flag `reference`. -/
def Modifier.isReference : Modifier → Bool
  | .flag token => token == "reference"
  | .option _ _ => false

namespace World

open LiveVectors.Action

variable {id : VectorId} {world middle after : World}

/-! ## Steps that spare a vector -/

/-- If the vector is derived, it has the components that its operands give it. -/
def Follows (world : World) (id : VectorId) : Prop :=
  ∀ derivation, world.graph.derivation? id = some derivation → derivation.Holds world.store

/-- What can happen to a vector on the way from one world to another. -/
structure Spares (id : VectorId) (world after : World) : Prop where
  /-- A vector that is there is derived as it was. -/
  derivation?_eq : id < world.store.size →
    after.graph.derivation? id = world.graph.derivation? id
  /-- A live vector that follows its operands goes on to do so, and a new one begins to. -/
  follows : world.isLive (.vector id) = true → world.Follows id → after.Follows id
  /-- A vector keeps its components, or it is live and follows its operands at the end. -/
  kept : id < world.store.size → after.store.get id = world.store.get id ∨
    world.isLive (.vector id) = true ∧ after.Follows id

theorem Spares.refl (id : VectorId) (world : World) : Spares id world world :=
  ⟨fun _ => rfl, fun _ h => h, fun _ => .inl rfl⟩

theorem Spares.trans (h : Spares id world middle) (h' : Spares id middle after)
    (hlater : world.Later middle) : Spares id world after := by
  have hlive : middle.isLive (.vector id) = world.isLive (.vector id) := by
    rw [isLive, isLive, hlater.bindings_eq]
  refine ⟨fun hid => ?_, fun hl hf => ?_, fun hid => ?_⟩
  · exact (h'.derivation?_eq (Nat.lt_of_lt_of_le hid hlater.size_le)).trans (h.derivation?_eq hid)
  · exact h'.follows (hlive.trans hl) (h.follows hl hf)
  · rcases h'.kept (Nat.lt_of_lt_of_le hid hlater.size_le) with hsame | ⟨hl, hf⟩
    · rcases h.kept hid with hfirst | ⟨hl, hf⟩
      · exact .inl (hsame.trans hfirst)
      · exact .inr ⟨hl, h'.follows (hlive.trans hl) hf⟩
    · exact .inr ⟨hlive.symm.trans hl, hf⟩

/-- All vectors of a world but one. -/
def others (world : World) (id : VectorId) : List VectorId :=
  (List.range world.store.size).filter (· ≠ id)

theorem not_mem_others (world : World) (id : VectorId) : id ∉ world.others id := by
  simp [others]

/-- The invariant of runs, for one vector: all others count as touched. -/
theorem current_others (hw : world.WellFormed)
    (h : world.isLive (.vector id) = true → world.Follows id) :
    Current (world.others id) world := by
  intro other derivation hd hlive hother
  have hsize : other < world.store.size := hw.graph.lt_size_of_derivation hd
  obtain rfl : other = id := by simpa [others, hsize] using hother
  exact h hlive derivation hd

/-- Quiet steps spare every vector. -/
theorem Quiet.spares (h : Quiet world after) (hw : world.WellFormed) (id : VectorId) :
    Spares id world after := by
  have hbindings := (h.later hw).bindings_eq
  refine ⟨fun hid => ?_, fun hlive hfollows derivation hd => ?_, fun hid => ?_⟩
  · cases h with
    | derive => exact DependencyGraph.derivation?_register_ne world.graph (Nat.ne_of_lt hid)
    | _ => rfl
  · have hlive' : after.isLive (.vector id) = true := by rwa [isLive, hbindings]
    have hcurrent := (current_others hw fun _ => hfollows).quiet hw h
    exact hcurrent id derivation hd hlive' (world.not_mem_others id)
  · exact .inl (h.intact.get_eq hid)

/-- **Propagation spares every vector** but the one that has changed. -/
theorem spares_propagated {changed : VectorId} {store : Store} (hw : world.WellFormed)
    (hchange : Store.ChangesOnly changed world.store store) (hne : id ≠ changed) :
    Spares id world ((propagate changed).outcome { world with store }).2 := by
  obtain ⟨settled, hpropagate, hsettled⟩ :=
    outcome_propagate (hw.withStore hchange.size_le) changed
  rw [hpropagate]
  refine ⟨fun _ => rfl, fun hlive hfollows derivation hd => ?_, fun hid => ?_⟩
  · exact hsettled.holds_of_changesOnly hw hchange hne hd hlive (hfollows derivation hd)
  · by_cases hmem : id ∈ world.liveDependents changed
    · exact .inr ⟨isLive_of_mem_liveDependents hw hmem, fun _ hd => hsettled.holds hmem hd⟩
    · exact .inl ((hsettled.get_eq hmem).trans (hchange.get_eq hid hne))

theorem Called.spares {call : Call} (h : Called world call after) (hw : world.WellFormed)
    (hreturned : call.fault = none) (hne : id ≠ call.receiver) : Spares id world after := by
  cases h with
  | @returned receiver method given value store hid hcall =>
    have hchange : Store.ChangesOnly receiver world.store store := by
      simpa only [hcall] using Store.changesOnly_call method receiver given world.store
    exact spares_propagated hw hchange hne
  | failed => cases hreturned

/-- **Evaluation spares every vector** but the receivers of its calls, if all of them return. -/
theorem Trace.spares {made : List Call} (h : Trace world made after) (hw : world.WellFormed)
    (hreturned : ∀ call ∈ made, call.fault = none) (hid : id ∉ made.map Call.receiver) :
    Spares id world after := by
  induction h with
  | nil => exact .refl id world
  | quiet htrace hstep ih =>
    obtain ⟨hmiddle, hlater⟩ := htrace.wellFormed_and_later hw
    exact (ih hreturned hid).trans (hstep.spares hmiddle id) hlater
  | @call middle after made call htrace hstep ih =>
    obtain ⟨hmiddle, hlater⟩ := htrace.wellFormed_and_later hw
    rw [List.map_append, List.mem_append, List.map_singleton, List.mem_singleton, not_or] at hid
    have hbefore := ih (fun other hother => hreturned other (by simp [hother])) hid.1
    exact hbefore.trans (hstep.spares hmiddle (hreturned call (by simp)) hid.2) hlater

/-! ## Steps that succeed -/

theorem spares_execute {place : Place} {instruction : Instruction} (hw : world.WellFormed)
    (h : (execute place instruction).outcome world = (.ok (), after))
    (hid : id ∉ (callsOfStatement place instruction.statement world).map Call.receiver ++
      written place instruction world) : Spares id world after := by
  have hreturned := returned_of_execute hw h
  have hexecuted := executed_execute hw place instruction
  rw [h] at hexecuted
  rw [List.mem_append, not_or] at hid
  cases hexecuted with
  | evaluated htrace => exact htrace.spares hw hreturned hid.1
  | bound htrace =>
    have hmiddle := htrace.spares hw hreturned hid.1
    exact ⟨hmiddle.derivation?_eq, hmiddle.follows, hmiddle.kept⟩
  | @written middle changed htrace hwritten v =>
    obtain ⟨hmiddle, hlater⟩ := htrace.wellFormed_and_later hw
    rw [hwritten, List.mem_singleton] at hid
    exact (htrace.spares hw hreturned hid.1).trans
      (spares_propagated hmiddle (Store.changesOnly_set middle.store changed v) hid.2) hlater

theorem attempt_eq {instruction : Instruction}
    (h : (execute instruction.place instruction).outcome world = (.ok (), after)) :
    attempt world instruction = after := by
  rw [attempt, h]

namespace Step

/-- Whether a step succeeds. -/
def Succeeds : Step → World → Prop
  | attempt instruction, world =>
    ((World.execute instruction.place instruction).outcome world).1 = .ok ()
  | move name x y snap, world => ∃ names, ((World.move name x y snap).outcome world).1 = .ok names

theorem wellFormed_after (hw : world.WellFormed) (step : Step) : (step.after world).WellFormed := by
  cases step with
  | attempt instruction => exact (keeps_attempt hw instruction).wellFormed
  | move name x y snap => exact (keeps_move hw name x y snap).wellFormed

/-- **A step that succeeds spares every vector** that it is not about. -/
theorem spares {step : Step} (hw : world.WellFormed) (hok : step.Succeeds world)
    (hid : id ∉ step.touched world) : Spares id world (step.after world) := by
  cases step with
  | attempt instruction =>
    have h : (World.execute instruction.place instruction).outcome world = (.ok (), _) :=
      Prod.ext hok rfl
    rw [after, attempt_eq h]
    exact spares_execute hw h hid
  | move name x y snap =>
    obtain ⟨names, hnames⟩ := hok
    rw [after]
    rcases outcome_move_cases hw name x y snap with
      ⟨-, fault, h⟩ | ⟨moved, hmoved, ⟨fault, -, h⟩ | ⟨v, -, h⟩⟩ <;> rw [h] at hnames ⊢
    · cases hnames
    · cases hnames
    · rw [touched, hmoved, Option.toList_some, List.mem_singleton] at hid
      exact spares_propagated hw (Store.changesOnly_set world.store moved v) hid

/-- A step binds one name or none. -/
theorem bindings_after_cases (hw : world.WellFormed) (step : Step) :
    (step.after world).bindings = world.bindings ∨
      ∃ name binding, (step.after world).bindings = (world.bindName name binding).bindings := by
  cases step with
  | attempt instruction =>
    rcases bindings_attempt_cases hw instruction with
      ⟨name, binding, -, -, -, hbound⟩ | ⟨-, hsame⟩
    · exact .inr ⟨name, binding, hbound⟩
    · exact .inl hsame
  | move name x y snap =>
    obtain ⟨store, h, -⟩ := exists_move_eq hw name x y snap
    rw [after, h]
    exact .inl rfl

/-- **What was bound stays known**, and what was a reference once counts as one for good. -/
theorem boundAsReference_after (hw : world.WellFormed) (step : Step) {value : Value}
    {reference : Bool} (h : world.bindings.boundAsReference value = some reference) :
    ∃ more, (step.after world).bindings.boundAsReference value = some (reference || more) := by
  rcases step.bindings_after_cases hw with hsame | ⟨name, binding, hbound⟩
  · exact ⟨false, by rw [hsame, h, Bool.or_false]⟩
  · rw [hbound]
    by_cases hvalue : value = binding.value
    · subst hvalue
      exact ⟨_, by rw [boundAsReference_bindName_self, h, Option.getD_some]⟩
    · exact ⟨false, by rw [boundAsReference_bindName_ne world name hvalue, h, Bool.or_false]⟩

end Step

/-! ## Runs -/

/-- The worlds that a run leads to if every step succeeds and none is about the vector: it is not
written, not moved and receives no call. -/
inductive Smooth (id : VectorId) : List Step → World → Prop
  | start : Smooth id [] empty
  | step {steps : List Step} {world : World} (h : Smooth id steps world) (step : Step)
      (hok : step.Succeeds world) (hid : id ∉ step.touched world) :
      Smooth id (steps ++ [step]) (step.after world)

theorem Smooth.wellFormed {steps : List Step} (h : Smooth id steps world) : world.WellFormed := by
  induction h with
  | start => exact wellFormed_empty
  | step _ step _ _ ih => exact step.wellFormed_after ih

/-- The operands give these components, as they are in a world. -/
def Gives (world : World) (derivation : Derivation) (v : PlaneVector) : Prop :=
  operate derivation.operator (world.store.snapshot derivation.left)
    (world.store.snapshot derivation.right) = .ok (.planar v)

theorem holds_iff_gives (hw : world.WellFormed) {derivation : Derivation}
    (hd : world.graph.derivation? id = some derivation) :
    derivation.Holds world.store ↔ world.Gives derivation (world.store.get id) := by
  rw [Derivation.Holds, Gives, hw.graph.target_eq hd]

/-- The vector was bound without `reference` first, and these are the components that its operands
gave it right after that. -/
def FirstBoundWith (id : VectorId) (steps : List Step) (derivation : Derivation)
    (v : PlaneVector) : Prop :=
  ∃ early bind late world, steps = early ++ bind :: late ∧ Smooth id early world ∧
    world.bindings.boundAsReference (.vector id) = none ∧
    (bind.after world).bindings.boundAsReference (.vector id) = some false ∧
    (bind.after world).Gives derivation v

theorem FirstBoundWith.append {steps : List Step} {derivation : Derivation} {v : PlaneVector}
    (h : FirstBoundWith id steps derivation v) (more : List Step) :
    FirstBoundWith id (steps ++ more) derivation v := by
  obtain ⟨early, bind, late, world, rfl, hbind⟩ := h
  exact ⟨early, bind, late ++ more, world, by simp, hbind⟩

/-! ## The invariant -/

/-- How a derived vector stands after a run, by how it was bound: a vector without a name follows
its operands; one that was never a reference is as it was when it was bound; and a reference
follows its operands unless it was bound without the flag first and was not recomputed since. -/
def Standing (id : VectorId) (steps : List Step) (world : World) : Option Bool → Prop
  | none => world.Follows id
  | some false => ∀ derivation, world.graph.derivation? id = some derivation →
      FirstBoundWith id steps derivation (world.store.get id)
  | some true => ∀ derivation, world.graph.derivation? id = some derivation →
      world.Gives derivation (world.store.get id) ∨
        FirstBoundWith id steps derivation (world.store.get id)

/-- **A step that spares the vector keeps its standing.** -/
theorem Standing.spares {steps : List Step} (hw : world.WellFormed) (hafter : after.WellFormed)
    (h : Standing id steps world (world.bindings.boundAsReference (.vector id)))
    (hspares : Spares id world after) :
    Standing id steps after (world.bindings.boundAsReference (.vector id)) := by
  cases hbound : world.bindings.boundAsReference (.vector id) with
  | none =>
    rw [hbound] at h
    exact hspares.follows (by rw [isLive, hbound]; rfl) h
  | some reference =>
    rw [hbound] at h
    have hid := hw.known hbound
    have hderivation := hspares.derivation?_eq hid
    cases reference with
    | false =>
      intro derivation hd
      rw [hderivation] at hd
      -- what is not live is not recomputed
      have hsame : after.store.get id = world.store.get id :=
        (hspares.kept hid).resolve_right fun hlive => by simp [isLive, hbound] at hlive
      rw [hsame]
      exact h derivation hd
    | true =>
      intro derivation hd
      have hlive : world.isLive (.vector id) = true := by rw [isLive, hbound]; rfl
      have hd' := hderivation.symm.trans hd
      rcases h derivation hd' with hgives | hfirst
      · have hfollows : world.Follows id := by
          intro other hother
          obtain rfl := Option.some.inj (hd'.symm.trans hother)
          exact (holds_iff_gives hw hd').2 hgives
        exact .inl ((holds_iff_gives hafter hd).1 (hspares.follows hlive hfollows derivation hd))
      · rcases hspares.kept hid with hsame | ⟨-, hfollows⟩
        · rw [hsame]
          exact .inr hfirst
        · exact .inl ((holds_iff_gives hafter hd).1 (hfollows derivation hd))

/-- **A binding changes the standing** from that of how the vector was bound before to that of how
it is bound now. -/
theorem Standing.bound {steps : List Step} {step : Step} (hsmooth : Smooth id steps world)
    (h : Standing id steps (step.after world)
      (world.bindings.boundAsReference (.vector id))) :
    Standing id (steps ++ [step]) (step.after world)
      ((step.after world).bindings.boundAsReference (.vector id)) := by
  have hw := hsmooth.wellFormed
  have hafter := step.wellFormed_after hw
  cases hbefore : world.bindings.boundAsReference (.vector id) with
  | none =>
    rw [hbefore] at h
    have hgives : ∀ derivation, (step.after world).graph.derivation? id = some derivation →
        (step.after world).Gives derivation ((step.after world).store.get id) :=
      fun derivation hd => (holds_iff_gives hafter hd).1 (h derivation hd)
    rcases hnow : (step.after world).bindings.boundAsReference (.vector id) with _ | _ | _
    · exact h
    · exact fun derivation hd =>
        ⟨steps, step, [], world, rfl, hsmooth, hbefore, hnow, hgives derivation hd⟩
    · exact fun derivation hd => .inl (hgives derivation hd)
  | some reference =>
    rw [hbefore] at h
    obtain ⟨more, hnow⟩ := step.boundAsReference_after hw hbefore
    rw [hnow]
    rcases reference with _ | _
    · cases more with
      | false => exact fun derivation hd => (h derivation hd).append [step]
      | true => exact fun derivation hd => .inr ((h derivation hd).append [step])
    · exact fun derivation hd => (h derivation hd).imp_right fun hfirst => hfirst.append [step]

/-- **Every run keeps the standing of a vector** that none of its steps is about. -/
theorem Smooth.standing {steps : List Step} (h : Smooth id steps world) :
    Standing id steps world (world.bindings.boundAsReference (.vector id)) := by
  induction h with
  | start => exact nofun
  | @step steps world hsmooth step hok hid ih =>
    have hw := hsmooth.wellFormed
    exact .bound hsmooth (ih.spares hw (step.wellFormed_after hw) (step.spares hw hok hid))

/-! ## Assignments with the flag -/

/-- **What a modifier does to the flag**: it sets it if it is the flag, and no modifier takes it
away. -/
theorem reference_applyModifier {place : Place} {look look' : Look} {modifier : Modifier}
    (h : (applyModifier place look modifier).outcome world = (.ok look', after)) :
    look'.reference = (look.reference || modifier.isReference) := by
  cases modifier with
  | option name arguments =>
    rw [applyModifier] at h
    split at h
    · obtain ⟨origin, middle, -, hlast⟩ := outcome_bind_ok h
      cases hlast
      exact (Bool.or_false _).symm
    · cases h
  | flag token =>
    by_cases hflag : token = "reference"
    · subst hflag
      rw [applyModifier, if_neg (by decide), if_neg (by decide), if_pos rfl] at h
      cases h
      simp [Modifier.isReference]
    · have hlook : look'.reference = look.reference := by
        rw [applyModifier, if_neg hflag] at h
        split at h
        · cases h
          rfl
        split at h
        · cases h
          rfl
        · obtain ⟨_, middle, -, hlast⟩ := outcome_bind_ok h
          cases hlast
          rfl
      simp [hlook, Modifier.isReference, hflag]

/-- **The look is a reference exactly if the flag is among the modifiers**, or if it was one
before. -/
theorem reference_applyModifiers {modifiers : List Modifier} {place : Place} {look look' : Look}
    (h : (applyModifiers place look modifiers).outcome world = (.ok look', after)) :
    look'.reference = (look.reference || modifiers.any Modifier.isReference) := by
  induction modifiers generalizing look world with
  | nil =>
    cases h
    exact (Bool.or_false _).symm
  | cons modifier rest ih =>
    obtain ⟨next, middle, hfirst, hrest⟩ := outcome_bind_ok h
    rw [ih hrest, reference_applyModifier hfirst, List.any_cons, Bool.or_assoc]

/-- An assignment that succeeds ends by binding its name, as a reference exactly if the flag is
among its modifiers. -/
theorem eq_bindName_of_execute {place : Place} {instruction : Instruction} {name : String}
    {expression : Expression} {modifiers : List Modifier}
    (h : (execute place instruction).outcome world = (.ok (), after))
    (hstatement : instruction.statement = .assign name expression modifiers) :
    ∃ (value : Value) (look : Look) (last : World),
      after = last.bindName name ⟨value, look, instruction⟩ ∧
        look.reference = modifiers.any Modifier.isReference := by
  simp only [execute, hstatement] at h
  obtain ⟨value, middle, -, hrest⟩ := outcome_bind_ok h
  obtain ⟨look, last, hlook, hbound⟩ := outcome_bind_ok hrest
  have hreference := reference_applyModifiers hlook
  rw [Look.plain, Bool.false_or] at hreference
  exact ⟨value, look, last, (congrArg Prod.snd hbound).symm, hreference⟩

/-- What an assignment with the flag binds is a reference. -/
theorem boundAsReference_of_execute {place : Place} {instruction : Instruction} {name : String}
    {expression : Expression} {modifiers : List Modifier}
    (h : (execute place instruction).outcome world = (.ok (), after))
    (hstatement : instruction.statement = .assign name expression modifiers)
    (hflag : .flag "reference" ∈ modifiers) (hid : after.vectorOf name = some id) :
    after.bindings.boundAsReference (.vector id) = some true := by
  obtain ⟨value, look, last, rfl, hlook⟩ := eq_bindName_of_execute h hstatement
  have hreference : look.reference = true :=
    hlook.trans (List.any_eq_true.2 ⟨_, hflag, beq_self_eq_true _⟩)
  have hvalue : value = .vector id := by
    rw [vectorOf, get?_bindName, if_pos rfl, Option.bind_some] at hid
    cases value <;> cases hid
    rfl
  have hself := boundAsReference_bindName_self last name ⟨value, look, instruction⟩
  rw [← hvalue, hself, hreference, Bool.or_true]

/-- **What a vector is when it is bound as a reference**, after every run that succeeds at each
step and is not about the vector.  It is live from then on.  It has the components that its
operands give now, unless it was bound without the flag first; then it can have those that its
operands gave right after that binding, and it does have them if it was no reference so far.  A
vector that had no name before always has those that its operands give now. -/
theorem components_of_reference {id : VectorId} {steps : List Step} {world after : World}
    {instruction : Instruction} {name : String} {expression : Expression}
    {modifiers : List Modifier} {derivation : Derivation} (hrun : Smooth id steps world)
    (hstatement : instruction.statement = .assign name expression modifiers)
    (hflag : .flag "reference" ∈ modifiers)
    (h : (execute instruction.place instruction).outcome world = (.ok (), after))
    (hspared : id ∉ (Step.attempt instruction).touched world)
    (hid : after.vectorOf name = some id)
    (hd : after.graph.derivation? id = some derivation) :
    after.isLive (.vector id) = true ∧
    (after.Gives derivation (after.store.get id) ∨
      FirstBoundWith id steps derivation (after.store.get id)) ∧
    (world.bindings.boundAsReference (.vector id) = some false →
      FirstBoundWith id steps derivation (after.store.get id)) ∧
    (world.bindings.boundAsReference (.vector id) = none →
      after.Gives derivation (after.store.get id)) := by
  have hw := hrun.wellFormed
  have hafter : after.WellFormed :=
    attempt_eq h ▸ (Step.attempt instruction).wellFormed_after hw
  have hstanding := hrun.standing.spares hw hafter (spares_execute hw h hspared)
  have hreference := boundAsReference_of_execute h hstatement hflag hid
  refine ⟨by rw [isLive, hreference]; rfl, ?_, fun hbound => ?_, fun hbound => ?_⟩
  · rcases hbound : world.bindings.boundAsReference (.vector id) with _ | _ | _ <;>
      rw [hbound] at hstanding
    · exact .inl ((holds_iff_gives hafter hd).1 (hstanding derivation hd))
    · exact .inr (hstanding derivation hd)
    · exact hstanding derivation hd
  · rw [hbound] at hstanding
    exact hstanding derivation hd
  · rw [hbound] at hstanding
    exact (holds_iff_gives hafter hd).1 (hstanding derivation hd)

/-! ## A late reference -/

/-- `b = a * 2` -/
def plainDoubleLine : Instruction where
  statement := .assign "b" (.operation .times (.named "a") (.number 2)) []
  place := ⟨2, "b = a * 2"⟩

/-- `a.x = 5` -/
def shiftLine : Instruction where
  statement := .setProperty "a" "x" (.number 5)
  place := ⟨3, "a.x = 5"⟩

/-- `c = b, reference` -/
def lateLine : Instruction where
  statement := .assign "c" (.named "b") [.flag "reference"]
  place := ⟨4, "c = b, reference"⟩

/-- A vector, and its double without the flag. -/
def plainDoubling : World := run [vectorLine, plainDoubleLine]

/-- The vector has changed, and its double has not. -/
def shifted : World := { plainDoubling with store := plainDoubling.store.set 0 ⟨5, 2⟩ }

theorem liveDependents_plainDoubling (b : VectorId) : b ∉ plainDoubling.liveDependents 0 := by
  have hw : plainDoubling.WellFormed := wellFormed_run _
  intro hmem
  have hpositive : 0 < b := lt_of_mem_liveDependents hw hmem
  obtain ⟨derivation, hd⟩ := hw.graph.derivation?_of_mem_reachable hmem
  have hsize : b < 2 := hw.graph.lt_size_of_derivation hd
  obtain rfl : b = 1 := Nat.le_antisymm (Nat.le_of_lt_succ hsize) hpositive
  have hlive : plainDoubling.isLive (.vector 1) = true := isLive_of_mem_liveDependents hw hmem
  exact absurd hlive (by decide)

theorem outcome_shiftLine :
    (execute shiftLine.place shiftLine).outcome plainDoubling = (.ok (), shifted) := by
  have hw : plainDoubling.WellFormed := wellFormed_run _
  have hoverwrite : plainDoubling.overwrite 0 ⟨5, 2⟩ = shifted := by
    obtain ⟨store, heq, hsettled⟩ := overwrite_eq hw 0 ⟨5, 2⟩
    rw [heq, shifted, Store.ext_get hsettled.size_eq fun b =>
      hsettled.get_eq (liveDependents_plainDoubling b)]
  have hlookup : (lookup "a").outcome plainDoubling = (.ok (.vector 0), plainDoubling) := rfl
  have hwrite : (Value.writeProperty (.vector 0) "x" (.number 5) (some "a")).outcome
      plainDoubling.store = (.ok (), plainDoubling.store.set 0 ⟨5, 2⟩) := rfl
  simp only [execute, shiftLine]
  rw [outcome_bind, hlookup]
  dsimp only
  rw [evaluate, outcome_bind, outcome_pure, ← hoverwrite]
  exact outcome_overwrite hw hwrite

theorem smooth_shifted :
    Smooth 1 [.attempt vectorLine, .attempt plainDoubleLine, .attempt shiftLine] shifted := by
  have hfirst : Smooth 1 [.attempt vectorLine] (run [vectorLine]) :=
    Smooth.start.step (.attempt vectorLine) rfl (by decide)
  have hsecond : Smooth 1 [.attempt vectorLine, .attempt plainDoubleLine] plainDoubling :=
    hfirst.step (.attempt plainDoubleLine) rfl (by decide)
  have htouched : (Step.attempt shiftLine).touched plainDoubling = [0] := by
    rw [Step.touched, written, outcome_shiftLine]
    rfl
  have hshifted : (Step.attempt shiftLine).after plainDoubling = shifted :=
    attempt_eq outcome_shiftLine
  rw [← hshifted]
  exact hsecond.step (.attempt shiftLine) (congrArg Prod.fst outcome_shiftLine)
    (by rw [htouched]; decide)

/-- When the double is bound again with the flag, it is live and still the double of what the
vector was before. -/
theorem components_of_lateLine :
    (attempt shifted lateLine).isLive (.vector 1) = true ∧
      FirstBoundWith 1 [.attempt vectorLine, .attempt plainDoubleLine, .attempt shiftLine]
        ⟨"*", .vector 0, .number 2, 1⟩ ((attempt shifted lateLine).store.get 1) := by
  have hok : ((execute lateLine.place lateLine).outcome shifted).1 = .ok () := rfl
  have hafter : (execute lateLine.place lateLine).outcome shifted =
      (.ok (), attempt shifted lateLine) := Prod.ext hok rfl
  obtain ⟨hlive, -, hlate, -⟩ := components_of_reference smooth_shifted
    (rfl : lateLine.statement = .assign "c" (.named "b") [.flag "reference"])
    (List.mem_singleton.2 rfl) hafter (by decide) rfl rfl
  exact ⟨hlive, hlate rfl⟩

/-- **Not every vector is what its operands give when it is bound as a reference.** -/
theorem stale_reference :
    ¬ ∀ (id : VectorId) (steps : List Step) (world after : World) (instruction : Instruction)
        (name : String) (expression : Expression) (modifiers : List Modifier)
        (derivation : Derivation), Smooth id steps world →
      instruction.statement = .assign name expression modifiers →
      .flag "reference" ∈ modifiers →
      (execute instruction.place instruction).outcome world = (.ok (), after) →
      id ∉ (Step.attempt instruction).touched world →
      after.vectorOf name = some id →
      after.graph.derivation? id = some derivation →
      after.Gives derivation (after.store.get id) := by
  intro h
  have hok : ((execute lateLine.place lateLine).outcome shifted).1 = .ok () := rfl
  have hafter : (execute lateLine.place lateLine).outcome shifted =
      (.ok (), attempt shifted lateLine) := Prod.ext hok rfl
  have hgives := h 1 _ shifted _ lateLine "c" _ _ ⟨"*", .vector 0, .number 2, 1⟩ smooth_shifted
    rfl (List.mem_singleton.2 rfl) hafter (by decide) rfl rfl
  rw [Gives] at hgives
  exact absurd hgives (by decide)

end World
end LiveVectors

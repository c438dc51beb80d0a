import LiveVectors.Live.Playback
import LiveVectors.Proofs.Documents
import LiveVectors.Proofs.Reports
import LiveVectors.Proofs.Session
import Mathlib.Data.List.Induction

/-!
# Accounting for a run

A run goes on after a failing instruction, and at its end the world tells what happened: there is
one error for each instruction that failed, and each name is bound as the last assignment to it
that succeeded has left it.

* `endings` — the instructions of a run with how each of them ended.  `failures` and `successes`
  are its two halves, and `assignments` are those that bind a name.
* `diagnostics_attempt` and `bindings_execute_cases` — what one instruction adds to the reports and
  does to the names.
* `errors_run`, `source_run` and `names_run` — what a whole run comes to, by induction on its last
  instruction.
* `accounts_of_playback` — the result, for runs and for scripts that are read and then run.
-/

set_option autoImplicit false

namespace LiveVectors

open LiveVectors.Action

/-- The name that an instruction assigns to. -/
def Instruction.assigned? (instruction : Instruction) : Option String :=
  match instruction.statement with
  | .assign name _ _ => some name
  | _ => none

namespace World

/-! ## How instructions end -/

/-- Why an instruction fails, if it does. -/
def fault? (world : World) (instruction : Instruction) : Option Fault :=
  faultOf ((execute instruction.place instruction).outcome world).1

/-- The instructions of a run that goes on from a world, each with why it fails, if it does. -/
def endings : World → List Instruction → List (Instruction × Option Fault)
  | _, [] => []
  | world, instruction :: rest =>
    (instruction, world.fault? instruction) :: endings (attempt world instruction) rest

/-- The instructions of a run that fail, in order, each with its fault. -/
def failures (instructions : List Instruction) : List (Instruction × Fault) :=
  (endings empty instructions).filterMap fun ending => ending.2.map (Prod.mk ending.1)

/-- The instructions of a run that succeed, in order. -/
def successes (instructions : List Instruction) : List Instruction :=
  ((endings empty instructions).filter fun ending => ending.2.isNone).map Prod.fst

/-- The assignments of a run that succeed, in order, each with its name. -/
def assignments (instructions : List Instruction) : List (String × Instruction) :=
  (successes instructions).filterMap fun instruction =>
    instruction.assigned?.map fun name => (name, instruction)

/-- The last instruction of a run ends as it does in the world that the others lead to. -/
theorem endings_concat (world : World) (instructions : List Instruction)
    (last : Instruction) :
    endings world (instructions ++ [last]) =
      endings world instructions ++
        [(last, (instructions.foldl attempt world).fault? last)] := by
  induction instructions generalizing world with
  | nil => rfl
  | cons instruction rest ih => rw [List.cons_append, endings, ih, endings, List.foldl_cons]; rfl

theorem run_concat (instructions : List Instruction) (last : Instruction) :
    run (instructions ++ [last]) = attempt (run instructions) last :=
  List.foldl_concat ..

theorem failures_concat (instructions : List Instruction) (last : Instruction) :
    failures (instructions ++ [last]) =
      failures instructions ++ (((run instructions).fault? last).map (Prod.mk last)).toList := by
  rw [failures, endings_concat, List.filterMap_append]
  rfl

theorem successes_concat (instructions : List Instruction) (last : Instruction) :
    successes (instructions ++ [last]) =
      successes instructions ++
        if (run instructions).fault? last = none then [last] else [] := by
  rw [successes, endings_concat, List.filter_append, List.map_append, ← run]
  cases (run instructions).fault? last <;> rfl

/-- An assignment that succeeds at the end of a run is the last one. -/
theorem assignments_concat_of_assigned {instructions : List Instruction} {last : Instruction}
    {name : String} (hname : last.assigned? = some name)
    (hfault : (run instructions).fault? last = none) :
    assignments (instructions ++ [last]) = assignments instructions ++ [(name, last)] := by
  rw [assignments, successes_concat, if_pos hfault, List.filterMap_append,
    List.filterMap_cons_some (by rw [hname]; rfl), List.filterMap_nil, assignments]

/-- Anything else at the end of a run adds no assignment. -/
theorem assignments_concat_of_not {instructions : List Instruction} {last : Instruction}
    (h : (run instructions).fault? last = none → last.assigned? = none) :
    assignments (instructions ++ [last]) = assignments instructions := by
  rw [assignments, successes_concat]
  split
  · rename_i hfault
    rw [List.filterMap_append, List.filterMap_cons_none (by rw [h hfault]; rfl),
      List.filterMap_nil, List.append_nil, assignments]
  · rw [List.append_nil, assignments]

/-! ## One instruction -/

/-- The error that a fault of an instruction becomes. -/
def errorOf (failure : Instruction × Fault) : Diagnostic :=
  .ofKind failure.2.kind failure.2.message failure.1.place .run

/-- **What an instruction adds to the reports**: warnings about flags, and then its fault. -/
theorem diagnostics_attempt (world : World) (instruction : Instruction) :
    ∃ messages : List String, (attempt world instruction).diagnostics =
      (world.diagnostics ++ messages.map fun message =>
        Diagnostic.ofKind .unrecognisedFlag message instruction.place .run) ++
        (((world.fault? instruction).map (Prod.mk instruction)).map errorOf).toList := by
  obtain ⟨messages, hmessages⟩ :=
    (orderly_execute instruction.place instruction).reports world
  refine ⟨messages, ?_⟩
  rw [attempt, fault?, ← hmessages]
  rcases (execute instruction.place instruction).outcome world with ⟨fault | _, after⟩
  · rfl
  · exact (List.append_nil _).symm

/-- A fault of an instruction is reported as an error. -/
theorem isError_errorOf {world : World} {instruction : Instruction} {fault : Fault}
    (h : world.fault? instruction = some fault) :
    (errorOf (instruction, fault)).isError = true := by
  have hgrave := (orderly_execute instruction.place instruction).grave world
  rw [fault?] at h
  rcases houtcome : ((execute instruction.place instruction).outcome world).1 with found | _ <;>
    rw [houtcome] at h hgrave <;> cases h
  exact hgrave fault rfl

/-- **An instruction adds one error if it fails** and none if it succeeds. -/
theorem errors_attempt (world : World) (instruction : Instruction) :
    (attempt world instruction).diagnostics.filter Diagnostic.isError =
      world.diagnostics.filter Diagnostic.isError ++
        (((world.fault? instruction).map (Prod.mk instruction)).map errorOf).toList := by
  obtain ⟨messages, hmessages⟩ := diagnostics_attempt world instruction
  have hwarnings : (messages.map fun message => Diagnostic.ofKind .unrecognisedFlag message
      instruction.place .run).filter Diagnostic.isError = [] := by
    rw [List.filter_eq_nil_iff]
    intro diagnostic hmem
    obtain ⟨message, -, rfl⟩ := List.mem_map.1 hmem
    exact Bool.false_ne_true
  rw [hmessages, List.filter_append, List.filter_append, hwarnings, List.append_nil]
  cases hfault : world.fault? instruction with
  | none => rfl
  | some fault =>
    have herror := isError_errorOf hfault
    simp [herror]

theorem fault?_eq_none_iff {world : World} {instruction : Instruction} :
    world.fault? instruction = none ↔
      ((execute instruction.place instruction).outcome world).1 = .ok () := by
  rw [fault?]
  rcases ((execute instruction.place instruction).outcome world).1 with fault | _ <;> simp [faultOf]

/-- **What an instruction does to the names**: an assignment that succeeds binds its name, and
anything else leaves them as they are. -/
theorem bindings_execute_cases {world : World} (hw : world.WellFormed) (place : Place)
    (instruction : Instruction) :
    (∃ name binding, instruction.assigned? = some name ∧
        ((execute place instruction).outcome world).1 = .ok () ∧
        binding.source = instruction ∧
        ((execute place instruction).outcome world).2.bindings =
          world.bindings.bind name binding) ∨
      (((execute place instruction).outcome world).1 = .ok () → instruction.assigned? = none) ∧
        ((execute place instruction).outcome world).2.bindings = world.bindings := by
  cases hstatement : instruction.statement with
  | assign name expression modifiers =>
    rcases outcome_assign_cases hw place hstatement with
      ⟨fault, after, h, htrace⟩ | ⟨value, look, middle, h, htrace, -⟩ <;> rw [h]
    · exact .inr ⟨nofun, htrace.bindings_eq hw⟩
    · have hname : instruction.assigned? = some name := by rw [Instruction.assigned?, hstatement]
      rw [← htrace.bindings_eq hw]
      exact .inl ⟨name, ⟨value, look, instruction⟩, hname, rfl, rfl, rfl⟩
  | setProperty owner property expression =>
    have hname : instruction.assigned? = none := by rw [Instruction.assigned?, hstatement]
    refine .inr ⟨fun _ => hname, ?_⟩
    rcases outcome_setProperty_cases hw place hstatement with
      ⟨fault, after, h, htrace⟩ | ⟨id, v, middle, h, htrace, -⟩ <;> rw [h]
    · exact htrace.bindings_eq hw
    · have hmiddle := (htrace.wellFormed_and_later hw).1
      exact (bindings_overwrite hmiddle id v).trans (htrace.bindings_eq hw)
  | callMethod owner method arguments =>
    have hname : instruction.assigned? = none := by rw [Instruction.assigned?, hstatement]
    have htrace := trace_callMethod hw place hstatement
    exact .inr ⟨fun _ => hname, htrace.bindings_eq hw⟩

theorem bindings_attempt_cases {world : World} (hw : world.WellFormed)
    (instruction : Instruction) :
    (∃ name binding, instruction.assigned? = some name ∧ world.fault? instruction = none ∧
        binding.source = instruction ∧
        (attempt world instruction).bindings = world.bindings.bind name binding) ∨
      (world.fault? instruction = none → instruction.assigned? = none) ∧
        (attempt world instruction).bindings = world.bindings := by
  rw [bindings_attempt, fault?_eq_none_iff]
  exact bindings_execute_cases hw instruction.place instruction

/-! ## Runs -/

/-- **A run reports one error for each instruction that fails**, in order. -/
theorem errors_run (instructions : List Instruction) :
    (run instructions).diagnostics.filter Diagnostic.isError =
      (failures instructions).map errorOf := by
  induction instructions using List.reverseRecOn with
  | nil => rfl
  | append_singleton rest last ih =>
    rw [run_concat, errors_attempt, ih, failures_concat, List.map_append]
    cases (run rest).fault? last <;> rfl

/-- What a run reports beside errors are warnings about flags, each where an instruction stands. -/
theorem warnings_run (instructions : List Instruction) :
    ∀ diagnostic ∈ (run instructions).diagnostics, diagnostic.isError = false →
      ∃ instruction ∈ instructions, ∃ message,
        diagnostic = .ofKind .unrecognisedFlag message instruction.place .run := by
  induction instructions using List.reverseRecOn with
  | nil => exact nofun
  | append_singleton rest last ih =>
    intro diagnostic hmem herror
    obtain ⟨messages, hmessages⟩ := diagnostics_attempt (run rest) last
    rw [run_concat, hmessages, List.mem_append, List.mem_append] at hmem
    rcases hmem with (hbefore | hwarning) | hfault
    · obtain ⟨instruction, hinstruction, message, rfl⟩ := ih diagnostic hbefore herror
      exact ⟨instruction, List.mem_append_left _ hinstruction, message, rfl⟩
    · obtain ⟨message, -, rfl⟩ := List.mem_map.1 hwarning
      exact ⟨last, by simp, message, rfl⟩
    · cases hfound : (run rest).fault? last with
      | none => simp [hfound] at hfault
      | some fault =>
        obtain rfl : diagnostic = errorOf (last, fault) := by simpa [hfound] using hfault
        rw [isError_errorOf hfound] at herror
        cases herror

/-- **A name is bound as the last assignment to it that succeeded has left it.** -/
theorem source_run (instructions : List Instruction) (name : String) :
    ((run instructions).bindings.get? name).map Binding.source =
      (((assignments instructions).filter fun entry => entry.1 = name).map Prod.snd).getLast? := by
  induction instructions using List.reverseRecOn with
  | nil => rfl
  | append_singleton rest last ih =>
    rw [run_concat]
    rcases bindings_attempt_cases (wellFormed_run rest) last with
      ⟨other, binding, hname, hfault, hsource, hbindings⟩ | ⟨hnot, hbindings⟩
    · rw [hbindings, assignments_concat_of_assigned hname hfault, List.filter_append,
        List.map_append, Bindings.get?, Bindings.bind]
      by_cases h : name = other
      · rw [h, Table.get?_put_self, List.filter_cons_of_pos (by simp)]
        exact (congrArg some hsource).trans List.getLast?_concat.symm
      · rw [Table.get?_put_ne _ _ h, List.filter_cons_of_neg (by simpa using Ne.symm h),
          List.filter_nil, List.map_nil, List.append_nil]
        exact ih
    · rw [hbindings, assignments_concat_of_not hnot, ih]

/-- **Names stand in the order of the first assignments to them that succeeded.** -/
theorem names_run (instructions : List Instruction) :
    (run instructions).bindings.names =
      ((assignments instructions).map Prod.fst).eraseDups := by
  induction instructions using List.reverseRecOn with
  | nil => rfl
  | append_singleton rest last ih =>
    rw [run_concat]
    rcases bindings_attempt_cases (wellFormed_run rest) last with
      ⟨name, binding, hname, hfault, -, hbindings⟩ | ⟨hnot, hbindings⟩
    · rw [hbindings, assignments_concat_of_assigned hname hfault, List.map_append,
        List.eraseDups_append, ← ih]
      have hmem : name ∈ (run rest).bindings.names ↔ name ∈ (assignments rest).map Prod.fst := by
        rw [ih, List.mem_eraseDups]
      rw [Bindings.names, Bindings.bind, Table.keys_put, ← Bindings.names]
      by_cases h : name ∈ (run rest).bindings.names
      · rw [if_pos h]
        simp [List.removeAll, hmem.1 h]
      · rw [if_neg h]
        simp [List.removeAll, List.eraseDups_cons, mt hmem.2 h]
    · rw [hbindings, assignments_concat_of_not hnot, ih]

/-- A run has errors exactly if an instruction fails. -/
theorem hasErrors_run_iff (instructions : List Instruction) :
    Diagnostic.hasErrors (run instructions).diagnostics = true ↔ failures instructions ≠ [] := by
  rw [Diagnostic.hasErrors_iff_errorTexts, Diagnostic.errorTexts, errors_run, Ne,
    List.map_eq_nil_iff, List.map_eq_nil_iff]

/-- A name is bound exactly if some assignment to it succeeded. -/
theorem isSome_run_iff (instructions : List Instruction) (name : String) :
    ((run instructions).bindings.get? name).isSome = true ↔
      ∃ instruction, (name, instruction) ∈ assignments instructions := by
  rw [← Option.isSome_map, source_run, List.getLast?_isSome]
  simp

/-! ## Scripts -/

/-- A script is played unless the host gives options in two ways, or options for a script that has
been read. -/
theorem exists_ofText_iff (text : String) (options : Option ReadingOptions) (mode : Option Mode)
    (document : Option Document) :
    (∃ playback, Playback.ofText text options mode document = .ok playback) ↔
      options = none ∧ mode = none ∨ document = none ∧ (options = none ∨ mode = none) := by
  cases document with
  | some document =>
    cases options <;> cases mode <;> simp [Playback.ofText]
  | none =>
    cases options <;> cases mode <;>
      simp [Playback.ofText, ReadingOptions.choose, bind, Except.bind, pure, Except.pure]

/-- What is played is a script, either given or read from the text, and its run. -/
theorem ofText_cases {text : String} {options : Option ReadingOptions} {mode : Option Mode}
    {document : Option Document} {playback : Playback}
    (h : Playback.ofText text options mode document = .ok playback) :
    playback.world = run playback.document.instructions ∧
      (document = some playback.document ∨
        ∃ chosen, playback.document = Document.read chosen text) := by
  unfold Playback.ofText at h
  cases document with
  | some document =>
    dsimp only at h
    split at h <;> cases h
    exact ⟨rfl, .inl rfl⟩
  | none =>
    rcases hchosen : ReadingOptions.choose options mode with fault | chosen <;>
      rw [hchosen] at h <;> cases h
    exact ⟨rfl, .inr ⟨chosen, rfl⟩⟩

/-- **What a run tells about its instructions.**  A run always ends.  Its errors are, in order, one
for each instruction that fails, where that instruction stands; anything else that it reports is a
warning about a flag.  A name is bound exactly if some assignment to it succeeded, as the last such
assignment has left it, and names stand in the order of the first ones.

So the errors of a script are those of reading it and then those of its run; there is one exactly
if an error was reported by reading or an instruction fails, and whatever reading reports is an
error.  A script is always played, unless the options that the host gives contradict each other. -/
theorem accounts_of_playback :
    (∀ instructions : List Instruction,
      (run instructions).diagnostics.filter Diagnostic.isError =
        (failures instructions).map (fun failure =>
          .ofKind failure.2.kind failure.2.message failure.1.place .run) ∧
      (∀ diagnostic ∈ (run instructions).diagnostics, diagnostic.isError = false →
        ∃ instruction ∈ instructions, ∃ message,
          diagnostic = .ofKind .unrecognisedFlag message instruction.place .run) ∧
      (∀ name, ((run instructions).bindings.get? name).isSome = true ↔
        ∃ instruction, (name, instruction) ∈ assignments instructions) ∧
      (∀ name, ((run instructions).bindings.get? name).map Binding.source =
        (((assignments instructions).filter fun entry => entry.1 = name).map
          Prod.snd).getLast?) ∧
      (run instructions).bindings.names =
        ((assignments instructions).map Prod.fst).eraseDups) ∧
    (∀ (text : String) (options : Option ReadingOptions) (mode : Option Mode)
      (document : Option Document),
      (∃ playback, Playback.ofText text options mode document = .ok playback) ↔
        options = none ∧ mode = none ∨ document = none ∧ (options = none ∨ mode = none)) ∧
    ∀ (text : String) (options : Option ReadingOptions) (mode : Option Mode)
      (document : Option Document) (playback : Playback),
      Playback.ofText text options mode document = .ok playback →
      playback.world = run playback.document.instructions ∧
      playback.errorTexts =
        playback.document.errorTexts ++ Diagnostic.errorTexts playback.world.diagnostics ∧
      (playback.hasErrors = true ↔ playback.errorTexts ≠ []) ∧
      (playback.hasErrors = true ↔
        playback.document.hasErrors = true ∨ failures playback.document.instructions ≠ []) ∧
      ((∀ given, document = some given → ∃ chosen source, given = Document.read chosen source) →
        (playback.hasErrors = true ↔
          playback.document.diagnostics ≠ [] ∨ failures playback.document.instructions ≠ [])) := by
  refine ⟨fun instructions => ⟨errors_run instructions, warnings_run instructions,
    isSome_run_iff instructions, source_run instructions, names_run instructions⟩,
    exists_ofText_iff, ?_⟩
  intro text options mode document playback h
  obtain ⟨hworld, hdocument⟩ := ofText_cases h
  have herrors : playback.hasErrors = true ↔
      playback.document.hasErrors = true ∨ failures playback.document.instructions ≠ [] := by
    rw [Playback.hasErrors, Playback.diagnostics, Diagnostic.hasErrors, List.any_append,
      Bool.or_eq_true, hworld]
    exact or_congr_right (hasErrors_run_iff _)
  refine ⟨hworld, Diagnostic.errorTexts_append _ _, Diagnostic.hasErrors_iff_errorTexts _, herrors,
    fun hgiven => ?_⟩
  have hread : ∃ chosen source, playback.document = Document.read chosen source := by
    rcases hdocument with hdocument | ⟨chosen, hdocument⟩
    · exact hgiven _ hdocument
    · exact ⟨chosen, text, hdocument⟩
  obtain ⟨chosen, source, hread⟩ := hread
  rw [herrors, hread, Document.hasErrors_read_iff]

/-- The second line of a script fails, so the script has an error and `a` keeps what the first line
gave it. -/
theorem accounts_of_lost_line :
    (Playback.ofDocument (Document.read .standard "a = 1\na = b")).errorTexts ≠ [] ∧
      ((run (Document.read .standard "a = 1\na = b").instructions).bindings.get? "a").map
        (fun binding => binding.source.place) = some ⟨1, "a = 1"⟩ := by
  have hplayback : Playback.ofText "a = 1\na = b" none none none =
      .ok (Playback.ofDocument (Document.read .standard "a = 1\na = b")) := rfl
  obtain ⟨-, -, hshown, -, hcounted⟩ := accounts_of_playback.2.2 _ _ _ _ _ hplayback
  have hfailures :
      failures (Document.read .standard "a = 1\na = b").instructions ≠ [] := by decide +kernel
  refine ⟨hshown.1 ((hcounted nofun).2 (.inr hfailures)), ?_⟩
  have hsource := (accounts_of_playback.1
    (Document.read .standard "a = 1\na = b").instructions).2.2.2.1 "a"
  have hplace := congrArg (Option.map Instruction.place) hsource
  rw [Option.map_map] at hplace
  exact hplace.trans (by decide +kernel)

end World
end LiveVectors

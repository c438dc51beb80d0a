import LiveVectors.Proofs.Lexemes
import LiveVectors.Script.Document

/-!
# Lines

What the reader of a script keeps of its text: the trimmed lines that count.

* `lines_append` — the lines of two texts with a line feed between them are the lines of the one
  and then those of the other.
* `Respaced` — the lines of one text are those of another with blanks added at their ends and with
  lines that do not count put in anywhere.  The lines that count are then the same
  (`Respaced.significantLines_eq`).
* `respaced_carriageReturns` — carriage returns in front of the line feeds are such a change.
-/

set_option autoImplicit false

namespace LiveVectors

/-! ## Cutting -/

namespace Text

theorem consHead_append (c : Char) {pieces : List (List Char)} (h : pieces ≠ [])
    (rest : List (List Char)) : consHead c (pieces ++ rest) = consHead c pieces ++ rest := by
  obtain ⟨piece, others, rfl⟩ := List.exists_cons_of_ne_nil h
  rfl

/-- **A cut separates**: what is before it and what is after it are cut by themselves. -/
theorem cutAt_append {cut : Char → Bool} {c : Char} (hc : cut c = true)
    (first second : List Char) :
    cutAt cut (first ++ c :: second) = cutAt cut first ++ cutAt cut second := by
  induction first with
  | nil => simp [cutAt, hc]
  | cons d ds ih =>
    rw [List.cons_append, cutAt, cutAt, ih]
    split
    · rfl
    · exact consHead_append d (cutAt_ne_nil cut ds) _

theorem lines_append (first second : List Char) :
    lines (first ++ '\n' :: second) = lines first ++ lines second :=
  cutAt_append (by decide) first second

end Text

namespace Document

open Text

/-! ## Lines that count -/

/-- The lines of two texts that count are counted one text after the other. -/
theorem significantLines_append (mark first second : List Char) :
    significantLines mark (first ++ '\n' :: second) =
      significantLines mark first ++ significantLines mark second := by
  rw [significantLines, lines_append, List.map_append, List.filter_append]
  rfl

/-- A line counts for nothing if nothing is left of it or a comment mark begins what is left. -/
theorem counts_eq_false_iff {mark line : List Char} :
    counts mark line = false ↔ line = [] ∨ mark <+: line := by
  simp only [counts, Bool.and_eq_false_iff, bne_eq_false_iff_eq, Bool.not_eq_false',
    List.isPrefixOf_iff_prefix]

/-- Lines and the same lines with changes that are not to matter: blanks are added before and after
a line, and lines that do not count are put in. -/
inductive Respaced (mark : List Char) : List (List Char) → List (List Char) → Prop
  | nil : Respaced mark [] []
  /-- A line gets blanks at its ends. -/
  | line {before line after : List Char} {old new : List (List Char)}
      (hbefore : ∀ c ∈ before, isBlank c = true) (hafter : ∀ c ∈ after, isBlank c = true)
      (h : Respaced mark old new) :
      Respaced mark (line :: old) ((before ++ (line ++ after)) :: new)
  /-- A line of blanks or a comment is put in. -/
  | extra {line : List Char} {old new : List (List Char)}
      (hline : trim line = [] ∨ mark <+: trim line) (h : Respaced mark old new) :
      Respaced mark old (line :: new)

/-- **Such changes leave the lines that count as they are.** -/
theorem Respaced.significantLines_eq {mark text text' : List Char}
    (h : Respaced mark (lines text) (lines text')) :
    significantLines mark text' = significantLines mark text := by
  rw [significantLines, significantLines]
  generalize lines text = old at h
  generalize lines text' = new at h
  induction h with
  | nil => rfl
  | @line before line after old new hbefore hafter h ih =>
    rw [List.map_cons, List.map_cons, List.filter_cons, List.filter_cons,
      trim_append hbefore line hafter, ih]
  | extra hline h ih =>
    rw [List.map_cons, List.filter_cons_of_neg (by simp [counts_eq_false_iff.2 hline]), ih]

/-! ## Carriage returns -/

/-- The text with a carriage return in front of every line feed. -/
def carriageReturns (text : List Char) : List Char :=
  text.flatMap fun c => if c = '\n' then ['\r', '\n'] else [c]

/-- The lines of a text get blanks at their ends and nothing else. -/
theorem forall₂_carriageReturns (text : List Char) :
    List.Forall₂ (fun line line' => ∃ after, (∀ c ∈ after, isBlank c = true) ∧
      line' = line ++ after) (lines text) (lines (carriageReturns text)) := by
  induction text with
  | nil => exact .cons ⟨[], nofun, rfl⟩ .nil
  | cons c cs ih =>
    by_cases hc : c = '\n'
    · subst hc
      have hlines : lines (carriageReturns ('\n' :: cs)) =
          ['\r'] :: lines (carriageReturns cs) :=
        lines_append ['\r'] (carriageReturns cs)
      have hlines' : lines ('\n' :: cs) = [] :: lines cs := lines_append [] cs
      rw [hlines, hlines']
      exact .cons ⟨['\r'], List.forall_mem_singleton.2 rfl, rfl⟩ ih
    · have hkeep : ∀ ds, lines (c :: ds) = consHead c (lines ds) := by
        intro ds
        rw [lines, cutAt, if_neg (by simpa using hc)]
        rfl
      have hreturns : carriageReturns (c :: cs) = c :: carriageReturns cs := by
        rw [carriageReturns, List.flatMap_cons, if_neg hc]
        rfl
      rw [hreturns, hkeep, hkeep]
      generalize lines cs = old at ih
      generalize lines (carriageReturns cs) = new at ih
      cases ih with
      | nil => exact .cons ⟨[], nofun, rfl⟩ .nil
      | cons hfirst hrest =>
        obtain ⟨after, hafter, rfl⟩ := hfirst
        exact .cons ⟨after, hafter, rfl⟩ hrest

theorem respaced_carriageReturns (mark text : List Char) :
    Respaced mark (lines text) (lines (carriageReturns text)) := by
  have h := forall₂_carriageReturns text
  generalize lines text = old at h
  generalize lines (carriageReturns text) = new at h
  induction h with
  | nil => exact .nil
  | cons hline h ih =>
    obtain ⟨after, hafter, rfl⟩ := hline
    have hnone : ∀ c ∈ ([] : List Char), isBlank c = true := nofun
    exact .line hnone hafter ih

end Document
end LiveVectors

import LiveVectors.Proofs.Balance
import LiveVectors.Proofs.Lexemes

/-!
# Segments

Commas at depth zero separate arguments and modifiers.  A segment is a text that can stand between
two of them; this file puts segments together and takes texts apart.

* `Segment` — balanced texts that end no line.
* `splitTopLevel_intercalate` — putting texts without cuts together and cutting the whole gives the
  texts back.
* `map_trim_splitTopLevel_trim` — blanks at the ends of a text change only the ends of its pieces.
* `splitTopLevel_one_cases` — cutting once and then the rest is the same as cutting everywhere.
-/

set_option autoImplicit false

namespace LiveVectors
namespace Nesting

open Text

variable {free : Char → Prop} {cut : Char → Bool}

/-! ## Balanced texts without line feeds -/

/-- A balanced text that ends no line; `free` holds of its characters outside of all parentheses. -/
structure Segment (free : Char → Prop) (text : List Char) : Prop where
  balanced : Balanced free text
  unbroken : '\n' ∉ text

theorem Segment.mono {free' : Char → Prop} {text : List Char} (h : Segment free text)
    (hmono : ∀ c, free c → free' c) : Segment free' text :=
  ⟨h.balanced.mono hmono, h.unbroken⟩

theorem segment_nil : Segment free [] := ⟨.nil _, List.not_mem_nil⟩

theorem Segment.append {first second : List Char} (h : Segment free first)
    (h' : Segment free second) : Segment free (first ++ second) :=
  ⟨h.balanced.append h'.balanced, by simp [h.unbroken, h'.unbroken]⟩

theorem Segment.cons {c : Char} {text : List Char} (hopen : c ≠ '(') (hclose : c ≠ ')')
    (hline : c ≠ '\n') (hfree : free c) (h : Segment free text) : Segment free (c :: text) :=
  ⟨.char hopen hclose hfree h.balanced, by simp [h.unbroken, hline.symm]⟩

/-- **Whatever a segment is, it is one between parentheses.** -/
theorem Segment.group {free' : Char → Prop} {inside : List Char} (h : Segment free' inside) :
    Segment free ('(' :: (inside ++ [')'])) :=
  ⟨.group (h.balanced.mono fun _ _ => trivial) (.nil _), by simp [h.unbroken]⟩

/-- **What is cut off at depth zero leaves segments.** -/
theorem Segment.of_append {first second : List Char} (h : Segment free (first ++ second))
    (hdepth : depthAfter first = 0) : Segment free first ∧ Segment free second := by
  obtain ⟨hfirst, hsecond⟩ := h.balanced.of_append hdepth
  have hunbroken := h.unbroken
  rw [List.mem_append, not_or] at hunbroken
  exact ⟨⟨hfirst, hunbroken.1⟩, ⟨hsecond, hunbroken.2⟩⟩

/-- Trimming takes nothing but blanks away, and a segment stays one. -/
theorem Segment.trim {text : List Char} (h : Segment free text) :
    Segment free (Text.trim text) := by
  obtain ⟨before, after, hbefore, hafter, hsplit⟩ := exists_eq_append_trim text
  have hfront := (Balanced.of_isBlank hbefore).depthAfter_eq
  have hback := (Balanced.of_isBlank hafter).depthAfter_eq
  have hwhole := h.balanced.depthAfter_eq
  rw [hsplit] at h
  rw [hsplit, depthAfter_append, depthAfter_append] at hwhole
  exact ((h.of_append hfront).2.of_append (by omega)).1

/-! ## Commas between texts -/

theorem Segment.intercalate {separator : List Char} {texts : List (List Char)}
    (hseparator : Segment free separator) (h : ∀ text ∈ texts, Segment free text) :
    Segment free (separator.intercalate texts) := by
  induction texts with
  | nil => exact segment_nil
  | cons first others ih =>
    obtain ⟨hfirst, hothers⟩ := List.forall_mem_cons.1 h
    rcases eq_or_ne others [] with rfl | hne
    · rwa [List.intercalate_singleton]
    · rw [List.intercalate_cons_of_ne_nil hne]
      exact (hfirst.append hseparator).append (ih hothers)

/-- **Cutting undoes putting together.** -/
theorem splitTopLevel_intercalate {separator : Char} (hseparator : isCut cut 0 separator = true)
    (hcut : ∀ c, free c → cut c = false) {texts : List (List Char)} (hne : texts ≠ [])
    (h : ∀ text ∈ texts, Balanced free text) :
    splitTopLevel cut (-1) ([separator].intercalate texts) = texts := by
  induction texts with
  | nil => exact absurd rfl hne
  | cons first others ih =>
    obtain ⟨hfirst, hothers⟩ := List.forall_mem_cons.1 h
    rcases eq_or_ne others [] with rfl | hmore
    · rw [List.intercalate_singleton]
      exact hfirst.splitFrom_eq hcut (-1) 0
    · rw [List.intercalate_cons_of_ne_nil hmore, List.append_assoc, List.singleton_append,
        splitTopLevel, hfirst.splitFrom_cut hcut hseparator]
      exact congrArg (first :: ·) (ih hmore hothers)

theorem mem_of_mem_splitFrom {depth limit : Int} {made : Nat} {text piece : List Char}
    (h : piece ∈ splitFrom cut depth limit made text) : ∀ c ∈ piece, c ∈ text := by
  induction text generalizing depth made piece with
  | nil =>
    rw [splitFrom, List.mem_singleton] at h
    rw [h]
    exact fun _ => id
  | cons d ds ih =>
    have hlonger : ∀ c ∈ ds, c ∈ d :: ds := fun c hc => List.mem_cons_of_mem d hc
    rw [splitFrom] at h
    split at h
    · split at h
      · rcases List.mem_pair.1 h with rfl | rfl
        · exact List.forall_mem_nil _
        · exact hlonger
      · rcases List.mem_cons.1 h with rfl | h
        · exact List.forall_mem_nil _
        · exact fun c hc => hlonger c (ih h c hc)
    · have hpieces : ∀ piece ∈ splitFrom cut (stepDepth depth d) limit made ds,
          ∀ c ∈ piece, c ∈ ds := fun _ hpiece => ih hpiece
      obtain ⟨first, others, hsplit⟩ :=
        List.exists_cons_of_ne_nil (splitFrom_ne_nil cut (stepDepth depth d) limit made ds)
      rw [hsplit, List.forall_mem_cons] at hpieces
      rw [hsplit] at h
      rcases List.mem_cons.1 h with rfl | h
      · exact List.forall_mem_cons.2
          ⟨List.mem_cons_self, fun c hc => hlonger c (hpieces.1 c hc)⟩
      · exact fun c hc => hlonger c (hpieces.2 piece h c hc)

/-- **The pieces of a segment are segments** without cuts. -/
theorem Segment.of_mem_splitTopLevel {text piece : List Char} (h : Segment free text)
    (hpiece : piece ∈ splitTopLevel cut (-1) text) :
    Segment (fun c => free c ∧ cut c = false) piece :=
  ⟨h.balanced.of_mem_splitFrom cut piece hpiece,
    fun hmem => h.unbroken (mem_of_mem_splitFrom hpiece _ hmem)⟩

/-! ## Blanks at the ends -/

/-- A text with nothing to cut is one piece, at whatever depth. -/
theorem splitFrom_of_forall {text : List Char} (h : ∀ c ∈ text, cut c = false)
    (depth limit : Int) (made : Nat) : splitFrom cut depth limit made text = [text] := by
  induction text generalizing depth with
  | nil => rfl
  | cons c cs ih =>
    obtain ⟨hc, hcs⟩ := List.forall_mem_cons.1 h
    have hkeep : isCut cut depth c = false := by simp [isCut, hc]
    rw [splitFrom, hkeep, if_neg Bool.false_ne_true, ih hcs]
    rfl

/-- Blanks after a text become part of its last piece. -/
theorem exists_splitFrom_append_blanks (hcut : ∀ c, isBlank c = true → cut c = false)
    {after : List Char} (hafter : ∀ c ∈ after, isBlank c = true) (depth : Int) (text : List Char) :
    ∃ front last, splitFrom cut depth (-1) 0 text = front ++ [last] ∧
      splitFrom cut depth (-1) 0 (text ++ after) = front ++ [last ++ after] := by
  induction text generalizing depth with
  | nil =>
    exact ⟨[], [], rfl, splitFrom_of_forall (fun c hc => hcut c (hafter c hc)) depth (-1) 0⟩
  | cons c cs ih =>
    rw [List.cons_append, splitFrom_neg_one_cons, splitFrom_neg_one_cons]
    split
    · obtain ⟨front, last, htext, hlonger⟩ := ih depth
      exact ⟨[] :: front, last, congrArg ([] :: ·) htext, congrArg ([] :: ·) hlonger⟩
    · obtain ⟨front, last, htext, hlonger⟩ := ih (stepDepth depth c)
      rw [htext, hlonger]
      cases front with
      | nil => exact ⟨[], c :: last, rfl, rfl⟩
      | cons piece others => exact ⟨(c :: piece) :: others, last, rfl, rfl⟩

/-- **Blanks at the ends of a text** change only the ends of its first and its last piece. -/
theorem map_trim_splitTopLevel_trim (hcut : ∀ c, isBlank c = true → cut c = false)
    (text : List Char) :
    (splitTopLevel cut (-1) (trim text)).map trim = (splitTopLevel cut (-1) text).map trim := by
  obtain ⟨before, after, hbefore, hafter, hsplit⟩ := exists_eq_append_trim text
  obtain ⟨front, last, htrim, hlonger⟩ := exists_splitFrom_append_blanks hcut hafter 0 (trim text)
  have htext : splitFrom cut 0 (-1) 0 text = before.foldr consHead (front ++ [last ++ after]) := by
    rw [hsplit, (Balanced.of_isBlank hbefore).splitFrom_append (Int.le_refl 0) (fun _ => hcut),
      hlonger]
  rw [splitTopLevel, splitTopLevel, htrim, htext]
  cases front with
  | nil =>
    rw [List.nil_append, List.nil_append, foldr_consHead, List.map_singleton, List.map_singleton,
      trim_append hbefore last hafter]
  | cons piece others =>
    have hpiece : trim (before ++ piece) = trim piece := by
      simpa using trim_append hbefore piece (List.forall_mem_nil _)
    have hlast : trim (last ++ after) = trim last :=
      trim_append (List.forall_mem_nil _) last hafter
    simp [foldr_consHead, hpiece, hlast]

/-! ## Cutting once -/

theorem splitFrom_one_cases (depth : Int) (text : List Char) :
    splitFrom cut depth (-1) 0 text = [text] ∧ splitFrom cut depth 1 0 text = [text] ∨
      ∃ first rest, splitFrom cut depth (-1) 0 text = first :: splitFrom cut 0 (-1) 0 rest ∧
        splitFrom cut depth 1 0 text = [first, rest] := by
  induction text generalizing depth with
  | nil => exact .inl ⟨rfl, rfl⟩
  | cons c cs ih =>
    rw [splitFrom_neg_one_cons, splitFrom]
    split
    · rename_i hcut
      have hdepth : depth = 0 := by
        simp only [isCut, Bool.and_eq_true, beq_iff_eq] at hcut
        exact hcut.1.1.1
      exact .inr ⟨[], cs, by rw [hdepth], rfl⟩
    · rcases ih (stepDepth depth c) with ⟨hall, hone⟩ | ⟨first, rest, hall, hone⟩
      · exact .inl ⟨by rw [hall]; rfl, by rw [hone]; rfl⟩
      · exact .inr ⟨c :: first, rest, by rw [hall]; rfl, by rw [hone]; rfl⟩

/-- **Cutting once**: either there is no cut, or there is a first piece and a rest, whose pieces
are the others. -/
theorem splitTopLevel_one_cases (cut : Char → Bool) (text : List Char) :
    splitTopLevel cut (-1) text = [text] ∧ splitTopLevel cut 1 text = [text] ∨
      ∃ first rest, splitTopLevel cut (-1) text = first :: splitTopLevel cut (-1) rest ∧
        splitTopLevel cut 1 text = [first, rest] :=
  splitFrom_one_cases 0 text

end Nesting
end LiveVectors

import LiveVectors.Proofs.Splitting

/-!
# Splitting with a limit

A text can be cut a limited number of times.  One expects the pieces before the last cut to be those
of the text cut everywhere, and the last piece to be all that follows: the other pieces, with the
separators that stood between them.  This is so for every limit but zero.  The number of cuts is
compared with the limit only after a cut, when it is one at least, so that zero limits nothing.

* `isSeparator` — separators are texts; one that is no single character is found nowhere.
* `capped` — the pieces that one expects.
* `splitFrom_capped` — **a limit that is still to be reached leaves these**, from every depth on.
* `splitTopLevel_capped` — the result, with what the limit zero does.
-/

set_option autoImplicit false

namespace LiveVectors
namespace Nesting

open Text

/-! ## Separators -/

/-- Whether a character is the whole separator. -/
def isSeparator (separator : List Char) (c : Char) : Bool := separator == [c]

theorem isSeparator_singleton (c : Char) : isSeparator [c] = (· == c) := by
  funext d
  rw [isSeparator, Bool.eq_iff_iff, beq_iff_eq, beq_iff_eq, List.singleton_inj, eq_comm]

/-- **Putting pieces together undoes cutting** at a separator of whatever length. -/
theorem intercalate_splitFrom_isSeparator (separator : List Char) (depth limit : Int) (made : Nat)
    (text : List Char) :
    separator.intercalate (splitFrom (isSeparator separator) depth limit made text) = text := by
  by_cases hsingle : ∃ c, separator = [c]
  · obtain ⟨c, rfl⟩ := hsingle
    rw [isSeparator_singleton]
    exact intercalate_splitFrom (fun d hd => eq_of_beq hd) depth limit made text
  · -- the separator is no character, and the text is one piece
    have hnone : ∀ c ∈ text, isSeparator separator c = false := fun c _ =>
      beq_false_of_ne fun h => hsingle ⟨c, h⟩
    rw [splitFrom_of_forall hnone, List.intercalate_singleton]

/-! ## The pieces that a limit leaves -/

/-- The first `limit` pieces, and all the others put together again. -/
def capped (separator : List Char) (limit : Nat) (pieces : List (List Char)) : List (List Char) :=
  pieces.take limit ++
    if pieces.drop limit = [] then [] else [separator.intercalate (pieces.drop limit)]

variable {separator : List Char}

theorem capped_zero {pieces : List (List Char)} (h : pieces ≠ []) :
    capped separator 0 pieces = [separator.intercalate pieces] := by
  rw [capped, List.take_zero, List.drop_zero, if_neg h, List.nil_append]

theorem capped_succ_cons (limit : Nat) (piece : List Char) (rest : List (List Char)) :
    capped separator (limit + 1) (piece :: rest) = piece :: capped separator limit rest := rfl

/-- A limit that is not zero leaves the first piece alone. -/
theorem capped_succ_consHead (limit : Nat) (c : Char) {pieces : List (List Char)}
    (h : pieces ≠ []) :
    capped separator (limit + 1) (consHead c pieces) =
      consHead c (capped separator (limit + 1) pieces) := by
  obtain ⟨piece, rest, rfl⟩ := List.exists_cons_of_ne_nil h
  rfl

theorem length_capped_le (limit : Nat) (pieces : List (List Char)) :
    (capped separator limit pieces).length ≤ limit + 1 := by
  have htake : (pieces.take limit).length ≤ limit := List.length_take_le limit pieces
  rw [capped, List.length_append]
  split
  · rw [List.length_nil]
    omega
  · rw [List.length_singleton]
    omega

/-! ## Cutting -/

/-- **A limit that is still to be reached** leaves the first pieces, and the rest of the text after
them. -/
theorem splitFrom_capped (separator : List Char) (depth : Int) (limit made : Nat)
    (text : List Char) :
    splitFrom (isSeparator separator) depth (made + limit + 1) made text =
      capped separator (limit + 1) (splitFrom (isSeparator separator) depth (-1) 0 text) := by
  induction text generalizing depth limit made with
  | nil => simp [splitFrom, capped]
  | cons c cs ih =>
    rw [splitFrom, splitFrom_neg_one_cons]
    split
    · rw [capped_succ_cons]
      cases limit with
      | zero =>
        -- this was the last cut, and the rest of the text is what its pieces are put together to
        rw [if_pos (by omega), capped_zero (splitFrom_ne_nil _ _ _ _ _),
          intercalate_splitFrom_isSeparator]
      | succ limit =>
        have hlater := ih depth limit (made + 1)
        rw [show ((made + 1 : Nat) : Int) + limit + 1 = made + (limit + 1 : Nat) + 1 by omega]
          at hlater
        rw [if_neg (by omega), hlater]
    · rw [capped_succ_consHead limit c (splitFrom_ne_nil _ _ _ _ _), ih]

/-- A text is one piece exactly if nothing in it is a cut. -/
theorem splitFrom_eq_singleton_iff {cut : Char → Bool} {depth : Int} {text : List Char} :
    splitFrom cut depth (-1) 0 text = [text] ↔
      ¬ ∃ front c rest, text = front ++ c :: rest ∧
        isCut cut (depth + depthAfter front) c = true := by
  induction text generalizing depth with
  | nil => simp [splitFrom]
  | cons c cs ih =>
    rw [splitFrom_neg_one_cons]
    split
    · rename_i hcut
      refine iff_of_false (by simp) (not_not.2 ⟨[], c, cs, rfl, ?_⟩)
      rwa [depthAfter_nil, Int.add_zero]
    · rename_i hkeep
      have hhead : consHead c (splitFrom cut (stepDepth depth c) (-1) 0 cs) = [c :: cs] ↔
          splitFrom cut (stepDepth depth c) (-1) 0 cs = [cs] := by
        obtain ⟨piece, rest, hpieces⟩ :=
          List.exists_cons_of_ne_nil (splitFrom_ne_nil cut (stepDepth depth c) (-1) 0 cs)
        rw [hpieces, consHead, List.cons.injEq, List.cons.injEq, List.cons.injEq]
        simp
      rw [hhead, ih, not_iff_not]
      constructor
      · rintro ⟨front, d, rest, rfl, hcut⟩
        refine ⟨c :: front, d, rest, rfl, ?_⟩
        rwa [depthAfter_cons, ← Int.add_assoc, ← stepDepth_eq_add]
      · rintro ⟨front, d, rest, htext, hcut⟩
        rcases List.cons_eq_append_iff.1 htext with ⟨rfl, hd⟩ | ⟨front, rfl, hcs⟩
        · obtain ⟨rfl, rfl⟩ := List.cons.inj hd
          rw [depthAfter_nil, Int.add_zero] at hcut
          exact absurd hcut hkeep
        · refine ⟨front, d, rest, hcs, ?_⟩
          rwa [depthAfter_cons, ← Int.add_assoc, ← stepDepth_eq_add] at hcut

/-- **A limit bounds the cuts**, for every text and every separator.  A limit that is not zero
leaves as many first pieces of the text cut everywhere and puts the others together again, so that
there is at most one piece more than the limit.  The limit zero should leave the whole text as one
piece; but every cut is made then, and this is the same only where there is nothing to cut. -/
theorem splitTopLevel_capped (separator text : List Char) :
    (∀ limit : Nat, splitTopLevel (isSeparator separator) (limit + 1) text =
        capped separator (limit + 1) (splitTopLevel (isSeparator separator) (-1) text) ∧
      (splitTopLevel (isSeparator separator) (limit + 1) text).length ≤ limit + 2) ∧
    capped separator 0 (splitTopLevel (isSeparator separator) (-1) text) = [text] ∧
    splitTopLevel (isSeparator separator) 0 text =
      splitTopLevel (isSeparator separator) (-1) text ∧
    (splitTopLevel (isSeparator separator) 0 text =
        capped separator 0 (splitTopLevel (isSeparator separator) (-1) text) ↔
      ¬ ∃ front c rest, text = front ++ c :: rest ∧
        isCut (isSeparator separator) (depthAfter front) c = true) := by
  have hone : capped separator 0 (splitTopLevel (isSeparator separator) (-1) text) = [text] := by
    rw [splitTopLevel, capped_zero (splitFrom_ne_nil _ _ _ _ _), intercalate_splitFrom_isSeparator]
  have hcapped (limit : Nat) : splitTopLevel (isSeparator separator) (limit + 1) text =
      capped separator (limit + 1) (splitTopLevel (isSeparator separator) (-1) text) := by
    have hwhole := splitFrom_capped separator 0 limit 0 text
    rwa [Int.natCast_zero, Int.zero_add] at hwhole
  have hzero : splitTopLevel (isSeparator separator) 0 text =
      splitTopLevel (isSeparator separator) (-1) text :=
    splitFrom_of_le (isSeparator separator) 0 (Int.le_refl 0) text
  refine ⟨fun limit => ⟨hcapped limit, ?_⟩, hone, hzero, ?_⟩
  · rw [hcapped]
    exact length_capped_le (limit + 1) _
  · rw [hzero, hone, splitTopLevel, splitFrom_eq_singleton_iff]
    simp only [Int.zero_add]

/-- Two pieces where the limit zero should leave one. -/
theorem limit_zero_cuts_pair :
    splitTopLevel (isSeparator [',']) 0 "a,b".toList ≠
      capped [','] 0 (splitTopLevel (isSeparator [',']) (-1) "a,b".toList) := by
  decide

end Nesting
end LiveVectors

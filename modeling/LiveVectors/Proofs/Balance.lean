import LiveVectors.Script.Shape

/-!
# Balanced texts

A text is balanced if every parenthesis in it has its partner.  What walks through a text and
counts depth passes a balanced part as if it were not there, as long as nothing outside of its
parentheses is of interest.

* `Balanced free text` — the text is balanced, and `free` holds of the characters outside of all
  its parentheses.
* `Balanced.splitFrom_append`, `Balanced.closesFrom_append` and
  `Balanced.findOperatorFrom_append` — cuts, the search for the closing parenthesis and the
  search for an operator pass balanced texts.
* `Balanced.splitFrom_cut` and `closesAtEnd_group` — what these find behind a balanced text.
* `Balanced.of_append` and `Balanced.of_mem_splitFrom` — what a balanced text is cut into at depth
  zero is balanced.
* `closesAtEnd_cons_iff` — a parenthesis that is closed by the last character has a balanced text
  inside.
-/

set_option autoImplicit false

namespace LiveVectors
namespace Nesting

open Text

/-! ## Balance -/

/-- Every parenthesis has its partner, and `free` holds of the characters outside of all
parentheses. -/
inductive Balanced : (Char → Prop) → List Char → Prop
  | nil (free : Char → Prop) : Balanced free []
  | char {free : Char → Prop} {c : Char} {cs : List Char} (hopen : c ≠ '(') (hclose : c ≠ ')')
      (hfree : free c) (h : Balanced free cs) : Balanced free (c :: cs)
  | group {free : Char → Prop} {inside rest : List Char} (hinside : Balanced (fun _ => True) inside)
      (h : Balanced free rest) : Balanced free ('(' :: (inside ++ ')' :: rest))

namespace Balanced

variable {free : Char → Prop} {text : List Char}

theorem mono {free' : Char → Prop} (h : Balanced free text) (hmono : ∀ c, free c → free' c) :
    Balanced free' text := by
  induction h with
  | nil => exact .nil _
  | char hopen hclose hfree _ ih => exact .char hopen hclose (hmono _ hfree) (ih hmono)
  | group hinside _ _ ih => exact .group hinside (ih hmono)

theorem append {rest : List Char} (h : Balanced free text) (h' : Balanced free rest) :
    Balanced free (text ++ rest) := by
  induction h with
  | nil => exact h'
  | char hopen hclose hfree _ ih => exact .char hopen hclose hfree (ih h')
  | @group free inside tail hinside _ _ ih =>
    have hgroup : Balanced free ('(' :: (inside ++ ')' :: (tail ++ rest))) := .group hinside (ih h')
    simpa using hgroup

/-- A text without parentheses is balanced. -/
theorem of_forall (h : ∀ c ∈ text, c ≠ '(' ∧ c ≠ ')' ∧ free c) : Balanced free text := by
  induction text with
  | nil => exact .nil _
  | cons c cs ih =>
    obtain ⟨hopen, hclose, hfree⟩ := h c (by simp)
    exact .char hopen hclose hfree (ih fun d hd => h d (List.mem_cons_of_mem _ hd))

/-- Blanks are balanced, and nothing but a blank is outside of all parentheses. -/
theorem of_isBlank (h : ∀ c ∈ text, isBlank c = true) :
    Balanced (fun c => isBlank c = true) text :=
  of_forall fun c hc => by
    have hblank := h c hc
    refine ⟨?_, ?_, hblank⟩ <;> rintro rfl <;> exact absurd hblank (by decide)

end Balanced

/-! ## Depth -/

@[simp] theorem stepDepth_open (depth : Int) : stepDepth depth '(' = depth + 1 := rfl

@[simp] theorem stepDepth_close (depth : Int) : stepDepth depth ')' = depth - 1 := rfl

theorem stepDepth_of_ne {c : Char} (hopen : c ≠ '(') (hclose : c ≠ ')') (depth : Int) :
    stepDepth depth c = depth := by
  simp [stepDepth, hopen, hclose]

/-- No parenthesis is a cut. -/
@[simp] theorem isCut_open (cut : Char → Bool) (depth : Int) : isCut cut depth '(' = false := by
  simp [isCut]

@[simp] theorem isCut_close (cut : Char → Bool) (depth : Int) : isCut cut depth ')' = false := by
  simp [isCut]

theorem stepDepth_eq_add (depth : Int) (c : Char) : stepDepth depth c = depth + stepDepth 0 c := by
  unfold stepDepth
  split
  · omega
  split <;> omega

/-- A text adds the same to every depth. -/
theorem foldl_stepDepth (depth : Int) (text : List Char) :
    text.foldl stepDepth depth = depth + depthAfter text := by
  rw [depthAfter]
  induction text generalizing depth with
  | nil => simp
  | cons c cs ih =>
    rw [List.foldl_cons, List.foldl_cons, ih, ih (stepDepth 0 c), stepDepth_eq_add]
    omega

@[simp] theorem depthAfter_nil : depthAfter [] = 0 := rfl

theorem depthAfter_cons (c : Char) (cs : List Char) :
    depthAfter (c :: cs) = stepDepth 0 c + depthAfter cs := by
  rw [depthAfter, List.foldl_cons, foldl_stepDepth]

theorem depthAfter_append (first second : List Char) :
    depthAfter (first ++ second) = depthAfter first + depthAfter second := by
  rw [depthAfter, List.foldl_append, foldl_stepDepth]
  rfl

/-- A text that a group begins is cut in front of the group, inside of it or behind it. -/
theorem append_eq_group_cases {inside tail front rest : List Char}
    (h : front ++ rest = '(' :: (inside ++ ')' :: tail)) :
    front = [] ∨ (∃ inner others, front = '(' :: inner ∧ inside = inner ++ others) ∨
      ∃ back, front = '(' :: (inside ++ ')' :: back) ∧ tail = back ++ rest := by
  cases front with
  | nil => exact .inl rfl
  | cons c inner =>
    obtain ⟨rfl, htail⟩ := List.cons.inj h
    rcases List.append_eq_append_iff.1 htail with ⟨others, hinside, -⟩ | ⟨others, rfl, hclose⟩
    · exact .inr (.inl ⟨inner, others, rfl, hinside⟩)
    · cases others with
      | nil => exact .inr (.inl ⟨inside ++ [], [], rfl, by simp⟩)
      | cons d back =>
        obtain ⟨rfl, rfl⟩ := List.cons.inj hclose
        exact .inr (.inr ⟨back, rfl, rfl⟩)

namespace Balanced

variable {free : Char → Prop} {text : List Char}

/-- A balanced text ends at the depth at which it begins. -/
theorem depthAfter_eq (h : Balanced free text) : depthAfter text = 0 := by
  induction h with
  | nil => rfl
  | char hopen hclose _ _ ih => rw [depthAfter_cons, stepDepth_of_ne hopen hclose, ih]; rfl
  | group _ _ ihinside ih =>
    rw [depthAfter_cons, depthAfter_append, depthAfter_cons, ihinside, ih]
    rfl

/-- A balanced text never goes below the depth at which it begins. -/
theorem depthAfter_nonneg (h : Balanced free text) {front rest : List Char}
    (hsplit : front ++ rest = text) : 0 ≤ depthAfter front := by
  induction h generalizing front rest with
  | nil =>
    obtain ⟨rfl, -⟩ := List.append_eq_nil_iff.1 hsplit
    exact Int.le_refl 0
  | char hopen hclose _ _ ih =>
    rcases List.append_eq_cons_iff.1 hsplit with ⟨rfl, -⟩ | ⟨inner, rfl, hinner⟩
    · exact Int.le_refl 0
    · rw [depthAfter_cons, stepDepth_of_ne hopen hclose, Int.zero_add]
      exact ih hinner.symm
  | group hinside _ ihinside ih =>
    rcases append_eq_group_cases hsplit with rfl | ⟨inner, others, rfl, hinner⟩ | ⟨back, rfl, hback⟩
    · exact Int.le_refl 0
    · have hinner := ihinside hinner.symm
      rw [depthAfter_cons, stepDepth_open]
      omega
    · have hback := ih hback.symm
      rw [depthAfter_cons, depthAfter_append, depthAfter_cons, hinside.depthAfter_eq,
        stepDepth_open, stepDepth_close]
      omega

/-- **A balanced text cut at depth zero** gives two balanced texts. -/
theorem of_append {front rest : List Char} (h : Balanced free (front ++ rest))
    (hdepth : depthAfter front = 0) : Balanced free front ∧ Balanced free rest := by
  generalize hsplit : front ++ rest = text at h
  induction h generalizing front rest with
  | nil free =>
    obtain ⟨rfl, rfl⟩ := List.append_eq_nil_iff.1 hsplit
    exact ⟨.nil free, .nil free⟩
  | char hopen hclose hfree h ih =>
    rcases List.append_eq_cons_iff.1 hsplit with ⟨rfl, rfl⟩ | ⟨inner, rfl, rfl⟩
    · exact ⟨.nil _, .char hopen hclose hfree h⟩
    · rw [depthAfter_cons, stepDepth_of_ne hopen hclose, Int.zero_add] at hdepth
      obtain ⟨hfront, hrest⟩ := ih hdepth rfl
      exact ⟨.char hopen hclose hfree hfront, hrest⟩
  | group hinside h ihinside ih =>
    rcases append_eq_group_cases hsplit with rfl | ⟨inner, others, rfl, hinner⟩ | ⟨back, rfl, hback⟩
    · rw [List.nil_append] at hsplit
      exact ⟨.nil _, hsplit ▸ .group hinside h⟩
    · -- inside of the group the depth is not zero
      have hinner := hinside.depthAfter_nonneg hinner.symm
      rw [depthAfter_cons, stepDepth_open] at hdepth
      omega
    · rw [depthAfter_cons, depthAfter_append, depthAfter_cons, hinside.depthAfter_eq,
        stepDepth_open, stepDepth_close] at hdepth
      obtain ⟨hfront, hrest⟩ := ih (by omega) hback.symm
      exact ⟨.group hinside hfront, hrest⟩

end Balanced

/-! ## Cuts -/

theorem foldr_consHead (text piece : List Char) (pieces : List (List Char)) :
    text.foldr consHead (piece :: pieces) = (text ++ piece) :: pieces := by
  induction text with
  | nil => rfl
  | cons c cs ih => rw [List.foldr_cons, ih]; rfl

/-- **Cuts pass balanced texts**: the text becomes part of the first piece. -/
theorem Balanced.splitFrom_append {free : Char → Prop} {text : List Char} (h : Balanced free text)
    {cut : Char → Bool} {depth : Int} (hdepth : 0 ≤ depth)
    (hcut : depth = 0 → ∀ c, free c → cut c = false) (limit : Int) (made : Nat)
    (rest : List Char) :
    splitFrom cut depth limit made (text ++ rest) =
      text.foldr consHead (splitFrom cut depth limit made rest) := by
  induction h generalizing depth rest with
  | nil => rfl
  | @char free c cs hopen hclose hfree _ ih =>
    have hkeep : isCut cut depth c = false := by
      by_cases hzero : depth = 0
      · simp [isCut, hcut hzero c hfree]
      · simp [isCut, hzero]
    rw [List.cons_append, splitFrom, hkeep, stepDepth_of_ne hopen hclose, ih hdepth hcut]
    rfl
  | @group free inside tail _ _ ihinside ih =>
    have hdeeper : 0 ≤ depth + 1 := by omega
    have hinside := ihinside hdeeper (fun hzero => by omega) (')' :: (tail ++ rest))
    have hshape : '(' :: (inside ++ ')' :: tail) ++ rest =
        '(' :: (inside ++ ')' :: (tail ++ rest)) := by simp
    rw [hshape, splitFrom, isCut_open, stepDepth_open, if_neg Bool.false_ne_true, hinside,
      splitFrom, isCut_close, stepDepth_close, if_neg Bool.false_ne_true, Int.add_sub_cancel,
      ih hdepth hcut]
    simp

/-- A balanced text that holds no cut is one piece. -/
theorem Balanced.splitFrom_eq {free : Char → Prop} {text : List Char} (h : Balanced free text)
    {cut : Char → Bool} (hcut : ∀ c, free c → cut c = false) (limit : Int) (made : Nat) :
    splitFrom cut 0 limit made text = [text] := by
  have hpass := h.splitFrom_append (Int.le_refl 0) (fun _ => hcut) limit made []
  rwa [List.append_nil, splitFrom, foldr_consHead, List.append_nil] at hpass

/-- **A cut after a balanced text** ends a piece. -/
theorem Balanced.splitFrom_cut {free : Char → Prop} {text : List Char} (h : Balanced free text)
    {cut : Char → Bool} (hcut : ∀ c, free c → cut c = false) {separator : Char}
    (hseparator : isCut cut 0 separator = true) (rest : List Char) :
    splitFrom cut 0 (-1) 0 (text ++ separator :: rest) = text :: splitFrom cut 0 (-1) 0 rest := by
  rw [h.splitFrom_append (Int.le_refl 0) (fun _ => hcut), splitFrom_neg_one_cons,
    if_pos hseparator, foldr_consHead, List.append_nil]

/-- **The pieces of a balanced text are balanced**, and no cut is left in them outside of all
parentheses. -/
theorem Balanced.of_mem_splitFrom {free : Char → Prop} {text : List Char} (h : Balanced free text)
    (cut : Char → Bool) :
    ∀ piece ∈ splitFrom cut 0 (-1) 0 text, Balanced (fun c => free c ∧ cut c = false) piece := by
  induction h with
  | nil => exact List.forall_mem_singleton.2 (.nil _)
  | @char free c cs hopen hclose hfree _ ih =>
    rw [splitFrom_neg_one_cons]
    split
    · exact List.forall_mem_cons.2 ⟨.nil _, ih⟩
    · rename_i hkeep
      have hcut : cut c = false := by simpa [isCut, hopen, hclose] using hkeep
      rw [stepDepth_of_ne hopen hclose]
      obtain ⟨piece, others, hpieces⟩ :=
        List.exists_cons_of_ne_nil (splitFrom_ne_nil cut 0 (-1) 0 cs)
      rw [hpieces, List.forall_mem_cons] at ih
      rw [hpieces]
      exact List.forall_mem_cons.2 ⟨.char hopen hclose ⟨hfree, hcut⟩ ih.1, ih.2⟩
  | @group free inside tail hinside _ _ ih =>
    have hgroup : Balanced (fun _ => False) ('(' :: (inside ++ ')' :: [])) :=
      .group hinside (.nil _)
    have hpass : splitFrom cut 0 (-1) 0 ('(' :: (inside ++ ')' :: []) ++ tail) =
        ('(' :: (inside ++ ')' :: [])).foldr consHead (splitFrom cut 0 (-1) 0 tail) :=
      hgroup.splitFrom_append (Int.le_refl 0) (fun _ _ => False.elim) (-1) 0 tail
    obtain ⟨piece, others, hpieces⟩ :=
      List.exists_cons_of_ne_nil (splitFrom_ne_nil cut 0 (-1) 0 tail)
    rw [hpieces, List.forall_mem_cons] at ih
    rw [hpieces, foldr_consHead] at hpass
    have hshape : '(' :: (inside ++ ')' :: []) ++ tail = '(' :: (inside ++ ')' :: tail) := by simp
    have hpiece : '(' :: (inside ++ ')' :: []) ++ piece = '(' :: (inside ++ ')' :: piece) := by simp
    rw [hshape, hpiece] at hpass
    rw [hpass]
    exact List.forall_mem_cons.2 ⟨.group hinside ih.1, ih.2⟩

/-! ## Searches -/

/-- **The search for the closing parenthesis passes balanced texts.** -/
theorem Balanced.closesFrom_append {free : Char → Prop} {text : List Char}
    (h : Balanced free text) {depth : Int} (hdepth : 1 ≤ depth) (rest : List Char) :
    closesFrom depth (text ++ rest) = closesFrom depth rest := by
  induction h generalizing depth rest with
  | nil => rfl
  | @char free c cs hopen hclose _ _ ih =>
    rw [List.cons_append, closesFrom, stepDepth_of_ne hopen hclose, if_neg (by simp [hclose])]
    exact ih hdepth rest
  | @group free inside tail _ _ ihinside ih =>
    have hdeeper : 1 ≤ depth + 1 := by omega
    have hinside := ihinside hdeeper (')' :: (tail ++ rest))
    -- the partner of the first parenthesis returns to a depth that is still not zero
    have hdeep : ((')' == ')') && (depth + 1 == 1)) = false := by
      have hne : depth + 1 ≠ 1 := by omega
      simp [hne]
    have hshape : '(' :: (inside ++ ')' :: tail) ++ rest =
        '(' :: (inside ++ ')' :: (tail ++ rest)) := by simp
    rw [hshape, closesFrom, if_neg (by simp), stepDepth_open, hinside, closesFrom, hdeep,
      if_neg Bool.false_ne_true, stepDepth_close, Int.add_sub_cancel]
    exact ih hdepth rest

/-- **A parenthesis finds its partner**: the one after the balanced text that follows it. -/
theorem closesAtEnd_group {free : Char → Prop} {inside : List Char} (h : Balanced free inside)
    (rest : List Char) : closesAtEnd ('(' :: (inside ++ ')' :: rest)) = rest.isEmpty := by
  rw [closesAtEnd, closesFrom, if_neg (by simp), stepDepth_open, Int.zero_add,
    h.closesFrom_append (Int.le_refl 1), closesFrom, if_pos (by simp)]

/-- What the search for the closing parenthesis has passed when it comes back to the depth in which
it began: a balanced text.  If a parenthesis is still open then, the search goes on. -/
theorem exists_balanced_of_closesFrom : ∀ {n : Nat} {text : List Char},
    closesFrom (n + 1) text = true →
    ∃ inside rest, Balanced (fun _ => True) inside ∧ text = inside ++ ')' :: rest ∧
      if n = 0 then rest = [] else closesFrom n rest = true
  | n, [], h => by simp [closesFrom] at h
  | n, c :: cs, h => by
    rw [closesFrom] at h
    by_cases hclose : c = ')'
    · subst hclose
      refine ⟨[], cs, .nil _, rfl, ?_⟩
      cases n with
      | zero => simpa using h
      | succ n =>
        have hdeep : ¬ ((n : Int) + 1 + 1 = 1) := by omega
        simpa [hdeep] using h
    rw [if_neg (by simp [hclose])] at h
    by_cases hopen : c = '('
    · subst hopen
      rw [stepDepth_open] at h
      -- the group that begins here, and then what follows it at the same depth
      obtain ⟨inside, middle, hinside, rfl, hmiddle⟩ :=
        exists_balanced_of_closesFrom (n := n + 1) (by exact_mod_cast h)
      rw [if_neg (Nat.succ_ne_zero n)] at hmiddle
      obtain ⟨others, rest, hothers, rfl, hrest⟩ :=
        exists_balanced_of_closesFrom (n := n) (by exact_mod_cast hmiddle)
      exact ⟨'(' :: (inside ++ ')' :: others), rest, .group hinside hothers, by simp, hrest⟩
    · rw [stepDepth_of_ne hopen hclose] at h
      obtain ⟨inside, rest, hinside, rfl, hrest⟩ := exists_balanced_of_closesFrom h
      exact ⟨c :: inside, rest, .char hopen hclose trivial hinside, rfl, hrest⟩
termination_by _ text => text.length
decreasing_by
  all_goals subst_vars
  all_goals simp only [List.length_cons, List.length_append]
  all_goals omega

/-- **A parenthesis is closed by the last character** exactly if a balanced text stands between the
two. -/
theorem closesAtEnd_cons_iff {rest : List Char} :
    closesAtEnd ('(' :: rest) = true ↔
      ∃ inside, Balanced (fun _ => True) inside ∧ rest = inside ++ [')'] := by
  constructor
  · intro h
    rw [closesAtEnd, closesFrom, if_neg (by simp), stepDepth_open] at h
    obtain ⟨inside, rest, hinside, rfl, hrest⟩ := exists_balanced_of_closesFrom (n := 0) h
    rw [if_pos rfl] at hrest
    exact ⟨inside, hinside, by rw [hrest]⟩
  · rintro ⟨inside, hinside, rfl⟩
    exact closesAtEnd_group hinside []

/-- **The search for an operator passes balanced texts** that have no operator outside of all
parentheses. -/
theorem Balanced.findOperatorFrom_append {free : Char → Prop} {text : List Char}
    (h : Balanced free text) {depth : Int} (hdepth : 0 ≤ depth)
    (hfree : depth = 0 → ∀ c, free c → Operator.isSymbol c = false) (before rest : List Char) :
    Shape.findOperatorFrom before depth (text ++ rest) =
      Shape.findOperatorFrom (text.reverse ++ before) depth rest := by
  induction h generalizing depth before rest with
  | nil => rfl
  | @char free c cs hopen hclose hc _ ih =>
    have hskip : (Operator.isSymbol c && depth == 0 && Shape.endsInOperand before) = false := by
      by_cases hzero : depth = 0
      · simp [hfree hzero c hc]
      · simp [hzero]
    rw [List.cons_append, Shape.findOperatorFrom, hskip, stepDepth_of_ne hopen hclose,
      if_neg Bool.false_ne_true, ih hdepth hfree]
    simp
  | @group free inside tail _ _ ihinside ih =>
    have hdeeper : 0 ≤ depth + 1 := by omega
    have hinside := ihinside hdeeper (fun hzero => by omega) ('(' :: before)
      (')' :: (tail ++ rest))
    have hshape : '(' :: (inside ++ ')' :: tail) ++ rest =
        '(' :: (inside ++ ')' :: (tail ++ rest)) := by simp
    have hopen : Operator.isSymbol '(' = false := rfl
    have hclose : Operator.isSymbol ')' = false := rfl
    rw [hshape, Shape.findOperatorFrom, hopen, Bool.false_and, Bool.false_and,
      if_neg Bool.false_ne_true, stepDepth_open, hinside, Shape.findOperatorFrom, hclose,
      Bool.false_and, Bool.false_and, if_neg Bool.false_ne_true, stepDepth_close,
      Int.add_sub_cancel, ih hdepth hfree]
    simp

end Nesting
end LiveVectors

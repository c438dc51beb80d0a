import LiveVectors.Proofs.Changes
import Mathlib

/-!
# Broadcast arithmetic

Next to a vector a number stands for the vector that has it in both components.  Read like this, an
operator works component by component on operands of every kind, and the vector that it gives is a
new one.

* `Number.sum_comm` and `Number.product_comm` — the order of two summands or factors is of no
  account, not even for infinities and for what is not a number.
* `Store.operateByMethod` — the operators as methods of their operands, which change copies of them
  in place; `Store.outcome_operateByMethod` says that this makes no difference.
* `Snapshot.broadcast?` — the vector that a value is read as, and `Store.outcome_broadcast`, what
  an operator gives for all pairs of operands.
-/

set_option autoImplicit false

namespace LiveVectors

open LiveVectors.Action

/-! ## The order of summands and factors -/

namespace Number

open Float.Model in
/-- **Two summands can be swapped.** -/
theorem sum_comm (x y : Float) : x + y = y + x := by
  have hunpacked : ∀ p q : UnpackedFloat,
      UnpackedFloat.add .binary64 p q = UnpackedFloat.add .binary64 q p := by
    intro p q
    cases p with
    | notANumber => cases q <;> rfl
    | infinity sign =>
      cases q with
      | infinity sign' => cases sign <;> cases sign' <;> rfl
      | _ => rfl
    | zero sign =>
      cases q with
      | zero sign' => cases sign <;> cases sign' <;> rfl
      | _ => rfl
    | finite _ _ exponent =>
      cases q with
      | finite _ _ exponent' =>
        simp only [UnpackedFloat.add, Int.min_comm exponent exponent', Int.add_comm]
      | _ => rfl
  exact congrArg (fun sum => Float.ofModel (pack sum)) (hunpacked x.toModel.unpack y.toModel.unpack)

open Float.Model in
/-- **Two factors can be swapped.** -/
theorem product_comm (x y : Float) : x * y = y * x := by
  have hsign : ∀ sign sign' : UnpackedFloat.Sign, sign * sign' = sign' * sign := by
    intro sign sign'
    cases sign <;> cases sign' <;> rfl
  have hunpacked : ∀ p q : UnpackedFloat,
      UnpackedFloat.mul .binary64 p q = UnpackedFloat.mul .binary64 q p := by
    intro p q
    cases p <;> cases q <;> simp only [UnpackedFloat.mul, hsign, Nat.mul_comm, Int.add_comm]
  exact congrArg (fun product => Float.ofModel (pack product))
    (hunpacked x.toModel.unpack y.toModel.unpack)

end Number

/-! ## Operators as methods -/

namespace Arithmetic

/-- What an operator with a vector on its right does to the vector on its left. -/
def byVector : Arithmetic → Change
  | add => .add
  | subtract => .subtract
  | multiply => .multiply

/-- What an operator with a number on its right does to the vector on its left. -/
def byNumber : Arithmetic → Change
  | add => .addScalar
  | subtract => .subtractScalar
  | multiply => .scale

theorem result_byVector (operator : Arithmetic) (method : String) (v w : PlaneVector) :
    operator.byVector.result method v [.vector w] = .ok (v.zip operator.apply w) := by
  cases operator <;> rfl

theorem result_byNumber (operator : Arithmetic) (method : String) (v : PlaneVector) (y : Float) :
    operator.byNumber.result method v [.number y] = .ok (v.zip operator.apply (.diagonal y)) := by
  cases operator <;> rfl

/-- The operands of a sum or of a product can be swapped. -/
theorem apply_comm {operator : Arithmetic} (h : operator ≠ subtract) (x y : Float) :
    operator.apply x y = operator.apply y x := by
  cases operator with
  | add => exact Number.sum_comm x y
  | subtract => exact absurd rfl h
  | multiply => exact Number.product_comm x y

end Arithmetic

namespace Store

/-- An operator as a method of its operands: of the vector on the left, or else of the one on the
right.  A number that a vector is subtracted from is made a vector first. -/
def operateByMethod (symbol : String) (left right : Value) : Action Store Value :=
  match Arithmetic.ofSymbol? symbol with
  | none => Action.fail (.unknownOperator symbol)
  | some operator =>
    match left, right with
    | .number x, .number y => return .number (operator.apply x y)
    | .vector v, .vector w => perform (.changed operator.byVector) v [.vector w]
    | .vector v, .number y => perform (.changed operator.byNumber) v [.number y]
    | .number x, .vector w =>
      match operator with
      | .subtract => do perform (.change .subtract) (← allocate ⟨x, x⟩) [.vector w]
      | _ => perform (.changed operator.byNumber) w [.number x]
    | .number _, _ | .vector _, _ => do
      Action.fail (.badArgument (.unfitOperand symbol (← Action.inspect (·.snapshot right))))
    | _, _ => do
      Action.fail (.badArgument (.unfitOperand symbol (← Action.inspect (·.snapshot left))))

/-- Overwriting the vector that was made last is making another one in its place. -/
theorem set_push_self (store : Store) (v w : PlaneVector) :
    (store.push v).set store.size w = store.push w := by
  have hcells : (store.cells.push v).setIfInBounds store.cells.size w = store.cells.push w := by
    grind
  exact congrArg mk hcells

/-- The method that an operator is for a vector and a number makes what the operator makes. -/
theorem outcome_perform_byNumber (operator : Arithmetic) (v : VectorId) (y : Float)
    (store : Store) :
    (perform (.changed operator.byNumber) v [.number y]).outcome store =
      (.ok (.vector store.size),
        store.push ((store.get v).zip operator.apply (.diagonal y))) := by
  rw [outcome_perform_changed, List.map_singleton, snapshot, operator.result_byNumber]

/-- Values look the same after a vector is made. -/
theorem map_snapshot_push {arguments : List Value} {store : Store} (v : PlaneVector)
    (h : ∀ argument ∈ arguments, argument.Within store.size) :
    arguments.map (store.push v).snapshot = arguments.map store.snapshot :=
  List.map_congr_left fun argument hmem => snapshot_push v (h argument hmem)

theorem outcome_allocate (v : PlaneVector) (store : Store) :
    (allocate v).outcome store = (.ok store.size, store.push v) := by
  simp only [allocate, outcome_bind, outcome_inspect, outcome_update, outcome_pure]

/-- **To make a vector and change it in place** is to make what the change makes of it. -/
theorem outcome_change_made (change : Change) {arguments : List Value} {store : Store}
    {v w : PlaneVector} (h : ∀ argument ∈ arguments, argument.Within store.size)
    (hresult : change.result change.name v (arguments.map store.snapshot) = .ok w) :
    (do perform (.change change) (← allocate v) arguments : Action Store Value).outcome store =
      (.ok (.vector store.size), store.push w) := by
  simp only [outcome_bind, outcome_allocate, outcome_perform_change, map_snapshot_push _ h,
    get_push_self, hresult, set_push_self]

/-- **The methods of the operands give what the operator gives.** -/
theorem outcome_operateByMethod (symbol : String) {left right : Value} {store : Store}
    (hright : right.Within store.size) :
    (operateByMethod symbol left right).outcome store =
      (operate symbol left right).outcome store := by
  rw [outcome_operate, LiveVectors.operate, operateByMethod]
  cases Arithmetic.ofSymbol? symbol with
  | none => rfl
  | some operator =>
    cases left with
    | number x =>
      cases right with
      | number y => rfl
      | vector w =>
        -- the method belongs to the right operand, which comes first in it
        have hswap : operator ≠ .subtract → (store.get w).zip operator.apply (.diagonal x) =
            (PlaneVector.diagonal x).zip operator.apply (store.get w) := fun hcomm => by
          simp only [PlaneVector.zip, PlaneVector.diagonal, Arithmetic.apply_comm hcomm _ x]
        cases operator with
        | subtract =>
          exact outcome_change_made .subtract (List.forall_mem_singleton.2 hright)
            (Arithmetic.subtract.result_byVector _ ⟨x, x⟩ (store.get w))
        | add =>
          refine (outcome_perform_byNumber .add w x store).trans ?_
          rw [hswap (by decide)]
          rfl
        | multiply =>
          refine (outcome_perform_byNumber .multiply w x store).trans ?_
          rw [hswap (by decide)]
          rfl
      | _ => rfl
    | vector v =>
      cases right with
      | number y => exact outcome_perform_byNumber operator v y store
      | vector w =>
        dsimp only
        rw [outcome_perform_changed, List.map_singleton, snapshot, operator.result_byVector]
        rfl
      | _ => rfl
    | _ => rfl

end Store

/-! ## Operands of every kind -/

/-- The vector that a value is read as in arithmetic: a number twice, and a vector as it is.  No
other value is read as one. -/
def Snapshot.broadcast? : Snapshot → Option PlaneVector
  | .number x => some ⟨x, x⟩
  | .vector v => some v
  | _ => none

/-- **What is no operand is refused by its operator.** -/
theorem Quantity.ofSnapshot_of_broadcast? (symbol : String) {value : Snapshot}
    (h : value.broadcast? = none) :
    Quantity.ofSnapshot symbol value = .error (.badArgument (.unfitOperand symbol value)) := by
  cases value with
  | number x => cases h
  | vector v => cases h
  | _ => rfl

theorem Quantity.exists_ofSnapshot_of_broadcast? (symbol : String) {value : Snapshot}
    {v : PlaneVector} (h : value.broadcast? = some v) :
    ∃ q, Quantity.ofSnapshot symbol value = .ok q := by
  cases value with
  | number x => exact ⟨_, rfl⟩
  | vector v => exact ⟨_, rfl⟩
  | _ => cases h

/-- The three operators and what each of them makes of two numbers. -/
theorem Arithmetic.exists_of_mem {symbol : String} {operation : Float → Float → Float}
    (h : (symbol, operation) ∈ [("+", (· + ·)), ("-", (· - ·)), ("*", (· * ·))]) :
    ∃ operator, Arithmetic.ofSymbol? symbol = some operator ∧ operator.apply = operation := by
  simp only [List.mem_cons, List.not_mem_nil, or_false, Prod.mk.injEq] at h
  rcases h with ⟨rfl, rfl⟩ | ⟨rfl, rfl⟩ | ⟨rfl, rfl⟩
  · exact ⟨.add, rfl, rfl⟩
  · exact ⟨.subtract, rfl, rfl⟩
  · exact ⟨.multiply, rfl, rfl⟩

namespace Store

variable {symbol : String} {operator : Arithmetic} {left right : Value} {store : Store}

theorem outcome_operate_of_left (hsymbol : Arithmetic.ofSymbol? symbol = some operator)
    (hleft : (store.snapshot left).broadcast? = none) :
    (operate symbol left right).outcome store =
      (.error (.badArgument (.unfitOperand symbol (store.snapshot left))), store) := by
  rw [outcome_operate, LiveVectors.operate, hsymbol]
  dsimp only
  rw [Quantity.ofSnapshot_of_broadcast? symbol hleft]
  rfl

theorem outcome_operate_of_right (hsymbol : Arithmetic.ofSymbol? symbol = some operator)
    (hleft : (store.snapshot left).broadcast? ≠ none)
    (hright : (store.snapshot right).broadcast? = none) :
    (operate symbol left right).outcome store =
      (.error (.badArgument (.unfitOperand symbol (store.snapshot right))), store) := by
  obtain ⟨v, hv⟩ := Option.ne_none_iff_exists'.1 hleft
  obtain ⟨q, hq⟩ := Quantity.exists_ofSnapshot_of_broadcast? symbol hv
  rw [outcome_operate, LiveVectors.operate, hsymbol]
  dsimp only
  rw [hq, Quantity.ofSnapshot_of_broadcast? symbol hright]
  rfl

/-- **With a vector on either side** a new vector is made, component by component. -/
theorem outcome_operate_of_vector (hsymbol : Arithmetic.ofSymbol? symbol = some operator)
    (hvector : left.vectorId? ≠ none ∨ right.vectorId? ≠ none) {v w : PlaneVector}
    (hleft : (store.snapshot left).broadcast? = some v)
    (hright : (store.snapshot right).broadcast? = some w) :
    (operate symbol left right).outcome store =
      (.ok (.vector store.size), store.push (v.zip operator.apply w)) := by
  rw [outcome_operate, LiveVectors.operate, hsymbol]
  cases left with
  | number x =>
    obtain rfl := Option.some.inj hleft
    cases right with
    | number y => exact (hvector.elim (· rfl) (· rfl)).elim
    | vector id =>
      obtain rfl := Option.some.inj hright
      rfl
    | _ => cases hright
  | vector id =>
    obtain rfl := Option.some.inj hleft
    cases right with
    | number y =>
      obtain rfl := Option.some.inj hright
      rfl
    | vector id' =>
      obtain rfl := Option.some.inj hright
      rfl
    | _ => cases hright
  | _ => cases hleft

/-- **Broadcast arithmetic.**  An operator other than the three is refused, whatever its operands.
Next comes an operand that is neither a number nor a vector, the left one before the right one.  Two
numbers give a number.  With a vector on either side the result is a new vector, whose components
are made from those of the operands, a number being read as the vector that has it twice; the two
operands may be one and the same vector.  In no case does a vector change that was there before,
and the methods of the operands give the same. -/
theorem outcome_broadcast (symbol : String) {left right : Value} {store : Store}
    (hleft : left.Within store.size) (hright : right.Within store.size) :
    (symbol ∉ ["+", "-", "*"] →
      (operate symbol left right).outcome store = (.error (.unknownOperator symbol), store)) ∧
    (∀ operation, (symbol, operation) ∈ [("+", (· + ·)), ("-", (· - ·)), ("*", (· * ·))] →
      ((store.snapshot left).broadcast? = none →
        (operate symbol left right).outcome store =
          (.error (.badArgument (.unfitOperand symbol (store.snapshot left))), store)) ∧
      ((store.snapshot left).broadcast? ≠ none → (store.snapshot right).broadcast? = none →
        (operate symbol left right).outcome store =
          (.error (.badArgument (.unfitOperand symbol (store.snapshot right))), store)) ∧
      (∀ x y, left = .number x → right = .number y →
        (operate symbol left right).outcome store = (.ok (.number (operation x y)), store)) ∧
      ∀ v w, (store.snapshot left).broadcast? = some v →
        (store.snapshot right).broadcast? = some w →
        left.vectorId? ≠ none ∨ right.vectorId? ≠ none →
        ∃ id after, (operate symbol left right).outcome store = (.ok (.vector id), after) ∧
          store.size ≤ id ∧ id < after.size ∧
          left.vectorId? ≠ some id ∧ right.vectorId? ≠ some id ∧
          after.get id = ⟨operation v.x w.x, operation v.y w.y⟩ ∧
          ∀ other < store.size, after.get other = store.get other) ∧
    (operateByMethod symbol left right).outcome store =
      (operate symbol left right).outcome store := by
  refine ⟨fun hsymbol => ?_, fun operation hoperation => ?_,
    outcome_operateByMethod symbol hright⟩
  · have hnone : Arithmetic.ofSymbol? symbol = none := by
      simp only [List.mem_cons, List.not_mem_nil, or_false, not_or] at hsymbol
      simp [Arithmetic.ofSymbol?, hsymbol]
    rw [outcome_operate, LiveVectors.operate, hnone]
  · obtain ⟨operator, hsymbol, rfl⟩ := Arithmetic.exists_of_mem hoperation
    refine ⟨outcome_operate_of_left hsymbol, outcome_operate_of_right hsymbol, ?_, ?_⟩
    · rintro x y rfl rfl
      rw [outcome_operate, LiveVectors.operate, hsymbol]
      rfl
    · intro v w hv hw hvector
      have hnew : ∀ {value : Value}, value.Within store.size →
          value.vectorId? ≠ some store.size := fun hwithin hid =>
        Nat.lt_irrefl _ (hwithin _ hid)
      exact ⟨store.size, _, outcome_operate_of_vector hsymbol hvector hv hw, Nat.le_refl _,
        by simp, hnew hleft, hnew hright, get_push_self store _,
        fun _ hlt => get_push_lt store _ hlt⟩

/-- A number less a vector. -/
theorem outcome_broadcast_difference :
    (Value.number 5).Within 1 ∧ (Value.vector 0).Within 1 ∧
      ∃ id after, (operate "-" (.number 5) (.vector 0)).outcome ⟨#[⟨1, 2⟩]⟩ =
          (.ok (.vector id), after) ∧
        id ≠ 0 ∧ after.get id = ⟨4, 3⟩ ∧ after.get 0 = ⟨1, 2⟩ := by
  have hleft : (Value.number 5).Within 1 := Value.within_number 1 5
  have hright : (Value.vector 0).Within 1 := Value.within_vector.2 Nat.one_pos
  obtain ⟨-, hoperation, -⟩ :=
    @outcome_broadcast "-" (.number 5) (.vector 0) ⟨#[⟨1, 2⟩]⟩ hleft hright
  obtain ⟨-, -, -, hvector⟩ := hoperation (· - ·) (by simp)
  obtain ⟨id, after, houtcome, -, -, -, hne, hget, hkeep⟩ :=
    hvector ⟨5, 5⟩ ⟨1, 2⟩ rfl rfl (.inr nofun)
  refine ⟨hleft, hright, id, after, houtcome, fun hid => hne (hid ▸ rfl), hget.trans ?_,
    hkeep 0 Nat.one_pos⟩
  decide +kernel

end Store
end LiveVectors

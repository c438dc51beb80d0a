import LiveVectors.Plane.Method
import Mathlib

/-!
# Rounding finite numbers

A finite number is read as a dyadic one, so it has a nearest integer.

* `Number.exists_read_eq_finite` — what the library calls finite is read as finite.
* `Number.exists_roundToInteger` and `Change.roundComponent_of_isFinite` — rounding it succeeds.
* `Number.isFinite_of_read_eq` and `Change.isFinite_of_roundComponent` — nothing else is read as
  finite or can be rounded.
* `Change.roundComponent_error_cases` — the two reasons why a number cannot be rounded.
-/

set_option autoImplicit false

namespace LiveVectors
namespace Number

/-- The library and `read` take the exponent from the same bits. -/
theorem toNat_unpackExponent (x : Float) :
    (@Float.Model.UnpackedFloat.unpackExponent Float.Model.Format.binary64
      x.toModel.toBits.toBitVec).toNat = x.toBits.toNat >>> 52 % 1 <<< 11 := by
  simp [Float.Model.UnpackedFloat.unpackExponent, BitVec.extractLsb, Float.toBits]

/-- The library and `read` take the fraction from the same bits. -/
theorem toNat_unpackMantissa (x : Float) :
    (@Float.Model.UnpackedFloat.unpackMantissa Float.Model.Format.binary64
      x.toModel.toBits.toBitVec).toNat = x.toBits.toNat % 1 <<< 52 := by
  simp [Float.Model.UnpackedFloat.unpackMantissa, BitVec.extractLsb, Float.toBits]

/-- An exponent of ones is that of an infinity or of no number at all. -/
theorem unpackExponent_eq {x : Float} (h : x.toBits.toNat >>> 52 % 1 <<< 11 = 2047) :
    @Float.Model.UnpackedFloat.unpackExponent Float.Model.Format.binary64
      x.toModel.toBits.toBitVec = -1#_ := by
  apply BitVec.eq_of_toNat_eq
  rw [toNat_unpackExponent, h]
  rfl

/-- What the library calls finite is read as a dyadic number. -/
theorem exists_read_eq_finite {x : Float} (h : x.isFinite = true) :
    ∃ negative mantissa exponent, read x = .finite negative mantissa exponent := by
  simp only [read]
  split
  · rename_i hpower
    exfalso
    revert h
    simp only [Float.isFinite, Float.Model.isFinite, Float.Model.unpack,
      Float.Model.UnpackedFloat.unpack, unpackExponent_eq (eq_of_beq hpower), if_true]
    split <;> simp [Float.Model.UnpackedFloat.isFinite]
  · split <;> exact ⟨_, _, _, rfl⟩

theorem exists_roundToInteger {x : Float} (h : x.isFinite = true) :
    ∃ rounded, roundToInteger x = .ok rounded := by
  obtain ⟨negative, mantissa, exponent, hread⟩ := exists_read_eq_finite h
  rw [roundToInteger, nearestInteger, hread]
  exact ⟨_, rfl⟩

/-- What is read as a dyadic number is what the library calls finite. -/
theorem isFinite_of_read_eq {x : Float} {negative : Bool} {mantissa : Nat} {exponent : Int}
    (h : read x = .finite negative mantissa exponent) : x.isFinite = true := by
  have hones : @Float.Model.UnpackedFloat.unpackExponent Float.Model.Format.binary64
      x.toModel.toBits.toBitVec ≠ -1#_ := by
    intro hones
    -- an exponent of ones is not read as finite
    have hpower : x.toBits.toNat >>> 52 % 1 <<< 11 = 2047 := by
      rw [← toNat_unpackExponent, hones]
      rfl
    simp only [read, hpower, beq_self_eq_true, if_true] at h
    split at h <;> cases h
  simp only [Float.isFinite, Float.Model.isFinite, Float.Model.unpack,
    Float.Model.UnpackedFloat.unpack, hones, if_false]
  split
  · split <;> rfl
  · rfl

/-- What is read as no number is what the library calls not a number. -/
theorem isNaN_of_read_eq {x : Float} (h : read x = .notANumber) : x.isNaN = true := by
  simp only [read] at h
  split at h
  · rename_i hpower
    split at h
    · cases h
    · rename_i hfraction
      have hmantissa : @Float.Model.UnpackedFloat.unpackMantissa Float.Model.Format.binary64
          x.toModel.toBits.toBitVec ≠ 0#_ := by
        intro heq
        rw [← toNat_unpackMantissa, heq] at hfraction
        exact hfraction rfl
      simp only [Float.isNaN, Float.Model.isNaN, Float.Model.unpack,
        Float.Model.UnpackedFloat.unpack, unpackExponent_eq (eq_of_beq hpower), if_true, hmantissa,
        if_false, Float.Model.UnpackedFloat.isNaN]
  · split at h <;> cases h

/-- What is read as infinite is what the library calls infinite. -/
theorem isInf_of_read_eq {x : Float} {negative : Bool} (h : read x = .infinite negative) :
    x.isInf = true := by
  simp only [read] at h
  split at h
  · rename_i hpower
    split at h
    · rename_i hfraction
      have hmantissa : @Float.Model.UnpackedFloat.unpackMantissa Float.Model.Format.binary64
          x.toModel.toBits.toBitVec = 0#_ := by
        apply BitVec.eq_of_toNat_eq
        rw [toNat_unpackMantissa, eq_of_beq hfraction]
        rfl
      simp only [Float.isInf, Float.Model.isInf, Float.Model.unpack,
        Float.Model.UnpackedFloat.unpack, unpackExponent_eq (eq_of_beq hpower), if_true, hmantissa,
        Float.Model.UnpackedFloat.isInf]
    · cases h
  · split at h <;> cases h

end Number

/-- A finite component of a vector can be rounded. -/
theorem Change.roundComponent_of_isFinite {x : Float} (h : x.isFinite = true) :
    ∃ rounded, Change.roundComponent x = .ok rounded := by
  obtain ⟨rounded, hrounded⟩ := Number.exists_roundToInteger h
  rw [Change.roundComponent, hrounded]
  exact ⟨_, rfl⟩

/-- Only a finite component of a vector can be rounded. -/
theorem Change.isFinite_of_roundComponent {x rounded : Float}
    (h : Change.roundComponent x = .ok rounded) : x.isFinite = true := by
  rw [Change.roundComponent, Number.roundToInteger, Number.nearestInteger] at h
  cases hread : Number.read x with
  | finite negative mantissa exponent => exact Number.isFinite_of_read_eq hread
  | notANumber =>
    rw [hread] at h
    cases h
  | infinite negative =>
    rw [hread] at h
    cases h

/-- **Why a component cannot be rounded**: it is no number, or it is infinite. -/
theorem Change.roundComponent_error_cases {x : Float} {fault : Fault}
    (h : Change.roundComponent x = .error fault) :
    x.isNaN = true ∧ fault = .breakdown .roundsNotANumber ∨
      x.isInf = true ∧ fault = .breakdown .roundsInfinity := by
  rw [Change.roundComponent, Number.roundToInteger, Number.nearestInteger] at h
  cases hread : Number.read x with
  | finite negative mantissa exponent =>
    rw [hread] at h
    cases h
  | notANumber =>
    rw [hread] at h
    cases h
    exact .inl ⟨Number.isNaN_of_read_eq hread, rfl⟩
  | infinite negative =>
    rw [hread] at h
    cases h
    exact .inr ⟨Number.isInf_of_read_eq hread, rfl⟩

end LiveVectors

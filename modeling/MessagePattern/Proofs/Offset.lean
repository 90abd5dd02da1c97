import Mathlib
import MessagePattern.Number

set_option autoImplicit false

namespace MessagePattern

namespace IntegerType

theorem maximum_sub_minimum (type : IntegerType) :
    type.maximum - type.minimum = type.modulus - 1 := by
  obtain ⟨signed, size⟩ := type
  cases signed <;> cases size <;> decide

theorem wrap_modEq (type : IntegerType) (value : Int) :
    type.wrap value ≡ value [ZMOD type.modulus] := by
  unfold wrap
  split
  next => exact Int.bmod_emod
  next => exact Int.mod_modEq value type.modulus

variable {type : IntegerType}

theorem Holds.eq_of_modEq {first second : Int} (firstHolds : type.Holds first)
    (secondHolds : type.Holds second) (congruent : first ≡ second [ZMOD type.modulus]) :
    first = second := by
  have width := type.maximum_sub_minimum
  obtain ⟨firstLow, firstHigh⟩ := firstHolds
  obtain ⟨secondLow, secondHigh⟩ := secondHolds
  have near : |second - first| < type.modulus := by
    rw [abs_lt]
    omega
  have same := Int.eq_zero_of_abs_lt_dvd congruent.dvd near
  omega

theorem wrap_eq_iff {value result : Int} :
    type.wrap value = result ↔ type.Holds result ∧ result ≡ value [ZMOD type.modulus] := by
  constructor
  · rintro rfl
    exact ⟨type.holds_wrap value, type.wrap_modEq value⟩
  · rintro ⟨holds, congruent⟩
    exact (type.holds_wrap value).eq_of_modEq holds ((type.wrap_modEq value).trans congruent.symm)

theorem Holds.wrap_eq {value : Int} (holds : type.Holds value) : type.wrap value = value :=
  wrap_eq_iff.mpr ⟨holds, rfl⟩

theorem wrap_congr {first second : Int} (congruent : first ≡ second [ZMOD type.modulus]) :
    type.wrap first = type.wrap second :=
  wrap_eq_iff.mpr ⟨type.holds_wrap second, (type.wrap_modEq second).trans congruent.symm⟩

-- No type is wider than offsets are.
theorem modulus_dvd_long (type : IntegerType) : (type.modulus : Int) ∣ long.modulus := by
  obtain ⟨signed, size⟩ := type
  cases signed <;> cases size <;> decide

theorem long_wrap_modEq (type : IntegerType) (value : Int) :
    long.wrap value ≡ value [ZMOD type.modulus] :=
  (long.wrap_modEq value).of_dvd type.modulus_dvd_long

end IntegerType

namespace FixedInteger

open IntegerType

theorem wrap_congr {type : IntegerType} {first second : Int}
    (congruent : first ≡ second [ZMOD type.modulus]) : wrap type first = wrap type second := by
  simp only [wrap, IntegerType.wrap_congr congruent]

-- No cast on the way loses what the width of the integer keeps.
theorem minus_eq_wrap (integer : FixedInteger) (offset : Int) :
    integer.minus offset = wrap integer.type (integer.value - offset) := by
  have inside : long.wrap integer.value - offset ≡ integer.value - offset
      [ZMOD integer.type.modulus] := (integer.type.long_wrap_modEq integer.value).sub_right offset
  exact wrap_congr ((integer.type.long_wrap_modEq _).trans inside)

theorem minus_modEq (integer : FixedInteger) (offset : Int) :
    (integer.minus offset).value ≡ integer.value - offset [ZMOD integer.type.modulus] := by
  rw [minus_eq_wrap]
  exact integer.type.wrap_modEq _

theorem eq_minus_iff {integer other : FixedInteger} {offset : Int} :
    other = integer.minus offset ↔
      other.type = integer.type ∧
        other.value ≡ integer.value - offset [ZMOD integer.type.modulus] := by
  constructor
  · rintro rfl
    exact ⟨rfl, integer.minus_modEq offset⟩
  · obtain ⟨type, value, holds⟩ := other
    rintro ⟨rfl, congruent⟩
    have same : integer.type.wrap (integer.value - offset) = value :=
      wrap_eq_iff.mpr ⟨holds, congruent⟩
    simp only [minus_eq_wrap, wrap, same]

theorem minus_of_holds {integer : FixedInteger} {offset : Int}
    (holds : integer.type.Holds (integer.value - offset)) :
    (integer.minus offset).value = integer.value - offset := by
  rw [minus_eq_wrap]
  exact holds.wrap_eq

theorem minus_minus (integer : FixedInteger) (first second : Int) :
    (integer.minus first).minus second = integer.minus (long.wrap (first + second)) := by
  refine eq_minus_iff.mpr ⟨rfl, ?_⟩
  calc ((integer.minus first).minus second).value
    _ ≡ (integer.minus first).value - second [ZMOD integer.type.modulus] :=
        (integer.minus first).minus_modEq second
    _ ≡ integer.value - first - second [ZMOD integer.type.modulus] :=
        (integer.minus_modEq first).sub_right second
    _ = integer.value - (first + second) := by ring
    _ ≡ integer.value - long.wrap (first + second) [ZMOD integer.type.modulus] :=
        (integer.type.long_wrap_modEq _).symm.sub_left integer.value

theorem minus_zero (integer : FixedInteger) : integer.minus 0 = integer :=
  (eq_minus_iff.mpr ⟨rfl, by rw [sub_zero]⟩).symm

end FixedInteger

end MessagePattern

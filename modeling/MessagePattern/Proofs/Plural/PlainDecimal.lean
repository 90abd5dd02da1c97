import MessagePattern.Proofs.Plural.WrittenDecimal

set_option autoImplicit false

namespace MessagePattern

open DecimalNumber

namespace Operands

def displayed (operands : Operands) : WrittenDecimal where
  negative := false
  whole := Nat.toDigits 10 operands.i
  fraction? := if operands.v = 0 then none else some (padded operands.v operands.f)
  wholeDigits := isDigits_toDigits operands.i
  fractionDigits := by
    split
    next => exact fun _ member => absurd member List.not_mem_nil
    next => exact isDigits_padded operands.v operands.f
  nonempty := by simp

theorem displayed_spells (operands : Operands) : operands.displayed.Spells operands.display := by
  have spelling : operands.displayed.spelling =
      joinPoint (Nat.toDigits 10 operands.i)
        (if operands.v = 0 then none else some (padded operands.v operands.f)) := rfl
  rw [WrittenDecimal.Spells, spelling, display]
  split
  next => exact Nat.toList_repr
  next =>
    simp only [String.toList_append, String.toList_ofList, Nat.toList_repr, List.append_assoc]
    rfl

end Operands

namespace WrittenDecimal

def plain (decimal : WrittenDecimal) : WrittenDecimal where
  negative := false
  whole := plainDigits decimal.whole
  fraction? := if decimal.fraction = [] then none else some decimal.fraction
  wholeDigits := isDigits_plainDigits decimal.wholeDigits
  fractionDigits := by
    split
    next => exact fun _ member => absurd member List.not_mem_nil
    next => exact decimal.fractionDigits
  nonempty := by simp [plainDigits_ne_nil]

@[simp] theorem plain_fraction (decimal : WrittenDecimal) :
    decimal.plain.fraction = decimal.fraction := by
  rw [fraction, plain]
  split
  next none => exact none.symm
  next => rfl

@[simp] theorem plain_operands (decimal : WrittenDecimal) :
    decimal.plain.operands = decimal.operands := by
  have whole : numberOf decimal.plain.whole = numberOf decimal.whole :=
    numberOf_plainDigits decimal.whole
  simp only [operands, plain_fraction, whole]

-- The zeros that a number loses in front come back where it is known how many digits there were,
-- which is behind the point only.
theorem displayed_operands (decimal : WrittenDecimal) : decimal.operands.displayed = decimal.plain := by
  have whole : Nat.toDigits 10 (numberOf decimal.whole) = plainDigits decimal.whole :=
    toDigits_numberOf decimal.wholeDigits
  have fraction : (if decimal.fraction.length = 0 then none
      else some (padded decimal.fraction.length (numberOf decimal.fraction))) =
      if decimal.fraction = [] then none else some decimal.fraction := by
    by_cases none : decimal.fraction = []
    next => simp [none]
    next =>
      have padded : padded decimal.fraction.length (numberOf decimal.fraction) = decimal.fraction :=
        padded_numberOf decimal.fractionDigits none
      rw [if_neg (mt List.length_eq_zero_iff.mp none), if_neg none, padded]
  simp only [Operands.displayed, plain, WrittenDecimal.mk.injEq, true_and]
  exact ⟨whole, fraction⟩

theorem plain_spells_display (decimal : WrittenDecimal) :
    decimal.plain.Spells decimal.operands.display :=
  decimal.displayed_operands ▸ decimal.operands.displayed_spells

theorem InRange.plain {decimal : WrittenDecimal} (inRange : decimal.InRange) :
    decimal.plain.InRange := by
  obtain ⟨whole, fraction⟩ := inRange
  refine ⟨?_, ?_⟩
  · exact (numberOf_plainDigits decimal.whole).trans_le whole
  · rwa [plain_fraction]

end WrittenDecimal

namespace Operands

theorem ofDecimal_display {text : String} {operands : Operands}
    (read : ofDecimal text = .ok operands) : ofDecimal operands.display = .ok operands := by
  obtain ⟨decimal, _, inRange, rfl⟩ := ofDecimal_eq_ok_iff.mp read
  refine ofDecimal_eq_ok_iff.mpr ⟨decimal.plain, ?_, inRange.plain, decimal.plain_operands⟩
  exact decimal.plain_spells_display

/-- What is displayed is the decimal in its plain form. It is read as the operands that are
displayed, so no two operands that were read are displayed alike. -/
theorem display_roundTrip {text : String} {operands : Operands}
    (read : ofDecimal text = .ok operands) :
    ofDecimal operands.display = .ok operands ∧
    (∃ decimal : WrittenDecimal, decimal.Spells text) ∧
    (∀ decimal : WrittenDecimal, decimal.Spells text -> decimal.plain.Spells operands.display) ∧
    ∀ otherText other, ofDecimal otherText = .ok other -> other.display = operands.display ->
      other = operands := by
  refine ⟨ofDecimal_display read, ?spelled, ?plain, ?injective⟩
  case spelled =>
    obtain ⟨decimal, spells, -⟩ := ofDecimal_eq_ok_iff.mp read
    exact ⟨decimal, spells⟩
  case plain =>
    intro decimal spells
    rw [ofDecimal_of_inRange spells (inRange_of_ofDecimal spells read)] at read
    cases read
    exact decimal.plain_spells_display
  case injective =>
    intro otherText other otherRead same
    have again := ofDecimal_display otherRead
    rw [same, ofDecimal_display read] at again
    exact (Except.ok.inj again).symm

def paddedDecimal : WrittenDecimal where
  negative := true
  whole := ['0', '0']
  fraction? := some ['0', '5', '0']
  wholeDigits := by decide
  fractionDigits := by decide
  nonempty := by decide

theorem display_roundTrip_padded :
    ofDecimal "-00.050" = .ok { i := 0, v := 3, w := 2, f := 50, t := 5 } ∧
      ofDecimal "0.050" = .ok { i := 0, v := 3, w := 2, f := 50, t := 5 } ∧
      paddedDecimal.Spells "-00.050" ∧
      paddedDecimal.plain.Spells "0.050" ∧
      ofDecimal ".05" = .ok { i := 0, v := 2, w := 2, f := 5, t := 5 } ∧
      display { i := 0, v := 2, w := 2, f := 5, t := 5 } ≠ "0.050" := by
  have read : ofDecimal "-00.050" = .ok { i := 0, v := 3, w := 2, f := 50, t := 5 } := rfl
  have displayed : display { i := 0, v := 3, w := 2, f := 50, t := 5 } = "0.050" := rfl
  have spells : paddedDecimal.Spells "-00.050" := by decide
  have shorter : ofDecimal ".05" = .ok { i := 0, v := 2, w := 2, f := 5, t := 5 } := rfl
  obtain ⟨again, -, plain, injective⟩ := display_roundTrip read
  rw [displayed] at again plain injective
  refine ⟨read, again, spells, plain paddedDecimal spells, shorter, fun same => ?_⟩
  cases injective ".05" _ shorter same

end Operands

end MessagePattern

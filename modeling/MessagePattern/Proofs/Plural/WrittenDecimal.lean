import Mathlib
import MessagePattern.Plural.Operands
import MessagePattern.Proofs.Digits
import MessagePattern.Proofs.Outcome

set_option autoImplicit false

namespace MessagePattern

open DecimalNumber

def joinPoint (whole : List Char) : Option (List Char) -> List Char
  | none => whole
  | some fraction => whole ++ '.' :: fraction

def putMinus (negative : Bool) (unsigned : List Char) : List Char :=
  if negative then '-' :: unsigned else unsigned

structure WrittenDecimal where
  negative : Bool
  whole : List Char
  fraction? : Option (List Char)
  wholeDigits : IsDigits whole
  fractionDigits : IsDigits (fraction?.getD [])
  nonempty : whole ++ fraction?.getD [] ≠ []

namespace WrittenDecimal

def fraction (decimal : WrittenDecimal) : List Char :=
  decimal.fraction?.getD []

def unsigned (decimal : WrittenDecimal) : List Char :=
  joinPoint decimal.whole decimal.fraction?

def spelling (decimal : WrittenDecimal) : List Char :=
  putMinus decimal.negative decimal.unsigned

def Spells (decimal : WrittenDecimal) (text : String) : Prop :=
  text.toList = decimal.spelling

instance (decimal : WrittenDecimal) (text : String) : Decidable (decimal.Spells text) :=
  inferInstanceAs (Decidable (text.toList = decimal.spelling))

-- All the digits make a whole number, of which the point takes off a power of ten.
def value (decimal : WrittenDecimal) : ℚ :=
  (if decimal.negative then -1 else 1) *
    numberOf (decimal.whole ++ decimal.fraction) / 10 ^ decimal.fraction.length

def InRange (decimal : WrittenDecimal) : Prop :=
  numberOf decimal.whole ≤ Operands.maxOperand ∧ numberOf decimal.fraction ≤ Operands.maxOperand

def operands (decimal : WrittenDecimal) : Operands :=
  { i := numberOf decimal.whole
    v := decimal.fraction.length
    w := (dropTrailingZeros decimal.fraction).length
    f := numberOf decimal.fraction
    t := numberOf (dropTrailingZeros decimal.fraction) }

end WrittenDecimal

structure Operands.Describes (operands : Operands) (decimal : WrittenDecimal) : Prop where
  whole : operands.i = numberOf decimal.whole
  digits : operands.v = decimal.fraction.length
  fraction : operands.f = numberOf decimal.fraction
  fraction_lt : operands.f < 10 ^ operands.v
  fewer : operands.w ≤ operands.v
  trailing : operands.f = operands.t * 10 ^ (operands.v - operands.w)
  shortest : operands.t = 0 ∨ ¬ 10 ∣ operands.t
  noneLeft : operands.w = 0 ↔ operands.t = 0
  noFraction : operands.t = 0 ↔ operands.f = 0
  value : (operands.i : ℚ) + operands.f / 10 ^ operands.v = |decimal.value|

namespace WrittenDecimal

theorem abs_value (decimal : WrittenDecimal) :
    (numberOf decimal.whole : ℚ) + numberOf decimal.fraction / 10 ^ decimal.fraction.length =
      |decimal.value| := by
  have positive : (0 : ℚ) < 10 ^ decimal.fraction.length := by positivity
  have whole : |decimal.value| =
      numberOf (decimal.whole ++ decimal.fraction) / 10 ^ decimal.fraction.length := by
    have nonneg : (0 : ℚ) ≤
        numberOf (decimal.whole ++ decimal.fraction) / 10 ^ decimal.fraction.length := by positivity
    rw [value, mul_div_assoc, abs_mul, abs_of_nonneg nonneg]
    split <;> simp
  rw [whole, numberOf_append]
  push_cast
  field_simp

theorem operands_describes (decimal : WrittenDecimal) : decimal.operands.Describes decimal where
  whole := rfl
  digits := rfl
  fraction := rfl
  fraction_lt := numberOf_lt decimal.fractionDigits
  fewer := length_dropTrailingZeros_le decimal.fraction
  trailing := numberOf_eq_mul decimal.fraction
  shortest := by
    by_cases none : dropTrailingZeros decimal.fraction = []
    next => exact .inl ((numberOf_dropTrailingZeros_eq_zero decimal.fractionDigits).mpr none)
    next => exact .inr (not_dvd_numberOf decimal.fractionDigits none)
  noneLeft :=
    List.length_eq_zero_iff.trans (numberOf_dropTrailingZeros_eq_zero decimal.fractionDigits).symm
  noFraction := by
    have product := numberOf_eq_mul decimal.fraction
    simp only [operands]
    rw [product]
    simp
  value := decimal.abs_value

end WrittenDecimal

namespace Operands

theorem splitPoint_joinPoint {whole : List Char} (noPoint : '.' ∉ whole)
    (fraction? : Option (List Char)) :
    splitPoint (joinPoint whole fraction?) = (whole, fraction?.getD []) := by
  have notPoint : ∀ character ∈ whole, (character != '.') = true :=
    fun character member => bne_iff_ne.mpr fun same => noPoint (same ▸ member)
  cases fraction? with
  | none =>
    rw [splitPoint, joinPoint, List.takeWhile_eq_self_iff.mpr notPoint,
      List.dropWhile_eq_nil_iff.mpr notPoint]
    rfl
  | some fraction =>
    rw [splitPoint, joinPoint, List.takeWhile_append_of_pos notPoint,
      List.dropWhile_append_of_pos notPoint]
    simp

theorem exists_joinPoint (text : List Char) :
    ∃ whole fraction?, '.' ∉ whole ∧ text = joinPoint whole fraction? := by
  by_cases point : '.' ∈ text
  · obtain ⟨whole, fraction, same, noPoint⟩ := List.eq_append_cons_of_mem point
    exact ⟨whole, some fraction, noPoint, same⟩
  · exact ⟨text, none, point, rfl⟩

theorem dropMinus_putMinus {unsigned : List Char} (noMinus : '-' ∉ unsigned) (negative : Bool) :
    dropMinus (putMinus negative unsigned) = unsigned := by
  cases negative with
  | true => rfl
  | false =>
    rw [putMinus, if_neg Bool.false_ne_true]
    unfold dropMinus
    split
    next => exact absurd List.mem_cons_self noMinus
    next => rfl

theorem exists_putMinus (text : List Char) : ∃ negative, text = putMinus negative (dropMinus text) := by
  unfold dropMinus
  split
  next => exact ⟨true, rfl⟩
  next => exact ⟨false, rfl⟩

theorem readOperand_of_le {digits : List Char} (inRange : numberOf digits ≤ maxOperand)
    (text : String) : readOperand text digits = .ok (numberOf digits) :=
  if_pos inRange

theorem readOperand_of_lt {digits : List Char} (outside : ¬ numberOf digits ≤ maxOperand)
    (text : String) :
    readOperand text digits = .error (.outOfRange text (String.ofList digits)) :=
  if_neg outside

end Operands

namespace WrittenDecimal

theorem split_unsigned (decimal : WrittenDecimal) :
    Operands.splitPoint decimal.unsigned = (decimal.whole, decimal.fraction) :=
  Operands.splitPoint_joinPoint
    (fun member => absurd (decimal.wholeDigits '.' member) (by decide)) decimal.fraction?

theorem not_mem_minus (decimal : WrittenDecimal) : '-' ∉ decimal.unsigned := by
  obtain ⟨negative, whole, fraction?, wholeDigits, fractionDigits, nonempty⟩ := decimal
  have notWhole : '-' ∉ whole := fun member => absurd (wholeDigits '-' member) (by decide)
  have notFraction : '-' ∉ fraction?.getD [] :=
    fun member => absurd (fractionDigits '-' member) (by decide)
  cases fraction? with
  | none => exact notWhole
  | some fraction => simpa [unsigned, joinPoint, notWhole] using notFraction

theorem split_spelled {decimal : WrittenDecimal} {text : String} (spells : decimal.Spells text) :
    Operands.splitPoint (Operands.dropMinus text.toList) = (decimal.whole, decimal.fraction) := by
  rw [show text.toList = putMinus decimal.negative decimal.unsigned from spells,
    Operands.dropMinus_putMinus decimal.not_mem_minus, split_unsigned]

-- The digits that are too many to be an operand, of a decimal with such digits. They are shown
-- without the zeros in front of a fraction.
def excess (decimal : WrittenDecimal) : List Char :=
  if numberOf decimal.whole ≤ Operands.maxOperand then decimal.fraction.dropWhile (· == '0')
  else decimal.whole

end WrittenDecimal

namespace Operands

theorem notDigits_iff {whole fraction : List Char} :
    (!whole.all Char.isDigit || !fraction.all Char.isDigit ||
      (whole.isEmpty && fraction.isEmpty)) = true ↔
      ¬ (IsDigits whole ∧ IsDigits fraction ∧ whole ++ fraction ≠ []) := by
  have wholeDigits : whole.all Char.isDigit = true ↔ IsDigits whole := List.all_eq_true
  have fractionDigits : fraction.all Char.isDigit = true ↔ IsDigits fraction := List.all_eq_true
  rw [Bool.or_eq_true, Bool.or_eq_true, Bool.not_eq_true', Bool.not_eq_true', ← Bool.not_eq_true,
    ← Bool.not_eq_true, wholeDigits, fractionDigits, Bool.and_eq_true, List.isEmpty_iff,
    List.isEmpty_iff, ← List.append_eq_nil_iff]
  tauto

theorem ofDecimal_spelled {decimal : WrittenDecimal} {text : String} (spells : decimal.Spells text) :
    ofDecimal text = (do
      let i <- readOperand text decimal.whole
      let f <- readOperand text (decimal.fraction.dropWhile (· == '0'))
      let t <- readOperand text (dropTrailingZeros (decimal.fraction.dropWhile (· == '0')))
      return { decimal.operands with i, f, t }) := by
  have accepted := Bool.eq_false_iff.mpr fun refused =>
    notDigits_iff.mp refused ⟨decimal.wholeDigits, decimal.fractionDigits, decimal.nonempty⟩
  unfold ofDecimal
  rw [decimal.split_spelled spells]
  simp only [WrittenDecimal.fraction, accepted]
  rfl

-- The digits of a fraction without zeros behind them denote no more than all of them do, so they
-- are never what is out of range.
theorem ofDecimal_of_inRange {decimal : WrittenDecimal} {text : String} (spells : decimal.Spells text)
    (inRange : decimal.InRange) : ofDecimal text = .ok decimal.operands := by
  have fraction : numberOf (decimal.fraction.dropWhile (· == '0')) ≤ maxOperand := by
    rw [numberOf_dropWhile]
    exact inRange.2
  have trailing :
      numberOf (dropTrailingZeros (decimal.fraction.dropWhile (· == '0'))) ≤ maxOperand :=
    Nat.le_trans (numberOf_dropTrailingZeros_le _) fraction
  rw [ofDecimal_spelled spells, readOperand_of_le inRange.1, ok_bind, readOperand_of_le fraction,
    ok_bind, readOperand_of_le trailing, ok_bind, numberOf_dropTrailingZeros_dropWhile,
    numberOf_dropWhile]
  rfl

theorem ofDecimal_of_not_inRange {decimal : WrittenDecimal} {text : String}
    (spells : decimal.Spells text) (outside : ¬ decimal.InRange) :
    ofDecimal text = .error (.outOfRange text (String.ofList decimal.excess)) := by
  rw [ofDecimal_spelled spells, WrittenDecimal.excess]
  by_cases whole : numberOf decimal.whole ≤ maxOperand
  · have fraction : ¬ numberOf (decimal.fraction.dropWhile (· == '0')) ≤ maxOperand := by
      rw [numberOf_dropWhile]
      exact fun small => outside ⟨whole, small⟩
    rw [readOperand_of_le whole, ok_bind, readOperand_of_lt fraction, error_bind, if_pos whole]
  · rw [readOperand_of_lt whole, error_bind, if_neg whole]

theorem inRange_of_ofDecimal {decimal : WrittenDecimal} {text : String} {operands : Operands}
    (spells : decimal.Spells text) (ok : ofDecimal text = .ok operands) : decimal.InRange := by
  by_contra outside
  rw [ofDecimal_of_not_inRange spells outside] at ok
  cases ok

theorem exists_spells_or_notNumeric (text : String) :
    (∃ decimal : WrittenDecimal, decimal.Spells text) ∨ ofDecimal text = .error (.notNumeric text) := by
  obtain ⟨negative, minus⟩ := exists_putMinus text.toList
  obtain ⟨whole, fraction?, noPoint, joined⟩ := exists_joinPoint (dropMinus text.toList)
  by_cases numeric : IsDigits whole ∧ IsDigits (fraction?.getD []) ∧ whole ++ fraction?.getD [] ≠ []
  · obtain ⟨wholeDigits, fractionDigits, nonempty⟩ := numeric
    refine .inl ⟨⟨negative, whole, fraction?, wholeDigits, fractionDigits, nonempty⟩, ?_⟩
    rw [joined] at minus
    exact minus
  · right
    have refused := notDigits_iff.mpr numeric
    unfold ofDecimal
    rw [joined, splitPoint_joinPoint noPoint]
    simp only [refused]
    rfl

theorem ofDecimal_eq_ok_iff {text : String} {operands : Operands} :
    ofDecimal text = .ok operands ↔
      ∃ decimal : WrittenDecimal, decimal.Spells text ∧ decimal.InRange ∧
        decimal.operands = operands := by
  constructor
  · intro ok
    obtain ⟨decimal, spells⟩ := (exists_spells_or_notNumeric text).resolve_right (by simp [ok])
    have inRange := inRange_of_ofDecimal spells ok
    rw [ofDecimal_of_inRange spells inRange] at ok
    cases ok
    exact ⟨decimal, spells, inRange, rfl⟩
  · rintro ⟨decimal, spells, inRange, rfl⟩
    exact ofDecimal_of_inRange spells inRange

theorem ofDecimal_eq_outOfRange_iff {text digits : String} :
    ofDecimal text = .error (.outOfRange text digits) ↔
      ∃ decimal : WrittenDecimal, decimal.Spells text ∧ ¬ decimal.InRange ∧
        String.ofList decimal.excess = digits := by
  constructor
  · intro refused
    obtain ⟨decimal, spells⟩ := (exists_spells_or_notNumeric text).resolve_right (by simp [refused])
    have outside : ¬ decimal.InRange := by
      intro inRange
      rw [ofDecimal_of_inRange spells inRange] at refused
      cases refused
    rw [ofDecimal_of_not_inRange spells outside] at refused
    cases refused
    exact ⟨decimal, spells, outside, rfl⟩
  · rintro ⟨decimal, spells, outside, rfl⟩
    exact ofDecimal_of_not_inRange spells outside

theorem ofDecimal_eq_notNumeric_iff {text : String} :
    ofDecimal text = .error (.notNumeric text) ↔
      ¬ ∃ decimal : WrittenDecimal, decimal.Spells text := by
  constructor
  · rintro refused ⟨decimal, spells⟩
    by_cases inRange : decimal.InRange
    · rw [ofDecimal_of_inRange spells inRange] at refused
      cases refused
    · rw [ofDecimal_of_not_inRange spells inRange] at refused
      cases refused
  · exact (exists_spells_or_notNumeric text).resolve_left

/-- A text has operands exactly if it spells a decimal in range, and they are those of the decimal. One
that spells a decimal out of range is told apart from one that spells none. -/
theorem ofValue_text (text : String) :
    ((∃ operands, ofValue (.text text) = .ok operands) ↔
      ∃ decimal : WrittenDecimal, decimal.Spells text ∧ decimal.InRange) ∧
    ((∃ digits, ofValue (.text text) = .error (.outOfRange text digits)) ↔
      ∃ decimal : WrittenDecimal, decimal.Spells text ∧ ¬ decimal.InRange) ∧
    (ofValue (.text text) = .error (.notNumeric text) ↔
      ¬ ∃ decimal : WrittenDecimal, decimal.Spells text) ∧
    ∀ (decimal : WrittenDecimal) operands, decimal.Spells text ->
      ofValue (.text text) = .ok operands -> operands.Describes decimal := by
  have read : ofValue (.text text) = ofDecimal text := rfl
  rw [read]
  refine ⟨⟨?ok, ?inRange⟩, ⟨?tooMany, ?outside⟩, ofDecimal_eq_notNumeric_iff, ?describes⟩
  case ok =>
    rintro ⟨operands, ok⟩
    obtain ⟨decimal, spells, inRange, -⟩ := ofDecimal_eq_ok_iff.mp ok
    exact ⟨decimal, spells, inRange⟩
  case inRange =>
    rintro ⟨decimal, spells, inRange⟩
    exact ⟨decimal.operands, ofDecimal_of_inRange spells inRange⟩
  case tooMany =>
    rintro ⟨digits, tooMany⟩
    obtain ⟨decimal, spells, outside, -⟩ := ofDecimal_eq_outOfRange_iff.mp tooMany
    exact ⟨decimal, spells, outside⟩
  case outside =>
    rintro ⟨decimal, spells, outside⟩
    exact ⟨_, ofDecimal_of_not_inRange spells outside⟩
  case describes =>
    intro decimal operands spells ok
    rw [ofDecimal_of_inRange spells (inRange_of_ofDecimal spells ok)] at ok
    cases ok
    exact decimal.operands_describes

theorem ofValue_text_trailingZero :
    ofValue (.text "-01.230") = .ok { i := 1, v := 3, w := 2, f := 230, t := 23 } ∧
      Describes { i := 1, v := 3, w := 2, f := 230, t := 23 }
        ⟨true, ['0', '1'], some ['2', '3', '0'], by decide, by decide, by decide⟩ := by
  have ok : ofValue (.text "-01.230") = .ok { i := 1, v := 3, w := 2, f := 230, t := 23 } := rfl
  exact ⟨ok, (ofValue_text "-01.230").2.2.2 _ _ (by decide) ok⟩

end Operands

end MessagePattern

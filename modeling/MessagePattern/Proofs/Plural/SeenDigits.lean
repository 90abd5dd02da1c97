import MessagePattern.Plural.RuleTable
import MessagePattern.Proofs.Outcome
import MessagePattern.Proofs.Plural.PlainDecimal
import MessagePattern.Proofs.Plural.Whole

set_option autoImplicit false

namespace MessagePattern

open DecimalNumber

-- What is asked of a reader of decimals: that it keeps the digits behind the point, zeros at either
-- end included, and derives operands from the whole number and from the digits that rules look at.
def KeepsDigits (read : DecimalReader) : Prop :=
  ∀ (decimal : WrittenDecimal) (text : String), decimal.Spells text -> decimal.negative = false ->
    decimal.operands.i < 10 ^ Operands.seenDigits ->
      decimal.operands.v ≤ Operands.maxFraction ->
        read text = some (Operands.seenOf decimal.whole decimal.fraction)

namespace Operands

theorem readSeen?_of_spells {decimal : WrittenDecimal} {text : String}
    (spells : decimal.Spells text) (positive : decimal.negative = false)
    (few : decimal.fraction.length ≤ maxFraction) :
    readSeen? text = some (seenOf decimal.whole decimal.fraction) := by
  have unsigned : text.toList = decimal.unsigned := by
    rw [show text.toList = putMinus decimal.negative decimal.unsigned from spells, positive]
    rfl
  rw [readSeen?, unsigned, decimal.split_unsigned]
  exact if_pos few

theorem keepsDigits_readSeen? : KeepsDigits readSeen? :=
  fun _ _ spells positive _ few => readSeen?_of_spells spells positive few

theorem seenBy_eq_ok {read : DecimalReader} {operands seen : Operands}
    (answered : read operands.display = some seen) : operands.seenBy read = .ok seen := by
  rw [seenBy, answered]

theorem seenOf_of_few {decimal : WrittenDecimal} (whole : decimal.operands.i < 10 ^ seenDigits)
    (fraction : decimal.operands.v ≤ seenDigits) :
    seenOf decimal.whole decimal.fraction = decimal.operands := by
  have sameWhole : seenWhole (Nat.ofDigitChars 10 decimal.whole 0) = numberOf decimal.whole :=
    if_pos whole
  rw [seenOf, sameWhole, List.take_of_length_le fraction]
  rfl

theorem seen_of_displayed {operands : Operands}
    (few : operands.displayed.fraction.length ≤ maxFraction) :
    operands.seen =
      .ok (seenOf operands.displayed.whole operands.displayed.fraction) :=
  seenBy_eq_ok (readSeen?_of_spells operands.displayed_spells rfl few)

theorem exists_ofDecimal_of_ofValue {value : Value} {operands : Operands}
    (derived : ofValue value = .ok operands) : ∃ text, ofDecimal text = .ok operands := by
  cases value with
  | number amount => exact ⟨amount.magnitude, derived⟩
  | text content => exact ⟨content, derived⟩
  | truth holds => cases derived
  | instant moment => cases derived

theorem operands_displayed {value : Value} {operands : Operands}
    (derived : ofValue value = .ok operands) : operands.displayed.operands = operands := by
  obtain ⟨text, ok⟩ := exists_ofDecimal_of_ofValue derived
  obtain ⟨decimal, -, -, rfl⟩ := ofDecimal_eq_ok_iff.mp ok
  rw [decimal.displayed_operands, decimal.plain_operands]

/-- Operands that come from a value with no more digits than rules look at reach the rules of a locale
unchanged, and without an exponent, by way of the decimal that they are displayed as. Every reader of
decimals that keeps digits would bring them there. -/
theorem seen_eq_self {value : Value} {operands : Operands} (derived : ofValue value = .ok operands)
    (whole : operands.i < 10 ^ 18) (fraction : operands.v ≤ 18) :
    operands.seen = .ok operands ∧
    readSeen? operands.display = some operands ∧
    (∀ read, KeepsDigits read ->
      read operands.display = some operands ∧ operands.seenBy read = .ok operands) ∧
    RuleOperand.e.value? operands = some 0 ∧
    ∀ (source : RuleSource) locale kind,
      source.provider locale kind operands = (source locale kind).map (·.classify operands) := by
  have few : operands.v ≤ maxFraction := Nat.le_trans fraction (by decide)
  have same := operands_displayed derived
  have visible : seenOf operands.displayed.whole operands.displayed.fraction = operands := by
    rw [← same] at whole fraction
    rw [seenOf_of_few whole fraction, same]
  have answered : ∀ read, KeepsDigits read -> read operands.display = some operands := by
    intro read keeps
    have answer := keeps operands.displayed operands.display operands.displayed_spells rfl
    rw [same, visible] at answer
    exact answer whole few
  have seen : operands.seen = .ok operands :=
    seenBy_eq_ok (answered readSeen? keepsDigits_readSeen?)
  refine ⟨seen, answered readSeen? keepsDigits_readSeen?, ?anyReader, rfl, ?anySource⟩
  case anyReader =>
    intro read keeps
    exact ⟨answered read keeps, seenBy_eq_ok (answered read keeps)⟩
  case anySource =>
    intro source locale kind
    rw [RuleSource.provider, seen, ok_bind]
    cases source locale kind <;> rfl

def longest : Operands :=
  { i := 999999999999999999, v := 18, w := 17, f := 10, t := 1 }

theorem seen_eq_self_longest :
    ofValue (.text "-0999999999999999999.000000000000000010") = .ok longest ∧
      longest.i < 10 ^ 18 ∧ longest.v ≤ 18 ∧
      longest.display = "999999999999999999.000000000000000010" ∧
      longest.seen = .ok longest ∧
      KeepsDigits readSeen? ∧
      readSeen? longest.display = some longest ∧
      RuleOperand.e.value? longest = some 0 ∧
      standardProvider Locale.english .cardinal longest =
        .ok ((PluralRules.ofLocale Locale.english .cardinal).classify longest) := by
  have derived : ofValue (.text "-0999999999999999999.000000000000000010") = .ok longest := rfl
  obtain ⟨seen, -, anyReader, exponent, rules⟩ := seen_eq_self derived (by decide) (by decide)
  exact ⟨derived, by decide, by decide, rfl, seen, keepsDigits_readSeen?,
    (anyReader readSeen? keepsDigits_readSeen?).1, exponent,
    rules standardRules Locale.english .cardinal⟩

end Operands

theorem RuleSource.provider_answersWhole {source : RuleSource} {locale : Locale}
    (total : ∀ kind, ∃ rules, source locale kind = .ok rules) :
    source.provider.AnswersWhole locale := by
  intro kind operands noPoint
  obtain ⟨rules, built⟩ := total kind
  have noFraction : operands.displayed.fraction = [] := by
    simp only [WrittenDecimal.fraction, Operands.displayed, noPoint, if_true, Option.getD_none]
  have few : operands.displayed.fraction.length ≤ Operands.maxFraction :=
    noFraction ▸ Nat.zero_le _
  refine ⟨rules.classify (Operands.seenOf operands.displayed.whole operands.displayed.fraction), ?_⟩
  rw [RuleSource.provider, Operands.seen_of_displayed few, ok_bind, built, ok_bind, pure_eq_ok]

theorem standardProvider_answersWhole (locale : Locale) :
    standardProvider.AnswersWhole locale :=
  RuleSource.provider_answersWhole fun _ => ⟨_, rfl⟩

end MessagePattern

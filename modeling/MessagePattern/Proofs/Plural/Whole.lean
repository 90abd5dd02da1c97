import MessagePattern.Plural.RuleTable
import MessagePattern.Proofs.Plural.WrittenDecimal

set_option autoImplicit false

namespace MessagePattern

def Operands.whole (i : Nat) : Operands :=
  { i, v := 0, w := 0, f := 0, t := 0 }

def PluralProvider.AnswersWhole (provider : PluralProvider) (locale : Locale) : Prop :=
  ∀ kind operands, operands.v = 0 -> ∃ category, provider locale kind operands = .ok category

theorem IntegerType.minimum_ge (type : IntegerType) :
    -(Operands.maxOperand : Int) ≤ type.minimum := by
  obtain ⟨signed, size⟩ := type
  cases signed <;> cases size <;> decide

theorem IntegerType.maximum_le (type : IntegerType) :
    type.maximum ≤ (Operands.maxOperand : Int) := by
  obtain ⟨signed, size⟩ := type
  cases signed <;> cases size <;> decide

theorem FixedInteger.natAbs_le (integer : FixedInteger) :
    integer.value.natAbs ≤ Operands.maxOperand := by
  have low := Int.le_trans integer.type.minimum_ge integer.holds.1
  have high := Int.le_trans integer.holds.2 integer.type.maximum_le
  omega

def WrittenDecimal.ofInt (number : Int) : WrittenDecimal where
  negative := decide (number < 0)
  whole := Nat.toDigits 10 number.natAbs
  fraction? := none
  wholeDigits := isDigits_toDigits number.natAbs
  fractionDigits := by decide
  nonempty := by simp

theorem WrittenDecimal.ofInt_spells (number : Int) :
    (WrittenDecimal.ofInt number).Spells number.repr := by
  cases number with
  | ofNat magnitude => exact Nat.toList_repr
  | negSucc fewer =>
    have sign : (Int.negSucc fewer).repr = "-" ++ (fewer + 1).repr := rfl
    have negative : (WrittenDecimal.ofInt (Int.negSucc fewer)).negative = true :=
      decide_eq_true (Int.negSucc_lt_zero fewer)
    rw [Spells, sign, String.toList_append, Nat.toList_repr, spelling, negative]
    rfl

theorem Operands.ofDecimal_repr (number : Int) (inRange : number.natAbs ≤ Operands.maxOperand) :
    Operands.ofDecimal number.repr = .ok (.whole number.natAbs) := by
  have denotes : numberOf (WrittenDecimal.ofInt number).whole = number.natAbs :=
    Nat.ofDigitChars_ten_toDigits
  have fits : (WrittenDecimal.ofInt number).InRange := ⟨denotes.symm ▸ inRange, Nat.zero_le _⟩
  rw [ofDecimal_of_inRange (WrittenDecimal.ofInt_spells number) fits, WrittenDecimal.operands,
    denotes]
  rfl

-- Every width fits into what an operand may be, and its smallest integer does too.
theorem Operands.ofValue_integer (integer : FixedInteger) :
    Operands.ofValue (.number (.integer integer)) = .ok (.whole integer.value.natAbs) :=
  ofDecimal_repr integer.value.natAbs integer.natAbs_le

theorem PluralProvider.category_congr {first second : Value}
    (same : Operands.ofValue first = Operands.ofValue second) (provider : PluralProvider)
    (locale : Locale) (kind : PluralKind) :
    provider.category locale kind first = provider.category locale kind second := by
  rw [PluralProvider.category, PluralProvider.category, same]

def Value.ofInteger (type : IntegerType) (number : Int) (holds : type.Holds number) : Value :=
  .number (.integer { type, value := number, holds })

/-- An integer has the operands of its magnitude in every type that holds it and as a text. So every
provider has one answer for it and for its negation, even where one of them is in no type. -/
theorem PluralProvider.category_integer (type : IntegerType) (number : Int)
    (holds : type.Holds number) :
    Operands.ofValue (.ofInteger type number holds) =
      .ok { i := number.natAbs, v := 0, w := 0, f := 0, t := 0 } ∧
    (Value.ofInteger type number holds).render? = some number.repr ∧
    Operands.ofValue (.text number.repr) = Operands.ofValue (.ofInteger type number holds) ∧
    ∀ (provider : PluralProvider) (locale : Locale) (kind : PluralKind),
      (∀ other otherHolds, provider.category locale kind (.ofInteger other number otherHolds) =
        provider.category locale kind (.ofInteger type number holds)) ∧
      (∀ other otherHolds, provider.category locale kind (.ofInteger other (-number) otherHolds) =
        provider.category locale kind (.ofInteger type number holds)) ∧
      provider.category locale kind (.text number.repr) =
        provider.category locale kind (.ofInteger type number holds) ∧
      provider.category locale kind (.text (-number).repr) =
        provider.category locale kind (.ofInteger type number holds) := by
  have inRange : number.natAbs ≤ Operands.maxOperand := FixedInteger.natAbs_le ⟨type, number, holds⟩
  have here : Operands.ofValue (.ofInteger type number holds) = .ok (.whole number.natAbs) :=
    Operands.ofValue_integer _
  have negated : (-number).natAbs = number.natAbs := Int.natAbs_neg number
  have ofText : Operands.ofValue (.text number.repr) = .ok (.whole number.natAbs) :=
    Operands.ofDecimal_repr number inRange
  have ofNegatedText : Operands.ofValue (.text (-number).repr) = .ok (.whole number.natAbs) :=
    negated ▸ Operands.ofDecimal_repr (-number) (negated.symm ▸ inRange)
  refine ⟨here, rfl, ofText.trans here.symm, fun provider locale kind => ⟨?_, ?_, ?_, ?_⟩⟩
  · intro other otherHolds
    exact category_congr ((Operands.ofValue_integer _).trans here.symm) provider locale kind
  · intro other otherHolds
    have ofNegated : Operands.ofValue (.ofInteger other (-number) otherHolds) =
        .ok (.whole number.natAbs) := negated ▸ Operands.ofValue_integer _
    exact category_congr (ofNegated.trans here.symm) provider locale kind
  · exact category_congr (ofText.trans here.symm) provider locale kind
  · exact category_congr (ofNegatedText.trans here.symm) provider locale kind

def IntegerType.byte : IntegerType := { signed := true, size := .bits8 }

def IntegerType.unsignedByte : IntegerType := { signed := false, size := .bits8 }

-- The smallest signed byte has no negation of its own type.
theorem PluralProvider.category_integer_smallest :
    ∃ (holds : IntegerType.byte.Holds (-128)) (otherHolds : IntegerType.unsignedByte.Holds 128),
      Operands.ofValue (.ofInteger .byte (-128) holds) =
        .ok { i := 128, v := 0, w := 0, f := 0, t := 0 } ∧
      standardProvider.category Locale.english .ordinal (.ofInteger .unsignedByte 128 otherHolds) =
        standardProvider.category Locale.english .ordinal (.ofInteger .byte (-128) holds) ∧
      standardProvider.category Locale.english .ordinal (.text "-128") =
        standardProvider.category Locale.english .ordinal (.ofInteger .byte (-128) holds) ∧
      standardProvider.category Locale.english .ordinal (.text "128") =
        standardProvider.category Locale.english .ordinal (.ofInteger .byte (-128) holds) := by
  have holds : IntegerType.byte.Holds (-128) := by decide
  have otherHolds : IntegerType.unsignedByte.Holds 128 := by decide
  obtain ⟨operands, -, -, same⟩ := PluralProvider.category_integer .byte (-128) holds
  obtain ⟨-, negated, text, negatedText⟩ := same standardProvider Locale.english .ordinal
  exact ⟨holds, otherHolds, operands, negated .unsignedByte otherHolds, text, negatedText⟩

theorem PluralProvider.AnswersWhole.category {provider : PluralProvider} {locale : Locale}
    (answers : provider.AnswersWhole locale) (kind : PluralKind) (integer : FixedInteger) :
    ∃ category, provider.category locale kind (.number (.integer integer)) = .ok category := by
  obtain ⟨category, answered⟩ := answers kind (.whole integer.value.natAbs) rfl
  refine ⟨category, ?_⟩
  rw [PluralProvider.category, Operands.ofValue_integer, mapError_ok, ok_bind, answered]

end MessagePattern

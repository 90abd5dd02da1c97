import Mathlib
import MessagePattern.Decimal.Positional
import MessagePattern.Proofs.Pattern.Lexemes

set_option autoImplicit false

namespace MessagePattern

open DecimalNumber

def IsDigits (digits : List Char) : Prop :=
  ∀ character ∈ digits, character.isDigit = true

instance : DecidablePred IsDigits :=
  fun digits => decidable_of_iff (digits.all Char.isDigit = true) List.all_eq_true

def numberOf (digits : List Char) : Nat :=
  Nat.ofDigitChars 10 digits 0

def IsZeros (digits : List Char) : Prop :=
  ∀ character ∈ digits, character = '0'

theorem ofDigitChars_eq (digits : List Char) (high : Nat) :
    Nat.ofDigitChars 10 digits high = high * 10 ^ digits.length + numberOf digits := by
  induction digits generalizing high with
  | nil => simp [numberOf]
  | cons first rest ih =>
    rw [numberOf, Nat.ofDigitChars_cons, Nat.ofDigitChars_cons, ih, ih (10 * 0 + _),
      List.length_cons, pow_succ]
    ring

theorem numberOf_append (first second : List Char) :
    numberOf (first ++ second) = numberOf first * 10 ^ second.length + numberOf second := by
  rw [numberOf, Nat.ofDigitChars_append, ofDigitChars_eq, ← numberOf]

theorem numberOf_singleton (digit : Char) : numberOf [digit] = digit.toNat - '0'.toNat := by
  rw [numberOf, Nat.ofDigitChars_cons, Nat.ofDigitChars_nil, Nat.mul_zero, Nat.zero_add]

theorem numberOf_singleton_lt {digit : Char} (isDigit : digit.isDigit = true) :
    numberOf [digit] < 10 := by
  have bounds := isDigit_iff.mp isDigit
  rw [numberOf_singleton]
  simp only [Char.reduceToNat]
  omega

theorem numberOf_lt {digits : List Char} (isDigits : IsDigits digits) :
    numberOf digits < 10 ^ digits.length := by
  induction digits using List.reverseRecOn with
  | nil => simp [numberOf]
  | append_singleton front last ih =>
    have less := ih fun character member => isDigits character (List.mem_append_left _ member)
    have small := numberOf_singleton_lt (isDigits last (by simp))
    rw [numberOf_append, List.length_append, List.length_singleton, pow_one, pow_succ]
    omega

theorem numberOf_zeros {zeros : List Char} (isZeros : IsZeros zeros) : numberOf zeros = 0 := by
  induction zeros with
  | nil => rfl
  | cons first rest ih =>
    obtain ⟨rfl, others⟩ := List.forall_mem_cons.mp isZeros
    have zero : numberOf ['0'] = 0 := rfl
    rw [← List.singleton_append, numberOf_append, ih others, zero, Nat.zero_mul]

theorem numberOf_zeros_append {zeros : List Char} (isZeros : IsZeros zeros) (digits : List Char) :
    numberOf (zeros ++ digits) = numberOf digits := by
  rw [numberOf_append, numberOf_zeros isZeros, Nat.zero_mul, Nat.zero_add]

theorem isZeros_takeWhile (digits : List Char) : IsZeros (digits.takeWhile (· == '0')) := by
  intro character member
  exact beq_iff_eq.mp (List.all_eq_true.mp List.all_takeWhile character member)

theorem numberOf_dropWhile (digits : List Char) :
    numberOf (digits.dropWhile (· == '0')) = numberOf digits := by
  have whole := numberOf_zeros_append (isZeros_takeWhile digits) (digits.dropWhile (· == '0'))
  rw [List.takeWhile_append_dropWhile] at whole
  exact whole.symm

theorem exists_dropTrailingZeros (digits : List Char) :
    ∃ zeros, IsZeros zeros ∧ digits = dropTrailingZeros digits ++ zeros := by
  refine ⟨(digits.reverse.takeWhile (· == '0')).reverse, ?_, ?_⟩
  · intro character member
    exact isZeros_takeWhile _ character (List.mem_reverse.mp member)
  · rw [dropTrailingZeros, ← List.reverse_append, List.takeWhile_append_dropWhile,
      List.reverse_reverse]

theorem dropTrailingZeros_append (first second : List Char) :
    dropTrailingZeros (first ++ second) =
      if dropTrailingZeros second = [] then dropTrailingZeros first
      else first ++ dropTrailingZeros second := by
  simp only [dropTrailingZeros, List.reverse_append, List.dropWhile_append,
    List.isEmpty_iff, List.reverse_eq_nil_iff]
  split <;> simp

theorem dropTrailingZeros_zeros {zeros : List Char} (isZeros : IsZeros zeros) :
    dropTrailingZeros zeros = [] := by
  rw [dropTrailingZeros, List.reverse_eq_nil_iff, List.dropWhile_eq_nil_iff]
  intro character member
  exact beq_iff_eq.mpr (isZeros character (List.mem_reverse.mp member))

theorem numberOf_dropTrailingZeros_dropWhile (digits : List Char) :
    numberOf (dropTrailingZeros (digits.dropWhile (· == '0'))) =
      numberOf (dropTrailingZeros digits) := by
  have isZeros := isZeros_takeWhile digits
  have whole : dropTrailingZeros digits = _ :=
    List.takeWhile_append_dropWhile (p := (· == '0')) (l := digits) ▸
      dropTrailingZeros_append (digits.takeWhile (· == '0')) (digits.dropWhile (· == '0'))
  rw [whole]
  split
  next none => rw [none, dropTrailingZeros_zeros isZeros]
  next => rw [numberOf_zeros_append isZeros]

theorem numberOf_eq_mul (digits : List Char) :
    numberOf digits = numberOf (dropTrailingZeros digits) *
      10 ^ (digits.length - (dropTrailingZeros digits).length) := by
  obtain ⟨zeros, isZeros, same⟩ := exists_dropTrailingZeros digits
  have count : digits.length - (dropTrailingZeros digits).length = zeros.length := by
    have total := congrArg List.length same
    rw [List.length_append] at total
    omega
  rw [count]
  conv_lhs => rw [same, numberOf_append, numberOf_zeros isZeros, Nat.add_zero]

theorem numberOf_dropTrailingZeros_le (digits : List Char) :
    numberOf (dropTrailingZeros digits) ≤ numberOf digits := by
  rw [numberOf_eq_mul digits]
  exact Nat.le_mul_of_pos_right _ (Nat.pow_pos (by decide))

theorem length_dropTrailingZeros_le (digits : List Char) :
    (dropTrailingZeros digits).length ≤ digits.length :=
  (List.rdropWhile_prefix _ digits).length_le

theorem not_dvd_numberOf {digits : List Char} (isDigits : IsDigits digits)
    (nonempty : dropTrailingZeros digits ≠ []) : ¬ 10 ∣ numberOf (dropTrailingZeros digits) := by
  have notZero := List.rdropWhile_last_not (· == '0') digits nonempty
  have member := (List.rdropWhile_prefix (· == '0') digits).mem (List.getLast_mem nonempty)
  have small := numberOf_singleton_lt (isDigits _ member)
  have bounds := isDigit_iff.mp (isDigits _ member)
  rw [← List.dropLast_append_getLast nonempty, numberOf_append, List.length_singleton, pow_one]
  intro divides
  have zero : numberOf [(dropTrailingZeros digits).getLast nonempty] = 0 := by omega
  rw [numberOf_singleton] at zero
  apply notZero
  have same : ((dropTrailingZeros digits).getLast nonempty).toNat = '0'.toNat := by
    simp only [Char.reduceToNat] at zero ⊢
    omega
  exact beq_iff_eq.mpr (Char.toNat_inj.mp same)

theorem numberOf_dropTrailingZeros_eq_zero {digits : List Char} (isDigits : IsDigits digits) :
    numberOf (dropTrailingZeros digits) = 0 ↔ dropTrailingZeros digits = [] := by
  constructor
  · intro zero
    by_contra nonempty
    exact not_dvd_numberOf isDigits nonempty (by simp [zero])
  · intro none
    rw [none]
    rfl

theorem toDigits_of_isDigit {character : Char} (digit : character.isDigit = true) :
    Nat.toDigits 10 (character.toNat - '0'.toNat) = [character] := by
  obtain ⟨low, high⟩ := isDigit_iff.mp digit
  have small : character.toNat - '0'.toNat < 10 := by
    simp only [Char.reduceToNat]
    omega
  rw [Nat.toDigits_of_lt_base small]
  have within : ∀ value < 10, (Nat.digitChar value).toNat = 48 + value := by decide
  have same := within _ small
  simp only [Char.reduceToNat] at same ⊢
  have back : 48 + (character.toNat - 48) = character.toNat := by omega
  rw [back] at same
  rw [Char.toNat_inj.mp same]

theorem toDigits_ofDigitChars {digits : List Char} {number : Nat} (positive : 0 < number)
    (isDigits : IsDigits digits) :
    Nat.toDigits 10 (Nat.ofDigitChars 10 digits number) = Nat.toDigits 10 number ++ digits := by
  induction digits generalizing number with
  | nil => simp [Nat.ofDigitChars]
  | cons first rest ih =>
    obtain ⟨digit, others⟩ := List.forall_mem_cons.mp isDigits
    have small : first.toNat - '0'.toNat < 10 := by
      have bounds := isDigit_iff.mp digit
      simp only [Char.reduceToNat]
      omega
    rw [Nat.ofDigitChars_cons, ih (by omega) others,
      ← Nat.toDigits_append_toDigits (by decide) positive small, toDigits_of_isDigit digit,
      List.append_assoc, List.singleton_append]

theorem isDigits_toDigits (number : Nat) : IsDigits (Nat.toDigits 10 number) :=
  fun _ member => Nat.isDigit_of_mem_toDigits (by decide) (by decide) member

theorem isDigits_padded (width number : Nat) : IsDigits (padded width number) := by
  intro character member
  rcases List.mem_append.mp member with zero | digit
  · exact List.eq_of_mem_replicate zero ▸ rfl
  · exact isDigits_toDigits number character digit

theorem numberOf_toDigits (number : Nat) : numberOf (Nat.toDigits 10 number) = number :=
  Nat.ofDigitChars_toDigits (by decide) (by decide)

theorem numberOf_padded (width number : Nat) : numberOf (padded width number) = number := by
  have isZeros : IsZeros (List.replicate (width - (Nat.toDigits 10 number).length) '0') :=
    fun _ member => List.eq_of_mem_replicate member
  rw [padded, numberOf_zeros_append isZeros, numberOf_toDigits]

def plainDigits (digits : List Char) : List Char :=
  if digits.dropWhile (· == '0') = [] then ['0'] else digits.dropWhile (· == '0')

theorem isDigits_plainDigits {digits : List Char} (isDigits : IsDigits digits) :
    IsDigits (plainDigits digits) := by
  intro character member
  unfold plainDigits at member
  split at member
  next => exact List.mem_singleton.mp member ▸ rfl
  next => exact isDigits character ((List.dropWhile_suffix _).mem member)

theorem plainDigits_ne_nil (digits : List Char) : plainDigits digits ≠ [] := by
  unfold plainDigits
  split <;> simp [*]

theorem numberOf_plainDigits (digits : List Char) :
    numberOf (plainDigits digits) = numberOf digits := by
  rw [← numberOf_dropWhile digits, plainDigits]
  split
  next none =>
    rw [none]
    rfl
  next => rfl

theorem toDigits_numberOf {digits : List Char} (isDigits : IsDigits digits) :
    Nat.toDigits 10 (numberOf digits) = plainDigits digits := by
  rw [← numberOf_dropWhile, plainDigits]
  cases significant : digits.dropWhile (· == '0') with
  | nil => rfl
  | cons first rest =>
    have kept : first :: rest <:+ digits := significant ▸ List.dropWhile_suffix _
    obtain ⟨digit, others⟩ := List.forall_mem_cons.mp fun character member =>
      isDigits character (kept.mem member)
    have notZero : first ≠ '0' := by
      have stopped := List.head_dropWhile_not (· == '0') (l := digits) (by simp [significant])
      simpa [significant] using stopped
    have positive : 0 < 10 * 0 + (first.toNat - '0'.toNat) := by
      have bounds := isDigit_iff.mp digit
      have differs : first.toNat ≠ '0'.toNat := fun same => notZero (Char.toNat_inj.mp same)
      simp only [Char.reduceToNat] at differs ⊢
      omega
    rw [numberOf, Nat.ofDigitChars_cons, toDigits_ofDigitChars positive others, Nat.mul_zero,
      Nat.zero_add, toDigits_of_isDigit digit]
    rfl

theorem padded_numberOf {digits : List Char} (isDigits : IsDigits digits) (nonempty : digits ≠ []) :
    padded digits.length (numberOf digits) = digits := by
  have zeros : digits.takeWhile (· == '0') =
      List.replicate (digits.takeWhile (· == '0')).length '0' :=
    List.eq_replicate_of_mem (isZeros_takeWhile digits)
  have whole : digits.takeWhile (· == '0') ++ digits.dropWhile (· == '0') = digits :=
    List.takeWhile_append_dropWhile
  rw [padded, toDigits_numberOf isDigits, plainDigits]
  split
  next none =>
    rw [none, List.append_nil] at whole
    rw [whole] at zeros
    have one : digits.length - ['0'].length + 1 = digits.length :=
      Nat.sub_add_cancel (List.length_pos_iff.mpr nonempty)
    rw [← List.replicate_succ', one, ← zeros]
  next =>
    have fewer : digits.length - (digits.dropWhile (· == '0')).length =
        (digits.takeWhile (· == '0')).length := by
      have total := congrArg List.length whole
      rw [List.length_append] at total
      omega
    rw [fewer, ← zeros, whole]

end MessagePattern

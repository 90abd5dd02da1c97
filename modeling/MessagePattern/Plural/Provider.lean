import MessagePattern.Locale
import MessagePattern.Plural.Rule

set_option autoImplicit false

namespace MessagePattern

inductive PluralError
  | operands (error : OperandError)
  | unsupportedLocale (locale reason : String)
  | invalidOperands (decimal : String)
deriving DecidableEq, Repr

def PluralError.message : PluralError -> String
  | .operands error => error.message
  | .unsupportedLocale locale reason =>
      "no plural rules for locale '" ++ locale ++ "': " ++ reason
  | .invalidOperands decimal => "plural rules rejected operands '" ++ decimal ++ "'"

abbrev PluralProvider :=
  Locale -> PluralKind -> Operands -> Except PluralError PluralCategory

abbrev RuleSource := Locale -> PluralKind -> Except PluralError PluralRules

abbrev DecimalReader := String -> Option Operands

namespace Operands

-- The most digits after the point that a decimal is read with.
def maxFraction : Nat := 32768

def seenDigits : Nat := 18

-- The integer digits that rules see: the last ones, under a leading one when there are more.
def seenWhole (i : Nat) : Nat :=
  let bound := Nat.pow 10 seenDigits
  if i < bound then i else bound + i % bound

def seenOf (whole fraction : List Char) : Operands :=
  let visible := fraction.take seenDigits
  let significant := DecimalNumber.dropTrailingZeros visible
  { i := seenWhole (Nat.ofDigitChars 10 whole 0)
    v := visible.length
    w := significant.length
    f := Nat.ofDigitChars 10 visible 0
    t := Nat.ofDigitChars 10 significant 0 }

def readSeen? : DecimalReader := fun text =>
  let (whole, fraction) := splitPoint text.toList
  if fraction.length <= maxFraction then some (seenOf whole fraction) else none

-- Operands reach rules as the decimal that they are displayed as. Where widths have sixteen bits,
-- displaying more than 65535 digits after the point panics; here such operands are invalid too.
def seenBy (read : DecimalReader) (operands : Operands) : Except PluralError Operands :=
  match read operands.display with
  | some seen => .ok seen
  | none => .error (.invalidOperands operands.display)

def seen (operands : Operands) : Except PluralError Operands :=
  operands.seenBy readSeen?

end Operands

def RuleSource.provider (source : RuleSource) : PluralProvider := fun locale kind operands => do
  let seen <- operands.seen
  let rules <- source locale kind
  return rules.classify seen

def PluralProvider.category (provider : PluralProvider) (locale : Locale) (kind : PluralKind)
    (value : Value) : Except PluralError PluralCategory := do
  let operands <- (Operands.ofValue value).mapError .operands
  provider locale kind operands

end MessagePattern

set_option autoImplicit false

namespace MessagePattern

structure DecimalNumber where
  digits : Nat
  exponent : Int
deriving DecidableEq, Repr

namespace DecimalNumber

def dropTrailingZeros (text : List Char) : List Char :=
  (text.reverse.dropWhile (· == '0')).reverse

def padded (width number : Nat) : List Char :=
  let digits := Nat.toDigits 10 number
  List.replicate (width - digits.length) '0' ++ digits

def positional (decimal : DecimalNumber) : List Char :=
  match decimal.exponent with
  | .ofNat zeros => Nat.toDigits 10 (decimal.digits * Nat.pow 10 zeros)
  | .negSucc fewer =>
      let places := fewer + 1
      let unit := Nat.pow 10 places
      let fraction := dropTrailingZeros (padded places (decimal.digits % unit))
      let whole := Nat.toDigits 10 (decimal.digits / unit)
      if fraction.isEmpty then whole else whole ++ '.' :: fraction

end DecimalNumber

end MessagePattern

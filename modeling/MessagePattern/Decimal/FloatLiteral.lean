set_option autoImplicit false

namespace MessagePattern

inductive FloatLiteral
  | notANumber
  | infinite (negative : Bool)
  | finite (negative : Bool) (significand : Nat) (exponent : Int)
deriving DecidableEq, Repr

def splitSign : List Char -> Bool × List Char
  | '-' :: rest => (true, rest)
  | '+' :: rest => (false, rest)
  | text => (false, text)

def readInteger? (text : List Char) : Option Int :=
  let (negative, digits) := splitSign text
  if digits.isEmpty || !digits.all Char.isDigit then none
  else
    let magnitude := Nat.ofDigitChars 10 digits 0
    some (if negative then -magnitude else magnitude)

namespace FloatLiteral

def readExponent? : List Char -> Option Int
  | [] => some 0
  | mark :: rest => if mark = 'e' || mark = 'E' then readInteger? rest else none

def readDecimal? (negative : Bool) (text : List Char) : Option FloatLiteral :=
  let whole := text.takeWhile Char.isDigit
  let afterWhole := text.dropWhile Char.isDigit
  let afterPoint :=
    match afterWhole with
    | '.' :: rest => rest
    | _ => []
  let fraction := afterPoint.takeWhile Char.isDigit
  let tail :=
    match afterWhole with
    | '.' :: rest => rest.dropWhile Char.isDigit
    | rest => rest
  if whole.isEmpty && fraction.isEmpty then none
  else
    (readExponent? tail).map fun exponent =>
      .finite negative (Nat.ofDigitChars 10 (whole ++ fraction) 0) (exponent - fraction.length)

def read? (text : String) : Option FloatLiteral :=
  let (negative, rest) := splitSign text.toList
  match String.ofList (rest.map Char.toLower) with
  | "inf" | "infinity" => some (.infinite negative)
  | "nan" => some .notANumber
  | _ => readDecimal? negative rest

-- The power of ten just above a decimal. A decimal above `10 ^ 400` is infinite in every width and
-- one below `10 ^ -400` is zero.
def order (significand : Nat) (exponent : Int) : Int :=
  (Nat.toDigits 10 significand).length + exponent

def toFloat : FloatLiteral -> Float
  | .notANumber => 0.0 / 0.0
  | .infinite negative => if negative then -1.0 / 0.0 else 1.0 / 0.0
  | .finite negative significand exponent =>
      let magnitude :=
        if significand = 0 || order significand exponent < -400 then 0.0
        else if 400 < order significand exponent then 1.0 / 0.0
        else Float.ofScientific significand (exponent < 0) exponent.natAbs
      if negative then -magnitude else magnitude

def toFloat32 : FloatLiteral -> Float32
  | .notANumber => 0.0 / 0.0
  | .infinite negative => if negative then -1.0 / 0.0 else 1.0 / 0.0
  | .finite negative significand exponent =>
      let magnitude :=
        if significand = 0 || order significand exponent < -400 then 0.0
        else if 400 < order significand exponent then 1.0 / 0.0
        else Float32.ofScientific significand (exponent < 0) exponent.natAbs
      if negative then -magnitude else magnitude

end FloatLiteral

end MessagePattern

import MessagePattern.Decimal.Positional
import MessagePattern.Value

set_option autoImplicit false

namespace MessagePattern

-- The operands of a decimal: those of `1.230` are `i = 1`, `v = 3`, `w = 2`, `f = 230`, `t = 23`.
structure Operands where
  i : Nat
  v : Nat
  w : Nat
  f : Nat
  t : Nat
deriving DecidableEq, Repr

inductive OperandError
  | unsupportedType (kind : ValueKind)
  | notNumeric (text : String)
  | outOfRange (text digits : String)
deriving DecidableEq, Repr

def OperandError.message : OperandError -> String
  | .unsupportedType kind => "expected numeric type, got " ++ kind.name
  | .notNumeric text => "expected numeric value, got '" ++ text ++ "'"
  | .outOfRange text digits => "operand '" ++ digits ++ "' out of range in '" ++ text ++ "'"

namespace Operands

def maxOperand : Nat := Nat.pow 2 64 - 1

def splitPoint (text : List Char) : List Char × List Char :=
  (text.takeWhile (· != '.'), (text.dropWhile (· != '.')).drop 1)

def readOperand (text : String) (digits : List Char) : Except OperandError Nat :=
  let operand := Nat.ofDigitChars 10 digits 0
  if operand <= maxOperand then .ok operand else .error (.outOfRange text (String.ofList digits))

def dropMinus : List Char -> List Char
  | '-' :: rest => rest
  | text => text

def ofDecimal (text : String) : Except OperandError Operands := do
  let (whole, fraction) := splitPoint (dropMinus text.toList)
  if !whole.all Char.isDigit || !fraction.all Char.isDigit || (whole.isEmpty && fraction.isEmpty)
  then throw (.notNumeric text)
  let significant := fraction.dropWhile (· == '0')
  let i <- readOperand text whole
  let f <- readOperand text significant
  let t <- readOperand text (DecimalNumber.dropTrailingZeros significant)
  return { i, v := fraction.length, w := (DecimalNumber.dropTrailingZeros fraction).length, f, t }

def ofValue (value : Value) : Except OperandError Operands :=
  match value with
  | .number amount => ofDecimal amount.magnitude
  | .text content => ofDecimal content
  | .truth _ => .error (.unsupportedType value.kind)
  | .instant _ => .error (.unsupportedType value.kind)

def display (operands : Operands) : String :=
  if operands.v = 0 then operands.i.repr
  else operands.i.repr ++ "." ++ String.ofList (DecimalNumber.padded operands.v operands.f)

end Operands

end MessagePattern

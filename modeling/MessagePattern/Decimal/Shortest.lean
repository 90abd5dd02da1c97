import MessagePattern.Decimal.Positional

set_option autoImplicit false

namespace MessagePattern

structure BinaryLayout where
  exponentBits : Nat
  fractionBits : Nat
deriving DecidableEq, Repr

def BinaryLayout.binary32 : BinaryLayout := { exponentBits := 8, fractionBits := 23 }

def BinaryLayout.binary64 : BinaryLayout := { exponentBits := 11, fractionBits := 52 }

inductive BinaryValue
  | notANumber
  | infinite (negative : Bool)
  -- `significand * 2 ^ exponent`. A narrow number has its smaller neighbour at half the distance of
  -- its larger one.
  | finite (negative : Bool) (significand : Nat) (exponent : Int) (narrow : Bool)
deriving DecidableEq, Repr

def BinaryLayout.decode (layout : BinaryLayout) (bits : Nat) : BinaryValue :=
  let leading := Nat.pow 2 layout.fractionBits
  let exponents := Nat.pow 2 layout.exponentBits
  let fraction := bits % leading
  let biased := bits / leading % exponents
  let negative := bits / leading / exponents % 2 == 1
  let lowest : Int := 2 - (exponents / 2 : Nat) - layout.fractionBits
  if biased = exponents - 1 then
    if fraction = 0 then .infinite negative else .notANumber
  else if biased = 0 then
    .finite negative fraction lowest false
  else
    .finite negative (leading + fraction) (lowest + biased - 1) (fraction == 0)

-- The reals that read back as one number: those from `low` to `high` units, around `middle`, with
-- the ends when `closed`. Both units are fractions of the same grid, so that `count` steps of a
-- grid of decimals compare with `bound` units as `count * step` with `bound * unit`.
structure ReadBack where
  low : Nat
  middle : Nat
  high : Nat
  closed : Bool
deriving DecidableEq, Repr

namespace ReadBack

-- The reals that read back as `significand * 2 ^ exponent`, in units of `2 ^ (exponent - 2)`. A tie
-- between two numbers reads as the even one.
def ofSignificand (significand : Nat) (narrow : Bool) : ReadBack :=
  { low := 4 * significand - (if narrow then 1 else 2)
    middle := 4 * significand
    high := 4 * significand + 2
    closed := significand % 2 == 0 }

def holds (reals : ReadBack) (unit step count : Nat) : Bool :=
  if reals.closed then
    reals.low * unit <= count * step && count * step <= reals.high * unit
  else
    reals.low * unit < count * step && count * step < reals.high * unit

def nearest? (reals : ReadBack) (unit step : Nat) : Option Nat :=
  let below := reals.middle * unit / step
  match reals.holds unit step below, reals.holds unit step (below + 1) with
  | true, true =>
      some (if 2 * (reals.middle * unit) < (2 * below + 1) * step then below else below + 1)
  | true, false => some below
  | false, true => some (below + 1)
  | false, false => none

def search (reals : ReadBack) (binary : Int) : Nat -> Int -> Option DecimalNumber
  | 0, _ => none
  | grids + 1, exponent =>
      let unit := Nat.pow 2 binary.toNat * Nat.pow 10 (-exponent).toNat
      let step := Nat.pow 2 (-binary).toNat * Nat.pow 10 exponent.toNat
      match reals.nearest? unit step with
      | some digits => some { digits, exponent }
      | none => reals.search binary grids (exponent - 1)

end ReadBack

-- A power of ten, by its exponent, that is larger than `significand * 2 ^ exponent`. It overshoots
-- by little: a factor of two is at most 0.302 decimal places, or at least 0.301.
def decimalBound (significand : Nat) (exponent : Int) : Int :=
  let binary := (significand.log2 : Int) + 1 + exponent
  if 0 <= binary then binary * 302 / 1000 + 1 else binary * 301 / 1000 + 1

def shortestDecimal (significand : Nat) (exponent : Int) (narrow : Bool) : DecimalNumber :=
  let reals := ReadBack.ofSignificand significand narrow
  match reals.search (exponent - 2) 40 (decimalBound significand exponent) with
  | some decimal => decimal
  | none => { digits := 0, exponent := 0 }

namespace BinaryValue

def magnitude : BinaryValue -> String
  | .notANumber => "NaN"
  | .infinite _ => "inf"
  | .finite _ significand exponent narrow =>
      if significand = 0 then "0"
      else String.ofList (shortestDecimal significand exponent narrow).positional

def display : BinaryValue -> String
  | .notANumber => "NaN"
  | value@(.infinite negative) | value@(.finite negative _ _ _) =>
      (if negative then "-" else "") ++ value.magnitude

end BinaryValue

end MessagePattern

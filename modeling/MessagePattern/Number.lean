import MessagePattern.Decimal.FloatLiteral
import MessagePattern.Decimal.Shortest

set_option autoImplicit false

namespace MessagePattern

-- The room an integer takes. A word is as wide as an address.
inductive IntegerSize
  | bits8
  | bits16
  | bits32
  | bits64
  | word
deriving DecidableEq, Repr

def IntegerSize.bits : IntegerSize -> Nat
  | .bits8 => 8
  | .bits16 => 16
  | .bits32 => 32
  | .bits64 => 64
  | .word => 64

structure IntegerType where
  signed : Bool
  size : IntegerSize
deriving DecidableEq, Repr

namespace IntegerType

def modulus (type : IntegerType) : Nat :=
  Nat.pow 2 type.size.bits

def minimum (type : IntegerType) : Int :=
  if type.signed then -(Nat.pow 2 (type.size.bits - 1) : Int) else 0

def maximum (type : IntegerType) : Int :=
  if type.signed then (Nat.pow 2 (type.size.bits - 1) : Int) - 1 else (type.modulus : Int) - 1

def Holds (type : IntegerType) (value : Int) : Prop :=
  type.minimum <= value ∧ value <= type.maximum

instance (type : IntegerType) (value : Int) : Decidable (type.Holds value) :=
  inferInstanceAs (Decidable (_ ∧ _))

def wrap (type : IntegerType) (value : Int) : Int :=
  if type.signed then value.bmod type.modulus else value % type.modulus

def long : IntegerType := { signed := true, size := .bits64 }

theorem modulus_pos (type : IntegerType) : 0 < type.modulus :=
  Nat.pow_pos (by decide)

theorem holds_wrap (type : IntegerType) (value : Int) : type.Holds (type.wrap value) := by
  obtain ⟨signed, size⟩ := type
  unfold Holds wrap minimum maximum
  have positive := modulus_pos ⟨signed, size⟩
  cases signed with
  | false =>
    have low := Int.emod_nonneg value (Int.ofNat_ne_zero.mpr (Nat.ne_of_gt positive))
    have high := Int.emod_lt_of_pos value (Int.ofNat_lt.mpr positive)
    simp only [Bool.false_eq_true, if_false]
    omega
  | true =>
    have low := Int.le_bmod (x := value) positive
    have high := Int.bmod_lt (x := value) positive
    have half : modulus ⟨true, size⟩ = 2 * Nat.pow 2 (size.bits - 1) := by cases size <;> decide
    simp only [if_true]
    omega

end IntegerType

structure FixedInteger where
  type : IntegerType
  value : Int
  holds : type.Holds value
deriving DecidableEq, Repr

namespace FixedInteger

def wrap (type : IntegerType) (value : Int) : FixedInteger :=
  { type, value := type.wrap value, holds := type.holds_wrap value }

-- The offset is taken in the type of offsets, where the largest unsigned integers are negative, and
-- what is left is cast back into the width of the integer.
def minus (integer : FixedInteger) (offset : Int) : FixedInteger :=
  let long := IntegerType.long
  wrap integer.type (long.wrap (long.wrap integer.value - offset))

@[simp] theorem minus_type (integer : FixedInteger) (offset : Int) :
    (integer.minus offset).type = integer.type := rfl

end FixedInteger

inductive Number
  | integer (fixed : FixedInteger)
  | single (float : Float32)
  | double (float : Float)

namespace Number

def minus (number : Number) (offset : Int) : Number :=
  match number with
  | .integer fixed => .integer (fixed.minus offset)
  | .single float => .single (float - Float32.ofInt offset)
  | .double float => .double (float - Float.ofInt offset)

-- Whether the number is the given whole number, read in its own width.
def equals (number : Number) (whole : Int) : Bool :=
  match number with
  | .integer fixed => fixed.value == whole
  | .single float => float == Float32.ofInt whole
  | .double float => float == Float.ofInt whole

def ofSingle (float : Float32) : BinaryValue :=
  BinaryLayout.binary32.decode float.toBits.toNat

def ofDouble (float : Float) : BinaryValue :=
  BinaryLayout.binary64.decode float.toBits.toNat

def display : Number -> String
  | .integer fixed => fixed.value.repr
  | .single float => (ofSingle float).display
  | .double float => (ofDouble float).display

def magnitude : Number -> String
  | .integer fixed => fixed.value.natAbs.repr
  | .single float => (ofSingle float).magnitude
  | .double float => (ofDouble float).magnitude

end Number

end MessagePattern

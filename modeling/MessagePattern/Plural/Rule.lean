import MessagePattern.Plural.Category
import MessagePattern.Plural.Operands

set_option autoImplicit false

namespace MessagePattern

-- What a relation looks at. The number itself has a value only when it is whole; an exponent is
-- never written and so is zero.
inductive RuleOperand
  | n
  | i
  | v
  | w
  | f
  | t
  | e
deriving DecidableEq, Repr

def RuleOperand.value? (operands : Operands) : RuleOperand -> Option Nat
  | .n => if operands.w = 0 then some operands.i else none
  | .i => some operands.i
  | .v => some operands.v
  | .w => some operands.w
  | .f => some operands.f
  | .t => some operands.t
  | .e => some 0

structure Relation where
  operand : RuleOperand
  modulus : Option Nat
  negated : Bool
  ranges : List (Nat × Nat)
deriving DecidableEq, Repr

namespace Relation

def reduce (modulus : Option Nat) (number : Nat) : Nat :=
  match modulus with
  | some divisor => number % divisor
  | none => number

-- Whether operands meet the relation. What has no value lies in no range.
def holds (relation : Relation) (operands : Operands) : Bool :=
  match relation.operand.value? operands with
  | none => relation.negated
  | some number =>
      let reduced := reduce relation.modulus number
      relation.ranges.any (fun (low, high) => low <= reduced && reduced <= high) != relation.negated

end Relation

namespace RuleOperand

def among (operand : RuleOperand) (ranges : List (Nat × Nat)) : Relation :=
  { operand, modulus := none, negated := false, ranges }

def outside (operand : RuleOperand) (ranges : List (Nat × Nat)) : Relation :=
  { operand, modulus := none, negated := true, ranges }

def modAmong (operand : RuleOperand) (divisor : Nat) (ranges : List (Nat × Nat)) : Relation :=
  { operand, modulus := some divisor, negated := false, ranges }

def modOutside (operand : RuleOperand) (divisor : Nat) (ranges : List (Nat × Nat)) : Relation :=
  { operand, modulus := some divisor, negated := true, ranges }

end RuleOperand

-- Alternatives, of which one has to hold in all its relations.
abbrev Condition := List (List Relation)

def Condition.holds (condition : Condition) (operands : Operands) : Bool :=
  List.any condition fun relations => relations.all fun relation => relation.holds operands

structure PluralRules where
  rules : List (PluralCategory × Condition)
deriving DecidableEq, Repr

namespace PluralRules

def none : PluralRules :=
  { rules := [] }

def classify (rules : PluralRules) (operands : Operands) : PluralCategory :=
  match rules.rules.find? fun rule => rule.2.holds operands with
  | some rule => rule.1
  | .none => .other

end PluralRules

end MessagePattern

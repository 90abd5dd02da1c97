import MessagePattern.DateTime.Style
import MessagePattern.Plural.Category

set_option autoImplicit false

namespace MessagePattern

inductive Slot
  | name (text : String)
  | index (number : Nat)
deriving DecidableEq, Repr

def Slot.key : Slot -> String
  | .name text => text
  | .index number => number.repr

def Slot.maxIndex : Nat := Nat.pow 2 64 - 1

def Slot.default : Slot := .index 0

inductive Selector
  | keyword (word : String)
  | exactly (number : Int)
deriving DecidableEq, Repr

def Selector.keyword? : Selector -> Option String
  | .keyword word => some word
  | .exactly _ => none

def Selector.number? : Selector -> Option Int
  | .keyword _ => none
  | .exactly number => some number

-- The largest number a pattern can write in an offset or an exact selector.
def Selector.maxNumber : Nat := Nat.pow 2 63 - 1

structure Clause (σ : Type) (α : Type) where
  selector : σ
  body : List α

inductive Node
  | text (content : String)
  | argument (slot : Slot)
  | dateTime (slot : Slot) (kind : DateTimeKind) (style : DateTimeStyle)
  | select (slot : Slot) (clauses : List (Clause String Node))
  -- A choice by the number in a slot, reduced by `offset` except for exact selectors.
  | plural (slot : Slot) (kind : PluralKind) (offset : Int) (clauses : List (Clause Selector Node))
  -- The reduced number of the innermost plural.
  | pound

structure Message where
  nodes : List Node

def otherKeyword : String := "other"

end MessagePattern

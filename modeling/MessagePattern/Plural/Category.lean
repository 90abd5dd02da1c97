set_option autoImplicit false

namespace MessagePattern

inductive PluralCategory
  | zero
  | one
  | two
  | few
  | many
  | other
deriving DecidableEq, Repr

namespace PluralCategory

def all : List PluralCategory := [.zero, .one, .two, .few, .many, .other]

def keyword : PluralCategory -> String
  | .zero => "zero"
  | .one => "one"
  | .two => "two"
  | .few => "few"
  | .many => "many"
  | .other => "other"

end PluralCategory

inductive PluralKind
  | cardinal
  | ordinal
deriving DecidableEq, Repr

namespace PluralKind

def all : List PluralKind := [.cardinal, .ordinal]

def keyword : PluralKind -> String
  | .cardinal => "plural"
  | .ordinal => "selectordinal"

end PluralKind

end MessagePattern

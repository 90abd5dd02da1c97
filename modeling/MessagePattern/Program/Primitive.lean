import MessagePattern.DateTime.Style
import MessagePattern.Plural.Category

set_option autoImplicit false

namespace MessagePattern

inductive Primitive
  -- Writes an instant. Operands: locale, style, field.
  | dateTime (kind : DateTimeKind)
  -- Tests the text of a field. Operands: field, keyword.
  | select
  -- Tests the category of a field, or its number when the keyword is empty. Operands: locale,
  -- offset, field, keyword, number.
  | plural (kind : PluralKind)
  -- Writes the number of a field. Operands: field, offset.
  | pound
deriving DecidableEq, Repr

namespace Primitive

def all : List Primitive :=
  [.dateTime .date, .dateTime .time, .dateTime .dateTime, .select, .plural .cardinal,
    .plural .ordinal, .pound]

def name : Primitive -> String
  | .dateTime kind => kind.keyword
  | .select => "select"
  | .plural kind => kind.keyword
  | .pound => "pound"

end Primitive

def hostFunctionName : String := "__messageformat__"

end MessagePattern

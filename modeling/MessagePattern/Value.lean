import MessagePattern.Number

set_option autoImplicit false

namespace MessagePattern

-- A point in time: the seconds since 1970 began in universal time, and the nanoseconds after that.
-- A thousand million nanoseconds or more stand for a leap second, which follows second 59.
structure Instant where
  seconds : Int
  nanoseconds : Nat
deriving DecidableEq, Repr

inductive Value
  | number (amount : Number)
  | text (content : String)
  | truth (holds : Bool)
  | instant (moment : Instant)

inductive ValueKind
  | float
  | integer
  | string
  | bool
  | instant
deriving DecidableEq, Repr

def ValueKind.name : ValueKind -> String
  | .float => "float"
  | .integer => "integer"
  | .string => "string"
  | .bool => "bool"
  | .instant => "instant"

def readFloat? (text : String) : Option Float :=
  (FloatLiteral.read? text).map FloatLiteral.toFloat

namespace Value

def kind : Value -> ValueKind
  | .number (.integer _) => .integer
  | .number (.single _) => .float
  | .number (.double _) => .float
  | .text _ => .string
  | .truth _ => .bool
  | .instant _ => .instant

def render? : Value -> Option String
  | .number amount => some amount.display
  | .text content => some content
  | .truth holds => some (if holds then "true" else "false")
  | .instant _ => none

-- Takes a plural's offset away from a number, or from a text that spells one. Such a text is
-- written anew, without superfluous digits.
def minus? (value : Value) (offset : Int) : Option Value :=
  match value with
  | .number amount => some (.number (amount.minus offset))
  | .text content =>
      (readFloat? content).map fun float =>
        .text (Number.double (float - Float.ofInt offset)).display
  | .truth _ => none
  | .instant _ => none

def equals? (value : Value) (whole : Int) : Option Bool :=
  match value with
  | .number amount => some (amount.equals whole)
  | .text content => (readFloat? content).map fun float => float == Float.ofInt whole
  | .truth _ => none
  | .instant _ => none

def text? : Value -> Option String
  | .text content => some content
  | _ => none

def instant? : Value -> Option Instant
  | .instant moment => some moment
  | _ => none

-- The integer zero, which stands for a missing number.
def zero : Value :=
  .number (.integer (.wrap { signed := true, size := .bits64 } 0))

end Value

end MessagePattern

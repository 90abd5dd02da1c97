import MessagePattern.Pattern.Token
import MessagePattern.Position

set_option autoImplicit false

namespace MessagePattern

inductive Expectation
  | token (kind : TokenKind)
  | word (spelling : String)
deriving DecidableEq, Repr

def Expectation.display : Expectation -> String
  | .token kind => kind.name
  | .word spelling => spelling

inductive ChoiceKind
  | plural
  | select
deriving DecidableEq, Repr

def ChoiceKind.display : ChoiceKind -> String
  | .plural => "plural"
  | .select => "select"

inductive SyntaxCause
  | unterminatedQuote
  | leadingZero
  | numberOutOfRange (number : Nat)
  | unexpectedCharacter (character : Char)
  | unexpectedToken (found : Token) (expected : List Expectation)
  | noClauses (choice : ChoiceKind)
  | nestingTooDeep (limit : Nat)
deriving DecidableEq, Repr

structure SyntaxFault where
  cause : SyntaxCause
  offset : Nat
deriving DecidableEq, Repr

structure SyntaxError where
  cause : SyntaxCause
  position : Position
deriving DecidableEq, Repr

def SyntaxFault.locate (source : List Char) (fault : SyntaxFault) : SyntaxError :=
  { cause := fault.cause, position := Position.ofOffset source fault.offset }

namespace SyntaxError

def place (error : SyntaxError) : String :=
  error.position.line.repr ++ ":" ++ error.position.column.repr

def message (error : SyntaxError) : String :=
  match error.cause with
  | .unterminatedQuote => "unterminated quoted string at " ++ error.place
  | .leadingZero => "number must not have leading zero at " ++ error.place
  | .numberOutOfRange number => "number '" ++ number.repr ++ "' out of range at " ++ error.place
  | .unexpectedCharacter character =>
      "unexpected character " ++ quoteCharacter character ++ " at " ++ error.place
  | .unexpectedToken found expected =>
      "unexpected token " ++ found.display ++ " at " ++ error.place ++ ", expected " ++
        " or ".intercalate (expected.map Expectation.display)
  | .noClauses choice => "no " ++ choice.display ++ " clauses at " ++ error.place
  | .nestingTooDeep limit =>
      "pattern nesting exceeds maximum depth of " ++ limit.repr ++ " at " ++ error.place

end SyntaxError

end MessagePattern

import MessagePattern.DateTime.Service
import MessagePattern.Pattern.SyntaxError
import MessagePattern.Plural.Provider
import MessagePattern.Program.Primitive

set_option autoImplicit false

namespace MessagePattern

inductive FormatError
  | parse (error : SyntaxError)
  | unknownArgument (name : String) (suggestions : List String)
  | unsupportedArgumentType (name : String) (kind : ValueKind)
  | expectedNumeric (name : String) (kind : ValueKind)
  | expectedInstant (name : String) (kind : ValueKind)
  | missingSelectOther (name : String)
  | missingPluralOther (name : String)
  | poundOutsidePlural
  | plural (name : String) (error : PluralError)
  | dateTime (name : String) (error : DateTimeError)
  | invalidLocale (tag : String)
  | malformedCall (primitive : Primitive)
deriving DecidableEq, Repr

namespace FormatError

def suggestionText (suggestions : List String) : String :=
  if suggestions.isEmpty then ""
  else "; did you mean: " ++ ", ".intercalate suggestions ++ "?"

def message : FormatError -> String
  | .parse error => error.message
  | .unknownArgument name suggestions =>
      "unknown argument '" ++ name ++ "'" ++ suggestionText suggestions
  | .unsupportedArgumentType name kind =>
      "unsupported argument type " ++ kind.name ++ " for '" ++ name ++ "'"
  | .expectedNumeric name kind =>
      "expected numeric type for '" ++ name ++ "', got " ++ kind.name
  | .expectedInstant name kind => "expected instant for '" ++ name ++ "', got " ++ kind.name
  | .missingSelectOther name => "missing select other clause for '" ++ name ++ "'"
  | .missingPluralOther name => "missing plural other clause for '" ++ name ++ "'"
  | .poundOutsidePlural => "pound token emitted incorrectly"
  | .plural name error => "plural resolution failed for '" ++ name ++ "': " ++ error.message
  | .dateTime name error => "date/time rendering failed for '" ++ name ++ "': " ++ error.message
  | .invalidLocale tag => "invalid locale '" ++ tag ++ "'"
  | .malformedCall primitive => "malformed call to '" ++ primitive.name ++ "'"

end FormatError

end MessagePattern

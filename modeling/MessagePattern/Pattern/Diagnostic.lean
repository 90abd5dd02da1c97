import MessagePattern.Pattern.SyntaxError

set_option autoImplicit false

namespace MessagePattern

structure DiagnosticLabel where
  offset : Nat
  length : Nat
  text : String
deriving DecidableEq, Repr

structure Diagnostic where
  message : String
  code : String
  help : Option String
  label : DiagnosticLabel
deriving DecidableEq, Repr

def SyntaxCause.help? : SyntaxCause -> Option String
  | .unterminatedQuote => some "close the quoted run with ' or write '' for a literal quote"
  | .nestingTooDeep _ => some "raise the limit with --max-depth"
  | _ => none

def SyntaxError.diagnostic (source : String) (error : SyntaxError) : Diagnostic :=
  { message := "syntax error: " ++ error.message
    code := "messageformat::syntax"
    help := error.cause.help?
    label :=
      { offset := Position.byteOffset source.toList error.position
        length := 1
        text := "error here" } }

end MessagePattern

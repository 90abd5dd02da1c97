import MessagePattern.Text.Quoted

set_option autoImplicit false

namespace MessagePattern

inductive Token
  | endOfInput
  | text (content : String)
  | word (spelling : String)
  | number (value : Nat)
  | openBrace
  | closeBrace
  | comma
  | equals
  | pound
  | colon
deriving DecidableEq, Repr

inductive TokenKind
  | endOfInput
  | text
  | word
  | number
  | openBrace
  | closeBrace
  | comma
  | equals
  | pound
  | colon
deriving DecidableEq, Repr

def TokenKind.name : TokenKind -> String
  | .endOfInput => "end of input"
  | .text => "text"
  | .word => "word"
  | .number => "number"
  | .openBrace => "'\x7b'"
  | .closeBrace => "'\x7d'"
  | .comma => "','"
  | .equals => "'='"
  | .pound => "'#'"
  | .colon => "':'"

namespace Token

def kind : Token -> TokenKind
  | .endOfInput => .endOfInput
  | .text _ => .text
  | .word _ => .word
  | .number _ => .number
  | .openBrace => .openBrace
  | .closeBrace => .closeBrace
  | .comma => .comma
  | .equals => .equals
  | .pound => .pound
  | .colon => .colon

def display : Token -> String
  | .endOfInput => "<EOF>"
  | .text content => quoteText content
  | .word spelling => spelling
  | .number value => value.repr
  | .openBrace => "\x7b"
  | .closeBrace => "\x7d"
  | .comma => ","
  | .equals => "="
  | .pound => "#"
  | .colon => ":"

end Token

structure LocatedToken where
  token : Token
  offset : Nat
deriving DecidableEq, Repr

def isWordStart (character : Char) : Bool :=
  character.isAlpha || character == '_'

def isWordPart (character : Char) : Bool :=
  character.isAlphanum || character == '_'

end MessagePattern

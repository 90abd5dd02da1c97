import MessagePattern.Text.Extender
import MessagePattern.Text.Printable

set_option autoImplicit false

namespace MessagePattern

def codePointEscape (character : Char) : List Char :=
  ['\\', 'u', '{'] ++ Nat.toDigits 16 character.toNat ++ ['}']

def quotedCharacter (quote character : Char) : List Char :=
  if character = quote || character = '\\' then ['\\', character]
  else if character = '\x00' then ['\\', '0']
  else if character = '\t' then ['\\', 't']
  else if character = '\n' then ['\\', 'n']
  else if character = '\r' then ['\\', 'r']
  else if isExtender character || !isPrintable character then codePointEscape character
  else [character]

def quoteText (text : String) : String :=
  String.ofList (['"'] ++ text.toList.flatMap (quotedCharacter '"') ++ ['"'])

def quoteCharacter (character : Char) : String :=
  String.ofList (['\''] ++ quotedCharacter '\'' character ++ ['\''])

end MessagePattern

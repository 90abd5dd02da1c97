set_option autoImplicit false

namespace MessagePattern

def htmlEntity? : Char -> Option String
  | '&' => some "&amp;"
  | '<' => some "&lt;"
  | '>' => some "&gt;"
  | '"' => some "&#34;"
  | '\'' => some "&#39;"
  | _ => none

def escapeCharacter (character : Char) : List Char :=
  match htmlEntity? character with
  | some entity => entity.toList
  | none => [character]

def escapeHtml (text : String) : String :=
  String.ofList (text.toList.flatMap escapeCharacter)

end MessagePattern

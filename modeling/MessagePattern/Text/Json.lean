set_option autoImplicit false

namespace MessagePattern

inductive Json
  | null
  | number (value : Int)
  | string (content : String)
  | array (items : List Json)
  | object (members : List (String × Json))

namespace Json

def escaped (character : Char) : List Char :=
  match character with
  | '"' => ['\\', '"']
  | '\\' => ['\\', '\\']
  | '\n' => ['\\', 'n']
  | '\r' => ['\\', 'r']
  | '\t' => ['\\', 't']
  | _ =>
      if character.toNat = 8 then ['\\', 'b']
      else if character.toNat = 12 then ['\\', 'f']
      else if character.toNat < 32 then
        ['\\', 'u', '0', '0', Nat.digitChar (character.toNat / 16),
          Nat.digitChar (character.toNat % 16)]
      else [character]

def quote (text : String) : String :=
  String.ofList (['"'] ++ text.toList.flatMap escaped ++ ['"'])

mutual

def compact : Json -> String
  | .null => "null"
  | .number value => value.repr
  | .string content => quote content
  | .array items => "[" ++ ",".intercalate (compactItems items) ++ "]"
  | .object members => "\x7b" ++ ",".intercalate (compactMembers members) ++ "\x7d"

def compactItems : List Json -> List String
  | [] => []
  | item :: rest => item.compact :: compactItems rest

def compactMembers : List (String × Json) -> List String
  | [] => []
  | (key, value) :: rest => (quote key ++ ":" ++ value.compact) :: compactMembers rest

end

def block (indent opening closing : String) (parts : List String) : String :=
  if parts.isEmpty then opening ++ closing
  else
    let inner := "\n" ++ indent ++ "  "
    opening ++ inner ++ ("," ++ inner).intercalate parts ++ "\n" ++ indent ++ closing

mutual

def prettyAt (indent : String) : Json -> String
  | .null => "null"
  | .number value => value.repr
  | .string content => quote content
  | .array items => block indent "[" "]" (prettyItems (indent ++ "  ") items)
  | .object members => block indent "\x7b" "\x7d" (prettyMembers (indent ++ "  ") members)

def prettyItems (indent : String) : List Json -> List String
  | [] => []
  | item :: rest => item.prettyAt indent :: prettyItems indent rest

def prettyMembers (indent : String) : List (String × Json) -> List String
  | [] => []
  | (key, value) :: rest =>
      (quote key ++ ": " ++ value.prettyAt indent) :: prettyMembers indent rest

end

def pretty (document : Json) : String :=
  document.prettyAt ""

end Json

end MessagePattern

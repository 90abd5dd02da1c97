import MessagePattern.Message
import MessagePattern.Pattern.Token
import MessagePattern.Text.Blank

set_option autoImplicit false

namespace MessagePattern

-- A letter or an underscore, then letters, digits and underscores.
def IsWord : List Char -> Prop
  | [] => False
  | first :: rest => isWordStart first = true ∧ ∀ character ∈ rest, isWordPart character = true

structure IsNumeral (number : Nat) (digits : List Char) : Prop where
  nonempty : digits ≠ []
  allDigits : ∀ character ∈ digits, character.isDigit = true
  noLeadingZero : digits.head? = some '0' -> digits.length = 1
  value : Nat.ofDigitChars 10 digits 0 = number
  inRange : number ≤ Slot.maxIndex

inductive Token.Spelled : Token -> List Char -> Prop
  | word {spelling : List Char} (isWord : IsWord spelling) :
      Spelled (.word (String.ofList spelling)) spelling
  | number {number : Nat} {digits : List Char} (numeral : IsNumeral number digits) :
      Spelled (.number number) digits
  | openBrace : Spelled .openBrace ['{']
  | closeBrace : Spelled .closeBrace ['}']
  | comma : Spelled .comma [',']
  | equals : Spelled .equals ['=']
  | colon : Spelled .colon [':']

-- Between braces, a token may have white space in front.
inductive Lexeme : Token -> List Char -> Prop
  | mk {token : Token} {blank spelling : List Char}
      (isBlank : ∀ character ∈ blank, isBlank character = true) (spelled : token.Spelled spelling) :
      Lexeme token (blank ++ spelling)

inductive Lexemes : List Token -> List Char -> Prop
  | nil : Lexemes [] []
  | cons {token : Token} {tokens : List Token} {source rest : List Char}
      (first : Lexeme token source) (others : Lexemes tokens rest) :
      Lexemes (token :: tokens) (source ++ rest)

-- The inside of a quoted run, and the characters it stands for. Only a quote is special.
inductive Quoted : List Char -> List Char -> Prop
  | nil : Quoted [] []
  | quote {source content : List Char} (rest : Quoted source content) :
      Quoted ('\'' :: '\'' :: source) ('\'' :: content)
  | plain {character : Char} {source content : List Char} (notQuote : character ≠ '\'')
      (rest : Quoted source content) : Quoted (character :: source) (character :: content)

def IsPlain (plural : Bool) (character : Char) : Prop :=
  character ≠ '\'' ∧ character ≠ '{' ∧ character ≠ '}' ∧ (plural = true -> character ≠ '#')

-- A text, and the characters it stands for. A quoted run closes at the first quote that is not
-- doubled: no quote may follow the closing one, and, since two quotes in a row stand for one, none
-- the opening one.
inductive TextSpelled (plural : Bool) : List Char -> List Char -> Prop
  | nil : TextSpelled plural [] []
  | plain {character : Char} {source content : List Char} (isPlain : IsPlain plural character)
      (rest : TextSpelled plural source content) :
      TextSpelled plural (character :: source) (character :: content)
  | quote {source content : List Char} (rest : TextSpelled plural source content) :
      TextSpelled plural ('\'' :: '\'' :: source) ('\'' :: content)
  | run {inside meant source content : List Char} (quoted : Quoted inside meant)
      (opens : inside ≠ []) (single : inside.head? ≠ some '\'')
      (closes : source.head? ≠ some '\'') (rest : TextSpelled plural source content) :
      TextSpelled plural ('\'' :: (inside ++ '\'' :: source)) (meant ++ content)

def Slot.token : Slot -> Token
  | .name text => .word text
  | .index number => .number number

inductive Selector.Written : Selector -> List Token -> Prop
  | keyword (word : String) : Written (.keyword word) [.word word]
  | exactly (number : Nat) (inRange : number ≤ Selector.maxNumber) :
      Written (.exactly number) [.equals, .number number]

inductive Phrase
  | body (plural : Bool) (nodes : List Node)
  | argument (node : Node)
  | selectClauses (clauses : List (Clause String Node))
  | pluralClauses (clauses : List (Clause Selector Node))

inductive Phrase.Spelled : Phrase -> List Char -> Prop
  | text {plural : Bool} {source content : List Char} (text : TextSpelled plural source content) :
      Spelled (.body plural [.text (String.ofList content)]) source
  | pound {nodes : List Node} {source content rest : List Char}
      (text : TextSpelled true source content) (body : Spelled (.body true nodes) rest) :
      Spelled (.body true (.text (String.ofList content) :: .pound :: nodes))
        (source ++ '#' :: rest)
  | argument {plural : Bool} {node : Node} {nodes : List Node}
      {source content inside rest : List Char} (text : TextSpelled plural source content)
      (argument : Spelled (.argument node) inside) (body : Spelled (.body plural nodes) rest) :
      Spelled (.body plural (.text (String.ofList content) :: node :: nodes))
        (source ++ '{' :: (inside ++ rest))
  | bare {slot : Slot} {source : List Char} (tokens : Lexemes [slot.token, .closeBrace] source) :
      Spelled (.argument (.argument slot)) source
  | dateTime {slot : Slot} {kind : DateTimeKind} {style : DateTimeStyle} {source : List Char}
      (tokens : Lexemes [slot.token, .comma, .word kind.keyword, .comma, .word style.keyword,
        .closeBrace] source) :
      Spelled (.argument (.dateTime slot kind style)) source
  | select {slot : Slot} {clauses : List (Clause String Node)} {head rest : List Char}
      (tokens : Lexemes [slot.token, .comma, .word "select", .comma] head)
      (nonempty : clauses ≠ []) (clausesSpelled : Spelled (.selectClauses clauses) rest) :
      Spelled (.argument (.select slot clauses)) (head ++ rest)
  -- Where no offset is stated, the word would state one.
  | plural {slot : Slot} {kind : PluralKind} {clauses : List (Clause Selector Node)}
      {head rest : List Char} (tokens : Lexemes [slot.token, .comma, .word kind.keyword, .comma] head)
      (nonempty : clauses ≠ [])
      (unstated : ∀ clause ∈ clauses.head?, clause.selector ≠ .keyword "offset")
      (clausesSpelled : Spelled (.pluralClauses clauses) rest) :
      Spelled (.argument (.plural slot kind 0 clauses)) (head ++ rest)
  | pluralOffset {slot : Slot} {kind : PluralKind} {offset : Nat}
      {clauses : List (Clause Selector Node)} {head rest : List Char}
      (tokens : Lexemes [slot.token, .comma, .word kind.keyword, .comma, .word "offset", .colon,
        .number offset] head)
      (nonempty : clauses ≠ []) (inRange : offset ≤ Selector.maxNumber)
      (clausesSpelled : Spelled (.pluralClauses clauses) rest) :
      Spelled (.argument (.plural slot kind offset clauses)) (head ++ rest)
  | selectEnd {source : List Char} (brace : Lexeme .closeBrace source) :
      Spelled (.selectClauses []) source
  | selectClause {keyword : String} {nodes : List Node} {clauses : List (Clause String Node)}
      {head body rest : List Char} (tokens : Lexemes [.word keyword, .openBrace] head)
      (bodySpelled : Spelled (.body false nodes) body)
      (clausesSpelled : Spelled (.selectClauses clauses) rest) :
      Spelled (.selectClauses (⟨keyword, nodes⟩ :: clauses)) (head ++ (body ++ '}' :: rest))
  | pluralEnd {source : List Char} (brace : Lexeme .closeBrace source) :
      Spelled (.pluralClauses []) source
  | pluralClause {selector : Selector} {written : List Token} {nodes : List Node}
      {clauses : List (Clause Selector Node)} {head body rest : List Char}
      (selectorWritten : selector.Written written)
      (tokens : Lexemes (written ++ [.openBrace]) head)
      (bodySpelled : Spelled (.body true nodes) body)
      (clausesSpelled : Spelled (.pluralClauses clauses) rest) :
      Spelled (.pluralClauses (⟨selector, nodes⟩ :: clauses)) (head ++ (body ++ '}' :: rest))

def Message.SpelledBy (message : Message) (pattern : String) : Prop :=
  (Phrase.body false message.nodes).Spelled pattern.toList

end MessagePattern

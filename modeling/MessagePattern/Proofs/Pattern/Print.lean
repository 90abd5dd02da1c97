import MessagePattern.Proofs.Digits
import MessagePattern.Proofs.Message.Occurrence
import MessagePattern.Proofs.Pattern.Recognition
import MessagePattern.Proofs.Pattern.WellFormed

set_option autoImplicit false

namespace MessagePattern

def doubleQuotes : List Char -> List Char
  | [] => []
  | character :: rest =>
      if character = '\'' then '\'' :: '\'' :: doubleQuotes rest
      else character :: doubleQuotes rest

-- Quotes around single characters would not do: those of two neighbours make one literal quote. So
-- the run that the first special character needs stays open to the end of the text.
def printText (plural : Bool) : List Char -> List Char
  | [] => []
  | character :: rest =>
      if character = '\'' then '\'' :: '\'' :: printText plural rest
      else if character = '{' ∨ character = '}' ∨ (plural = true ∧ character = '#') then
        '\'' :: (character :: doubleQuotes rest ++ ['\''])
      else character :: printText plural rest

def Token.print : Token -> List Char
  | .endOfInput => []
  | .text content => content.toList
  | .word spelling => spelling.toList
  | .number value => Nat.toDigits 10 value
  | .openBrace => ['{']
  | .closeBrace => ['}']
  | .comma => [',']
  | .equals => ['=']
  | .pound => ['#']
  | .colon => [':']

def printTokens (tokens : List Token) : List Char :=
  tokens.flatMap Token.print

def Selector.tokens : Selector -> List Token
  | .keyword word => [.word word]
  | .exactly number => [.equals, .number number.toNat]

mutual

-- A node as it stands in a body. An offset is always stated, so that the first clause of a plural
-- may have any keyword.
def Node.print (plural : Bool) : Node -> List Char
  | .text content => printText plural content.toList
  | .argument slot => '{' :: printTokens [slot.token, .closeBrace]
  | .dateTime slot kind style =>
      '{' :: printTokens [slot.token, .comma, .word kind.keyword, .comma, .word style.keyword,
        .closeBrace]
  | .select slot clauses =>
      '{' :: (printTokens [slot.token, .comma, .word "select", .comma] ++ printSelect clauses)
  | .plural slot kind offset clauses =>
      '{' :: (printTokens [slot.token, .comma, .word kind.keyword, .comma, .word "offset", .colon,
        .number offset.toNat] ++ printPlural clauses)
  | .pound => ['#']

def Node.printAll (plural : Bool) : List Node -> List Char
  | [] => []
  | node :: rest => node.print plural ++ Node.printAll plural rest

def printSelect : List (Clause String Node) -> List Char
  | [] => ['}']
  | ⟨keyword, body⟩ :: rest =>
      ' ' :: (printTokens [.word keyword, .openBrace] ++
        (Node.printAll false body ++ '}' :: printSelect rest))

def printPlural : List (Clause Selector Node) -> List Char
  | [] => ['}']
  | ⟨selector, body⟩ :: rest =>
      ' ' :: (printTokens (selector.tokens ++ [.openBrace]) ++
        (Node.printAll true body ++ '}' :: printPlural rest))

end

def Message.print (message : Message) : String :=
  String.ofList (Node.printAll false message.nodes)

theorem quoted_doubleQuotes (content : List Char) : Quoted (doubleQuotes content) content := by
  induction content with
  | nil => exact .nil
  | cons character rest ih =>
    rw [doubleQuotes]
    split
    next same => exact same ▸ .quote ih
    next notQuote => exact .plain notQuote ih

theorem textSpelled_printText (plural : Bool) (content : List Char) :
    TextSpelled plural (printText plural content) content := by
  induction content with
  | nil => exact .nil
  | cons character rest ih =>
    rw [printText]
    split
    next same => exact same ▸ .quote ih
    next notQuote =>
      split
      next special =>
        -- The run starts with the special character, hence with no quote.
        have quoted : Quoted (character :: doubleQuotes rest) (character :: rest) :=
          .plain notQuote (quoted_doubleQuotes rest)
        have single : (character :: doubleQuotes rest).head? ≠ some '\'' := by
          simpa using notQuote
        simpa using TextSpelled.run quoted (by simp) single (by simp) (.nil : TextSpelled plural [] [])
      next notSpecial =>
        obtain ⟨notOpen, others⟩ := not_or.mp notSpecial
        obtain ⟨notClose, notPound⟩ := not_or.mp others
        exact .plain ⟨notQuote, notOpen, notClose, not_and.mp notPound⟩ ih

theorem head?_toDigits_ne_zero {number : Nat} (positive : 0 < number) :
    (Nat.toDigits 10 number).head? ≠ some '0' := by
  induction number using Nat.strongRecOn with
  | ind number ih =>
    by_cases small : number < 10
    · rw [Nat.toDigits_of_lt_base small]
      simp
      omega
    · rw [Nat.toDigits_of_base_le (by decide) (Nat.not_lt.mp small)]
      have higher := ih (number / 10) (by omega) (by omega)
      cases digits : Nat.toDigits 10 (number / 10) with
      | nil => exact absurd digits Nat.toDigits_ne_nil
      | cons first rest => rwa [digits] at higher

theorem isNumeral_toDigits {number : Nat} (inRange : number ≤ Slot.maxIndex) :
    IsNumeral number (Nat.toDigits 10 number) := by
  refine ⟨Nat.toDigits_ne_nil, ?_, ?_, Nat.ofDigitChars_ten_toDigits, inRange⟩
  · exact isDigits_toDigits number
  · intro zero
    have isZero : number = 0 := by
      by_cases positive : 0 < number
      · exact absurd zero (head?_toDigits_ne_zero positive)
      · omega
    rw [isZero]
    rfl

theorem IsNumeral.eq_toDigits {number : Nat} {digits : List Char}
    (numeral : IsNumeral number digits) : digits = Nat.toDigits 10 number := by
  obtain ⟨nonempty, isDigits, noLeadingZero, value, _⟩ := numeral
  have denotes : numberOf digits = number := value
  rw [← denotes, toDigits_numberOf isDigits, plainDigits]
  cases digits with
  | nil => exact absurd rfl nonempty
  | cons first rest =>
    by_cases zero : first = '0'
    next =>
      subst zero
      have alone : rest = [] := by simpa using noLeadingZero rfl
      rw [alone]
      rfl
    next => simp [zero]

def Token.Printable : Token -> Prop
  | .word spelling => IsWord spelling.toList
  | .number value => value ≤ Slot.maxIndex
  | .endOfInput | .text _ | .pound => False
  | .openBrace | .closeBrace | .comma | .equals | .colon => True

theorem Token.spelled_print {token : Token} (printable : token.Printable) :
    token.Spelled token.print := by
  cases token with
  | word spelling =>
    have spelled := Token.Spelled.word printable
    rwa [String.ofList_toList] at spelled
  | number value => exact .number (isNumeral_toDigits printable)
  | openBrace => exact .openBrace
  | closeBrace => exact .closeBrace
  | comma => exact .comma
  | equals => exact .equals
  | colon => exact .colon
  | _ => cases printable

theorem Token.Spelled.eq_print {token : Token} {spelling : List Char}
    (spelled : token.Spelled spelling) : spelling = token.print := by
  cases spelled with
  | word => exact String.toList_ofList.symm
  | number numeral => exact numeral.eq_toDigits
  | _ => rfl

theorem Lexeme.ofSpelled {token : Token} {spelling : List Char} (spelled : token.Spelled spelling) :
    Lexeme token spelling := by
  have lexeme : Lexeme token ([] ++ spelling) := .mk (by simp) spelled
  exact lexeme

theorem lexemes_printTokens {tokens : List Token} (printable : ∀ token ∈ tokens, token.Printable) :
    Lexemes tokens (printTokens tokens) := by
  induction tokens with
  | nil => exact .nil
  | cons token rest ih =>
    obtain ⟨first, others⟩ := List.forall_mem_cons.mp printable
    exact .cons (.ofSpelled (Token.spelled_print first)) (ih others)

theorem lexemes_printTokens_spaced {tokens : List Token} (nonempty : tokens ≠ [])
    (printable : ∀ token ∈ tokens, token.Printable) :
    Lexemes tokens (' ' :: printTokens tokens) := by
  cases tokens with
  | nil => exact absurd rfl nonempty
  | cons token rest =>
    obtain ⟨first, others⟩ := List.forall_mem_cons.mp printable
    have lexeme : Lexeme token ([' '] ++ token.print) :=
      .mk (List.forall_mem_singleton.mpr rfl) (Token.spelled_print first)
    exact .cons lexeme (lexemes_printTokens others)

theorem Slot.WellFormed.printable {slot : Slot} (wellFormed : slot.WellFormed) :
    slot.token.Printable := by
  cases slot <;> exact wellFormed

theorem Selector.WellFormed.written {selector : Selector} (wellFormed : selector.WellFormed) :
    selector.Written selector.tokens := by
  cases selector with
  | keyword word => exact .keyword word
  | exactly number =>
    obtain ⟨nonneg, inRange⟩ := wellFormed
    have same : (number.toNat : Int) = number := Int.toNat_of_nonneg nonneg
    have written := Selector.Written.exactly number.toNat (by omega)
    rwa [same] at written

theorem Selector.maxNumber_le_maxIndex : Selector.maxNumber ≤ Slot.maxIndex := by
  decide

theorem Selector.WellFormed.printable {selector : Selector} (wellFormed : selector.WellFormed) :
    ∀ token ∈ selector.tokens, token.Printable := by
  cases selector with
  | keyword word => exact List.forall_mem_singleton.mpr wellFormed
  | exactly number =>
    obtain ⟨nonneg, inRange⟩ := wellFormed
    have small : number.toNat ≤ Slot.maxIndex := by
      have bound := Selector.maxNumber_le_maxIndex
      omega
    exact List.forall_mem_cons.mpr ⟨trivial, List.forall_mem_singleton.mpr small⟩

instance IsWord.decidable : DecidablePred IsWord
  | [] => .isFalse id
  | first :: rest =>
      decidable_of_iff (isWordStart first = true ∧ rest.all isWordPart = true) (by simp [IsWord])

theorem DateTimeKind.isWord_keyword (kind : DateTimeKind) : IsWord kind.keyword.toList := by
  cases kind <;> decide

theorem DateTimeStyle.isWord_keyword (style : DateTimeStyle) : IsWord style.keyword.toList := by
  cases style <;> decide

theorem PluralKind.isWord_keyword (kind : PluralKind) : IsWord kind.keyword.toList := by
  cases kind <;> decide

theorem printable_slot {slot : Slot} {tokens : List Token} (wellFormed : slot.WellFormed)
    (printable : ∀ token ∈ tokens, token.Printable) :
    ∀ token ∈ slot.token :: tokens, token.Printable :=
  List.forall_mem_cons.mpr ⟨wellFormed.printable, printable⟩

inductive AfterText : List Node -> Prop
  | nil : AfterText []
  | cons {node : Node} {nodes : List Node} (notText : ¬ node.IsText)
      (alternates : Alternates nodes) : AfterText (node :: nodes)

structure Printed (plural : Bool) (nodes : List Node) : Prop where
  body : Alternates nodes ->
    (Phrase.body plural nodes).Spelled (Node.printAll plural nodes)
  rest : AfterText nodes -> ∀ (source content : List Char), TextSpelled plural source content ->
    (Phrase.body plural (.text (String.ofList content) :: nodes)).Spelled
      (source ++ Node.printAll plural nodes)

theorem Printed.text {plural : Bool} {content : String} {nodes : List Node}
    (printed : Printed plural nodes) : Printed plural (.text content :: nodes) := by
  constructor
  · intro alternates
    have after : AfterText nodes := by
      cases alternates with
      | text => exact .nil
      | cons _ notText alternates => exact .cons notText alternates
    have spelled := printed.rest after _ _ (textSpelled_printText plural content.toList)
    rwa [String.ofList_toList] at spelled
  · intro after
    cases after with
    | cons notText => exact absurd ⟨content, rfl⟩ notText

theorem Printed.argument {plural : Bool} {node : Node} {nodes : List Node} {inside : List Char}
    (notText : ¬ node.IsText) (same : node.print plural = '{' :: inside)
    (spelled : (Phrase.argument node).Spelled inside) (printed : Printed plural nodes) :
    Printed plural (node :: nodes) := by
  constructor
  · intro alternates
    cases alternates with
    | text content => exact absurd ⟨content, rfl⟩ notText
    | cons content => exact absurd ⟨content, rfl⟩ notText
  · intro after source content text
    cases after with
    | cons _ alternates =>
      rw [Node.printAll, same]
      exact .argument text spelled (printed.body alternates)

theorem Printed.pound {nodes : List Node} (printed : Printed true nodes) :
    Printed true (.pound :: nodes) := by
  constructor
  · intro alternates
    cases alternates
  · intro after source content text
    cases after with
    | cons _ alternates => exact .pound text (printed.body alternates)

theorem spelled_printSelect {clauses : List (Clause String Node)}
    (wellFormed : selectWellFormed clauses)
    (bodies : ∀ clause ∈ clauses, Node.allWellFormed false clause.body ->
      Printed false clause.body) :
    (Phrase.selectClauses clauses).Spelled (printSelect clauses) := by
  induction clauses with
  | nil => exact .selectEnd (.ofSpelled .closeBrace)
  | cons clause rest ih =>
    obtain ⟨isWord, alternates, bodyWellFormed, restWellFormed⟩ := wellFormed
    obtain ⟨bodyPrinted, restPrinted⟩ := List.forall_mem_cons.mp bodies
    have tokens : Lexemes [.word clause.selector, .openBrace] (' ' :: printTokens _) :=
      lexemes_printTokens_spaced (by simp) (by simpa [Token.Printable] using isWord)
    exact .selectClause tokens ((bodyPrinted bodyWellFormed).body alternates)
      (ih restWellFormed restPrinted)

theorem spelled_printPlural {clauses : List (Clause Selector Node)}
    (wellFormed : pluralWellFormed clauses)
    (bodies : ∀ clause ∈ clauses, Node.allWellFormed true clause.body ->
      Printed true clause.body) :
    (Phrase.pluralClauses clauses).Spelled (printPlural clauses) := by
  induction clauses with
  | nil => exact .pluralEnd (.ofSpelled .closeBrace)
  | cons clause rest ih =>
    obtain ⟨selectorWellFormed, alternates, bodyWellFormed, restWellFormed⟩ := wellFormed
    obtain ⟨bodyPrinted, restPrinted⟩ := List.forall_mem_cons.mp bodies
    have tokens : Lexemes (clause.selector.tokens ++ [.openBrace]) (' ' :: printTokens _) :=
      lexemes_printTokens_spaced (by simp) (List.forall_mem_append.mpr
        ⟨selectorWellFormed.printable, List.forall_mem_singleton.mpr trivial⟩)
    exact .pluralClause selectorWellFormed.written tokens
      ((bodyPrinted bodyWellFormed).body alternates) (ih restWellFormed restPrinted)

theorem printed (nodes : List Node) :
    ∀ plural, Node.allWellFormed plural nodes -> Printed plural nodes := by
  -- A body alternates, so of the two ways to be printed each node in front serves one.
  induction nodes using Node.induction with
  | nil =>
    intro plural _
    constructor
    · intro alternates
      cases alternates
    · intro _ source content text
      rw [Node.printAll, List.append_nil]
      exact .text text
  | text content rest ih =>
    rintro plural ⟨_, wellFormed⟩
    exact (ih plural wellFormed).text
  | argument slot rest ih =>
    rintro plural ⟨slotWellFormed, wellFormed⟩
    refine .argument (by simp [Node.IsText]) rfl (.bare ?_) (ih plural wellFormed)
    exact lexemes_printTokens (printable_slot slotWellFormed (by simp [Token.Printable]))
  | dateTime slot kind style rest ih =>
    rintro plural ⟨slotWellFormed, wellFormed⟩
    refine .argument (by simp [Node.IsText]) rfl (.dateTime ?_) (ih plural wellFormed)
    apply lexemes_printTokens
    apply printable_slot slotWellFormed
    simp only [List.forall_mem_cons]
    exact ⟨trivial, kind.isWord_keyword, trivial, style.isWord_keyword, trivial, by simp⟩
  | select slot clauses rest bodies ih =>
    rintro plural ⟨⟨slotWellFormed, nonempty, clausesWellFormed⟩, wellFormed⟩
    have spelled : (Phrase.selectClauses clauses).Spelled (printSelect clauses) :=
      spelled_printSelect clausesWellFormed fun clause member => bodies clause member false
    refine .argument (by simp [Node.IsText]) rfl (.select ?_ nonempty spelled) (ih plural wellFormed)
    apply lexemes_printTokens
    apply printable_slot slotWellFormed
    have keyword : IsWord "select".toList := by decide
    simp only [List.forall_mem_cons]
    exact ⟨trivial, keyword, trivial, by simp⟩
  | plural slot kind offset clauses rest bodies ih =>
    rintro plural ⟨⟨slotWellFormed, nonneg, inRange, nonempty, clausesWellFormed⟩, wellFormed⟩
    have spelled : (Phrase.pluralClauses clauses).Spelled (printPlural clauses) :=
      spelled_printPlural clausesWellFormed fun clause member => bodies clause member true
    have small : offset.toNat ≤ Selector.maxNumber := by omega
    have printable : ∀ token ∈ [Token.comma, .word kind.keyword, .comma, .word "offset", .colon,
        .number offset.toNat], token.Printable := by
      have keyword : IsWord "offset".toList := by decide
      have inRange := Nat.le_trans small Selector.maxNumber_le_maxIndex
      simp only [List.forall_mem_cons]
      exact ⟨trivial, kind.isWord_keyword, trivial, keyword, trivial, inRange, by simp⟩
    have tokens := lexemes_printTokens (printable_slot slotWellFormed printable)
    have argument := Phrase.Spelled.pluralOffset tokens nonempty small spelled
    rw [Int.toNat_of_nonneg nonneg] at argument
    exact .argument (by simp [Node.IsText]) rfl argument (ih plural wellFormed)
  | pound rest ih =>
    rintro plural ⟨rfl, wellFormed⟩
    exact (ih true wellFormed).pound

/-- The messages that are read are the well-formed ones, and each is read from what is written for
it. -/
theorem Message.parse_wellFormed (limit : Nat) (message : Message) :
    ((∃ pattern, Message.parse limit pattern = .ok message) ↔ message.WellFormed limit) ∧
      (Message.parse limit message.print = .ok message ↔ message.WellFormed limit) := by
  have readBack (wellFormed : message.WellFormed limit) :
      Message.parse limit message.print = .ok message := by
    have spelled := (printed message.nodes false wellFormed.nodes).body wellFormed.alternates
    refine Message.parse_of_spelled ?_ wellFormed.depth
    rwa [Message.SpelledBy, Message.print, String.toList_ofList]
  have wellFormed {pattern : String} (parsed : Message.parse limit pattern = .ok message) :
      message.WellFormed limit := by
    obtain ⟨spelled, within⟩ := Message.spelled_of_parse parsed
    obtain ⟨alternates, nodes⟩ := spelled.wellFormed
    exact ⟨alternates, nodes, within⟩
  constructor
  · constructor
    · rintro ⟨pattern, parsed⟩
      exact wellFormed parsed
    · exact fun isWellFormed => ⟨message.print, readBack isWellFormed⟩
  · exact ⟨wellFormed, readBack⟩

end MessagePattern

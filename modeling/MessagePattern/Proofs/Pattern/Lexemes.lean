import MessagePattern.Pattern.Progress
import MessagePattern.Proofs.Pattern.Grammar

set_option autoImplicit false

namespace MessagePattern

theorem isDigit_iff {character : Char} :
    character.isDigit = true ↔ 48 ≤ character.toNat ∧ character.toNat ≤ 57 := by
  simp only [Char.isDigit, Bool.and_eq_true, decide_eq_true_eq, ge_iff_le, UInt32.le_iff_toNat_le]
  rfl

theorem isWordStart_iff {character : Char} :
    isWordStart character = true ↔ 65 ≤ character.toNat ∧ character.toNat ≤ 90 ∨
      97 ≤ character.toNat ∧ character.toNat ≤ 122 ∨ character.toNat = 95 := by
  have underscore : character = '_' ↔ character.toNat = 95 := Char.toNat_inj.symm
  have letters : isWordStart character = (decide (character.val ≥ 65 ∧ character.val ≤ 90) ||
      (character.val ≥ 97 && character.val ≤ 122) || character == '_') := rfl
  simp only [letters, Bool.or_eq_true, Bool.and_eq_true, decide_eq_true_eq, beq_iff_eq, ge_iff_le,
    UInt32.le_iff_toNat_le, underscore, or_assoc]
  rfl

theorem isWordPart_iff {character : Char} :
    isWordPart character = true ↔ isWordStart character = true ∨ character.isDigit = true := by
  simp only [isWordPart, isWordStart, Char.isAlphanum, Bool.or_eq_true]
  grind

theorem not_isDigit_of_isWordStart {character : Char} (start : isWordStart character = true) :
    character.isDigit = false := by
  rw [← Bool.not_eq_true, isDigit_iff]
  rw [isWordStart_iff] at start
  omega

theorem not_isWordPart_of_isBlank {character : Char} (blank : isBlank character = true) :
    isWordPart character = false := by
  have outside : character.toNat ≤ 32 ∨ 128 ≤ character.toNat := by
    simp only [isBlank, inRanges, blankRanges, Bool.and_eq_true, Bool.or_eq_true,
      decide_eq_true_eq] at blank
    omega
  rw [← Bool.not_eq_true, isWordPart_iff, isWordStart_iff, isDigit_iff]
  omega

theorem not_isBlank_of_isWordPart {character : Char} (part : isWordPart character = true) :
    isBlank character = false := by
  rw [← Bool.not_eq_true]
  intro blank
  rw [not_isWordPart_of_isBlank blank] at part
  cases part

namespace Token

def extends? : Token -> Char -> Bool
  | .word _ => isWordPart
  | .number _ => Char.isDigit
  | _ => fun _ => false

def Stops (token : Token) (tail : List Char) : Prop :=
  ∀ character ∈ tail.head?, token.extends? character = false

def isMark : Token -> Bool
  | .openBrace | .closeBrace | .comma | .equals | .colon => true
  | _ => false

theorem extends?_of_not_isWordPart {token : Token} {character : Char}
    (notPart : isWordPart character = false) : token.extends? character = false := by
  cases token with
  | word => exact notPart
  | number =>
    rw [← Bool.not_eq_true] at notPart ⊢
    exact fun digit => notPart (isWordPart_iff.mpr (.inr digit))
  | _ => rfl

theorem stops_of_isMark {token : Token} (isMark : token.isMark = true) (tail : List Char) :
    token.Stops tail := by
  cases token with
  | word => cases isMark
  | number => cases isMark
  | _ => exact fun _ _ => rfl

theorem Stops.congr_front {token : Token} {front tail : List Char} (nonempty : front ≠ [])
    (stops : token.Stops (front ++ tail)) (other : List Char) : token.Stops (front ++ other) := by
  cases front with
  | nil => exact absurd rfl nonempty
  | cons first rest => exact stops

theorem Spelled.notBlank {token : Token} {spelling : List Char} (spelled : token.Spelled spelling) :
    ∃ first rest, spelling = first :: rest ∧ isBlank first = false := by
  cases spelled with
  | word isWord =>
    cases spelling with
    | nil => cases isWord
    | cons first rest =>
      exact ⟨first, rest, rfl, not_isBlank_of_isWordPart (isWordPart_iff.mpr (.inl isWord.1))⟩
  | number numeral =>
    cases spelling with
    | nil => exact absurd rfl numeral.nonempty
    | cons first rest =>
      have digit : first.isDigit = true := numeral.allDigits first (by simp)
      exact ⟨first, rest, rfl, not_isBlank_of_isWordPart (isWordPart_iff.mpr (.inr digit))⟩
  | _ => exact ⟨_, _, rfl, by decide⟩

end Token

theorem Lexeme.stops {token next : Token} {source : List Char} (lexeme : Lexeme next source)
    (apart : ∀ spelling, next.Spelled spelling -> token.Stops spelling) (tail : List Char) :
    token.Stops (source ++ tail) := by
  cases lexeme with
  | @mk blank spelling isBlank spelled =>
    intro character first
    -- White space goes on with no token; without any, it is up to the lexeme's first character.
    cases blank with
    | nil =>
      obtain ⟨start, rest, rfl, _⟩ := spelled.notBlank
      exact apart _ spelled character first
    | cons space rest =>
      cases first
      exact Token.extends?_of_not_isWordPart (not_isWordPart_of_isBlank (isBlank _ (by simp)))

theorem Lexeme.stops_mark {token mark : Token} {source : List Char} (lexeme : Lexeme mark source)
    (isMark : mark.isMark = true) (tail : List Char) : token.Stops (source ++ tail) := by
  refine lexeme.stops ?_ tail
  intro spelling spelled character first
  apply Token.extends?_of_not_isWordPart
  cases spelled with
  | word => cases isMark
  | number => cases isMark
  | _ => cases first; decide

theorem Lexeme.stops_number {number : Nat} {word : String} {source : List Char}
    (lexeme : Lexeme (.word word) source) (tail : List Char) :
    (Token.number number).Stops (source ++ tail) := by
  refine lexeme.stops ?_ tail
  intro spelling spelled character first
  cases spelled with
  | word isWord =>
    cases spelling with
    | nil => cases isWord
    | cons start rest =>
      cases first
      exact not_isDigit_of_isWordStart isWord.1

theorem Lexemes.split (first : List Token) {second : List Token} {source : List Char}
    (tokens : Lexemes (first ++ second) source) :
    ∃ front tail, source = front ++ tail ∧ Lexemes first front ∧ Lexemes second tail := by
  induction first generalizing source with
  | nil => exact ⟨[], source, rfl, .nil, tokens⟩
  | cons token rest ih =>
    rcases tokens with _ | ⟨lexeme, others⟩
    obtain ⟨front, tail, rfl, restSpelled, secondSpelled⟩ := ih others
    exact ⟨_, tail, (List.append_assoc ..).symm, .cons lexeme restSpelled, secondSpelled⟩

theorem Phrase.Spelled.firstToken {clauses : List (Clause Selector Node)} {source : List Char}
    (spelled : (Phrase.pluralClauses clauses).Spelled source) (tail : List Char) :
    ∃ token front rest, source ++ tail = front ++ rest ∧ Lexeme token front ∧ token.Stops rest ∧
      (token = .word "offset" ↔ ∃ clause ∈ clauses.head?, clause.selector = .keyword "offset") ∧
      (token.isMark = true ∨ ∃ word, token = .word word) := by
  cases spelled with
  | pluralEnd brace =>
    exact ⟨.closeBrace, source, tail, rfl, brace, Token.stops_of_isMark rfl _, by simp, .inl rfl⟩
  | pluralClause written tokens body clauses =>
    cases written with
    | keyword word =>
      rcases tokens with _ | ⟨keyword, _ | ⟨brace, others⟩⟩
      refine ⟨.word word, _, _, by simp only [List.append_assoc]; rfl, keyword, ?_, by simp,
        .inr ⟨word, rfl⟩⟩
      exact brace.stops_mark rfl _
    | exactly number inRange =>
      rcases tokens with _ | ⟨equals, others⟩
      exact ⟨.equals, _, _, by simp only [List.append_assoc]; rfl, equals,
        Token.stops_of_isMark rfl _, by simp, .inl rfl⟩

theorem Phrase.Spelled.stops_number {clauses : List (Clause Selector Node)} {source : List Char}
    (spelled : (Phrase.pluralClauses clauses).Spelled source) (number : Nat) (tail : List Char) :
    (Token.number number).Stops (source ++ tail) := by
  obtain ⟨token, front, rest, same, lexeme, _, _, kind⟩ := spelled.firstToken tail
  rw [same]
  rcases kind with isMark | ⟨word, rfl⟩
  · exact lexeme.stops_mark isMark rest
  · exact lexeme.stops_number rest

def Token.modeAfter : Token -> LexicalMode
  | .openBrace | .closeBrace => .text
  | _ => .argument

theorem Token.stops_of_modeAfter {token : Token} (mode : token.modeAfter = .text)
    (tail : List Char) : token.Stops tail := by
  cases token with
  | openBrace => exact stops_of_isMark rfl tail
  | closeBrace => exact stops_of_isMark rfl tail
  | _ => cases mode

theorem takeWhile_append {p : Char -> Bool} {front tail : List Char}
    (all : ∀ character ∈ front, p character = true)
    (stops : ∀ character ∈ tail.head?, p character = false) :
    (front ++ tail).takeWhile p = front := by
  rw [List.takeWhile_append_of_pos all]
  cases tail with
  | nil => simp
  | cons first rest => simp [stops first rfl]

namespace Cursor

theorem skip_append (front tail : List Char) (offset : Nat) (mode : LexicalMode) :
    skip ⟨front ++ tail, offset, mode⟩ front = ⟨tail, offset + utf8Length front, mode⟩ := by
  simp [skip]

theorem punctuation?_of_isWordPart {character : Char} (part : isWordPart character = true)
    (rest : List Char) (offset : Nat) :
    punctuation? ⟨character :: rest, offset, .argument⟩ = none := by
  unfold punctuation?
  split
  case h_6 => rfl
  all_goals
    rename_i same
    cases same
    exact absurd part (by decide)

theorem readNumber_of_isNumeral {number : Nat} {digits : List Char}
    (numeral : IsNumeral number digits) : readNumber digits = .ok number := by
  have noLeadingZero : (1 < digits.length && digits.head? == some '0') = false := by
    cases zero : digits.head? == some '0' with
    | false => simp
    | true => simp [numeral.noLeadingZero (by simpa using zero)]
  have inRange : ¬ Slot.maxIndex < number := Nat.not_lt.mpr numeral.inRange
  simp [readNumber, noLeadingZero, numeral.value, inRange]

theorem lexToken_spelled {token : Token} {spelling tail : List Char}
    (spelled : token.Spelled spelling) (stops : token.Stops tail) (offset : Nat) :
    lexToken ⟨spelling ++ tail, offset, .argument⟩ =
      (.ok [⟨token, offset⟩], ⟨tail, offset + utf8Length spelling, token.modeAfter⟩) := by
  cases spelled with
  | word isWord =>
    have parts : ∀ character ∈ spelling, isWordPart character = true := by
      cases spelling with
      | nil => cases isWord
      | cons first rest =>
        simpa [isWordPart_iff.mpr (.inl isWord.1)] using isWord.2
    have taken := takeWhile_append parts stops
    cases spelling with
    | nil => cases isWord
    | cons first rest =>
      rw [List.cons_append] at taken
      simp [lexToken, punctuation?_of_isWordPart (parts first (by simp)), taken, isWord.1,
        not_isDigit_of_isWordStart isWord.1, skip, Token.modeAfter]
  | number numeral =>
    have taken := takeWhile_append numeral.allDigits stops
    cases spelling with
    | nil => exact absurd rfl numeral.nonempty
    | cons first rest =>
      have digit : first.isDigit = true := numeral.allDigits first (by simp)
      rw [List.cons_append] at taken
      simp [lexToken, punctuation?_of_isWordPart (isWordPart_iff.mpr (.inr digit)), taken, digit,
        readNumber_of_isNumeral numeral, skip, Token.modeAfter]
  | _ => rfl

theorem skipBlank_append {blank spelling : List Char}
    (isBlank : ∀ character ∈ blank, isBlank character = true)
    (notBlank : ∃ first rest, spelling = first :: rest ∧ MessagePattern.isBlank first = false)
    (offset : Nat) (mode : LexicalMode) :
    skipBlank ⟨blank ++ spelling, offset, mode⟩ = ⟨spelling, offset + utf8Length blank, mode⟩ := by
  obtain ⟨first, rest, rfl, notBlank⟩ := notBlank
  have taken : (blank ++ first :: rest).takeWhile MessagePattern.isBlank = blank :=
    takeWhile_append isBlank (by simp [notBlank])
  rw [skipBlank, taken, skip_append]

theorem lex_blank {blank : List Char} (isBlank : ∀ character ∈ blank, isBlank character = true)
    (plural : Bool) (rest : List Char) (offset : Nat) :
    lex plural ⟨blank ++ rest, offset, .argument⟩ =
      lex plural ⟨rest, offset + utf8Length blank, .argument⟩ := by
  simp only [lex, skipBlank, List.takeWhile_append_of_pos isBlank]
  simp [skip, Nat.add_assoc]

theorem lex_spelled {token : Token} {blank spelling tail : List Char}
    (isBlank : ∀ character ∈ blank, isBlank character = true) (spelled : token.Spelled spelling)
    (stops : token.Stops tail) (plural : Bool) (offset : Nat) :
    lex plural ⟨blank ++ (spelling ++ tail), offset, .argument⟩ =
      (.ok [⟨token, offset + utf8Length blank⟩],
        ⟨tail, offset + utf8Length blank + utf8Length spelling, token.modeAfter⟩) := by
  obtain ⟨first, rest, rfl, notBlank⟩ := spelled.notBlank
  have skipped := skipBlank_append isBlank ⟨first, rest ++ tail, rfl, notBlank⟩ offset .argument
  simp only [lex, List.cons_append, skipped]
  rw [← List.cons_append, lexToken_spelled spelled stops]

theorem lex_lexeme {token : Token} {source tail : List Char} (lexeme : Lexeme token source)
    (stops : token.Stops tail) (plural : Bool) (offset : Nat) :
    ∃ start, lex plural ⟨source ++ tail, offset, .argument⟩ =
      (.ok [⟨token, start⟩], ⟨tail, offset + utf8Length source, token.modeAfter⟩) := by
  cases lexeme with
  | @mk blank spelling isBlank spelled =>
    rw [List.append_assoc, utf8Length_append, ← Nat.add_assoc]
    exact ⟨_, lex_spelled isBlank spelled stops plural offset⟩

theorem punctuation?_spelled {source : List Char} {place : Nat} {token : Token} {next : Cursor}
    (found : punctuation? ⟨source, place, .argument⟩ = some (token, next)) :
    ∃ spelling tail, source = spelling ++ tail ∧ token.Spelled spelling ∧ token.isMark = true ∧
      next = ⟨tail, place + utf8Length spelling, token.modeAfter⟩ := by
  unfold punctuation? at found
  split at found
  next rest same => cases found; exact ⟨['{'], rest, same, .openBrace, rfl, rfl⟩
  next rest same => cases found; exact ⟨['}'], rest, same, .closeBrace, rfl, rfl⟩
  next rest same => cases found; exact ⟨[','], rest, same, .comma, rfl, rfl⟩
  next rest same => cases found; exact ⟨['='], rest, same, .equals, rfl, rfl⟩
  next rest same => cases found; exact ⟨[':'], rest, same, .colon, rfl, rfl⟩
  next => cases found

theorem skip_takeWhile (source : List Char) (p : Char -> Bool) (place : Nat) (mode : LexicalMode) :
    skip ⟨source, place, mode⟩ (source.takeWhile p) =
      ⟨source.dropWhile p, place + utf8Length (source.takeWhile p), mode⟩ := by
  have whole := skip_append (source.takeWhile p) (source.dropWhile p) place mode
  rwa [List.takeWhile_append_dropWhile] at whole

theorem isNumeral_of_readNumber {number : Nat} {digits : List Char} (nonempty : digits ≠ [])
    (allDigits : ∀ character ∈ digits, character.isDigit = true)
    (valid : readNumber digits = .ok number) : IsNumeral number digits := by
  simp only [readNumber] at valid
  split at valid
  next => cases valid
  next noLeadingZero =>
    split at valid
    next => cases valid
    next inRange =>
      cases valid
      refine ⟨nonempty, allDigits, ?_, rfl, Nat.not_lt.mp inRange⟩
      intro zero
      have long : ¬ 1 < digits.length := by simpa [zero] using noLeadingZero
      have short := List.length_pos_iff.mpr nonempty
      omega

theorem all_takeWhile (source : List Char) (p : Char -> Bool) :
    ∀ character ∈ source.takeWhile p, p character = true :=
  List.all_eq_true.mp List.all_takeWhile

inductive TokenStep : List Char -> Nat -> Except SyntaxFault (List LocatedToken) × Cursor -> Prop
  | endOfInput (place : Nat) :
      TokenStep [] place (.ok [⟨.endOfInput, place⟩], ⟨[], place, .argument⟩)
  | token {token : Token} {spelling tail : List Char} (place : Nat)
      (spelled : token.Spelled spelling) (stops : token.Stops tail) :
      TokenStep (spelling ++ tail) place
        (.ok [⟨token, place⟩], ⟨tail, place + utf8Length spelling, token.modeAfter⟩)
  | fault (source : List Char) (place : Nat) (cause : SyntaxCause) (next : Cursor) :
      TokenStep source place (.error { cause, offset := place }, next)

theorem TokenStep.takeWhile {source : List Char} {place : Nat} {token : Token} {p : Char -> Bool}
    (spelled : token.Spelled (source.takeWhile p)) (extends? : token.extends? = p)
    (mode : token.modeAfter = .argument) :
    TokenStep source place
      (.ok [⟨token, place⟩], skip ⟨source, place, .argument⟩ (source.takeWhile p)) := by
  have stops : token.Stops (source.dropWhile p) := by
    intro character first
    have stopped := List.head?_dropWhile_not p source
    rw [Option.mem_def.mp first] at stopped
    rw [extends?]
    exact stopped
  have step := TokenStep.token place spelled stops
  rwa [List.takeWhile_append_dropWhile, mode, ← skip_takeWhile] at step

theorem lexToken_step (source : List Char) (place : Nat) :
    TokenStep source place (lexToken ⟨source, place, .argument⟩) := by
  unfold lexToken
  cases source with
  | nil => exact .endOfInput place
  | cons first rest =>
    simp only
    split
    next token next found =>
      obtain ⟨spelling, tail, same, spelled, isMark, rfl⟩ := punctuation?_spelled found
      rw [same]
      exact .token place spelled (Token.stops_of_isMark isMark tail)
    next =>
      by_cases digit : first.isDigit = true
      next =>
        rw [if_pos digit]
        split
        next number valid =>
          have digits : (first :: rest).takeWhile Char.isDigit ≠ [] := by simp [digit]
          have numeral := isNumeral_of_readNumber digits (all_takeWhile _ _) valid
          exact .takeWhile (.number numeral) rfl rfl
        next cause _ => exact .fault _ place cause _
      next =>
        rw [if_neg digit]
        by_cases start : isWordStart first = true
        next =>
          rw [if_pos start]
          have isWord : IsWord ((first :: rest).takeWhile isWordPart) := by
            have parts := all_takeWhile (first :: rest) isWordPart
            rw [List.takeWhile_cons_of_pos (isWordPart_iff.mpr (.inl start))] at parts ⊢
            exact ⟨start, fun character member => parts character (.tail _ member)⟩
          exact .takeWhile (.word isWord) rfl rfl
        next =>
          rw [if_neg start]
          exact .fault _ place _ _

theorem lex_argument (plural : Bool) (source : List Char) (offset : Nat) :
    ∃ blank rest, source = blank ++ rest ∧ (∀ character ∈ blank, isBlank character = true) ∧
      TokenStep rest (offset + utf8Length blank) (lex plural ⟨source, offset, .argument⟩) := by
  refine ⟨source.takeWhile isBlank, source.dropWhile isBlank,
    List.takeWhile_append_dropWhile.symm, all_takeWhile source isBlank, ?_⟩
  have skipped : skipBlank ⟨source, offset, .argument⟩ = _ := skip_takeWhile source isBlank _ _
  simp only [lex, skipped]
  exact lexToken_step _ _

theorem lex_argument_ok {plural : Bool} {source : List Char} {offset : Nat} {next : Cursor}
    {tokens : List LocatedToken}
    (lexed : lex plural ⟨source, offset, .argument⟩ = (.ok tokens, next)) :
    ∃ token start, tokens = [⟨token, start⟩] ∧ (token = .endOfInput ∨
      ∃ lexeme, source = lexeme ++ next.rest ∧ Lexeme token lexeme ∧
        next.mode = token.modeAfter) := by
  obtain ⟨blank, rest, rfl, isBlank, step⟩ := lex_argument plural source offset
  rw [lexed] at step
  cases step with
  | endOfInput => exact ⟨_, _, rfl, .inl rfl⟩
  | token _ spelled stops =>
    exact ⟨_, _, rfl, .inr ⟨_, (List.append_assoc ..).symm, .mk isBlank spelled, rfl⟩⟩

end Cursor

end MessagePattern

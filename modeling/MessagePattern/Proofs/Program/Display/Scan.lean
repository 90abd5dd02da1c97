import MessagePattern.Proofs.Text.Quoted

set_option autoImplicit false

namespace MessagePattern

namespace Display

inductive Token
  | run (letters : List Char)
  | quoted (text : List Char)
  | blank
  | opening
  | closing

inductive Piece
  | character (letter : Char)
  | tag (tokens : List Token)

def isRunCharacter (letter : Char) : Bool :=
  letter != '}' && letter != '"' && letter != ' ' && letter != '(' && letter != ')'

structure TagScan where
  tokens : List Token
  pieces : List Piece

def TagScan.push (token : Token) (scan : TagScan) : TagScan :=
  { scan with tokens := token :: scan.tokens }

def TagScan.extend (letter : Char) (scan : TagScan) : TagScan :=
  match scan.tokens with
  | .run letters :: rest => { scan with tokens := .run (letter :: letters) :: rest }
  | tokens => { scan with tokens := .run [letter] :: tokens }

mutual

def scan : List Char -> List Piece
  | '{' :: '{' :: rest => .tag (scanTag rest).tokens :: (scanTag rest).pieces
  | letter :: rest => .character letter :: scan rest
  | [] => []

def scanTag : List Char -> TagScan
  | '}' :: '}' :: rest => { tokens := [], pieces := scan rest }
  | '"' :: rest => scanQuoted [] rest
  | ' ' :: rest => (scanTag rest).push .blank
  | '(' :: rest => (scanTag rest).push .opening
  | ')' :: rest => (scanTag rest).push .closing
  | letter :: rest => (scanTag rest).extend letter
  | [] => { tokens := [], pieces := [] }

-- A quoted text, of which some has been read, ends at a quote that no backslash hides.
def scanQuoted (front : List Char) : List Char -> TagScan
  | '"' :: rest => (scanTag rest).push (.quoted (unquoted front))
  | '\\' :: letter :: rest => scanQuoted (front ++ ['\\', letter]) rest
  | letter :: rest => scanQuoted (front ++ [letter]) rest
  | [] => { tokens := [], pieces := [] }

end

def Token.text : Token -> List Char
  | .run letters => letters
  | .quoted text => '"' :: (text.flatMap (quotedCharacter '"') ++ ['"'])
  | .blank => [' ']
  | .opening => ['(']
  | .closing => [')']

def BeginsRun (tokens : List Token) : Prop :=
  ∃ letters rest, tokens = .run letters :: rest

-- Tokens that can be told apart: no run is empty, goes on in the next one, or holds a character
-- that is no part of a run.
def Apart : List Token -> Prop
  | [] => True
  | .run letters :: rest =>
      letters ≠ [] ∧ (∀ letter ∈ letters, isRunCharacter letter = true) ∧ ¬ BeginsRun rest ∧
        Apart rest
  | _ :: rest => Apart rest

section Scanning

theorem scan_character {letter : Char} (notBrace : letter ≠ '{') (rest : List Char) :
    scan (letter :: rest) = .character letter :: scan rest := by
  rw [scan]
  exact fun _ same => absurd same notBrace

theorem scanTag_extend {letter : Char} (isRun : isRunCharacter letter = true) (rest : List Char) :
    scanTag (letter :: rest) = (scanTag rest).extend letter := by
  simp only [isRunCharacter, Bool.and_eq_true, bne_iff_ne] at isRun
  rw [scanTag] <;> simp_all

theorem scanQuoted_plain {letters : List Char} (notQuote : '"' ∉ letters)
    (notBackslash : '\\' ∉ letters) (front rest : List Char) :
    scanQuoted front (letters ++ rest) = scanQuoted (front ++ letters) rest := by
  induction letters generalizing front with
  | nil => simp
  | cons letter letters ih =>
    rw [List.mem_cons, not_or] at notQuote notBackslash
    rw [List.cons_append, scanQuoted, ih notQuote.2 notBackslash.2, List.append_assoc,
      List.singleton_append]
    · exact fun same => notQuote.1 same.symm
    · exact fun _ _ same => absurd same.symm notBackslash.1

theorem scanQuoted_append {character : Char} {written : List Char}
    (quotedAs : QuotedAs character written) (front rest : List Char) :
    scanQuoted front (written ++ rest) = scanQuoted (front ++ written) rest := by
  cases quotedAs with
  | plain notQuote notBackslash =>
    exact scanQuoted_plain (by simpa using notQuote.symm) (by simpa using notBackslash.symm) _ _
  | escaped => rw [List.cons_append, List.singleton_append, scanQuoted]
  | codePoint =>
    have digits : ∀ digit ∈ Nat.toDigits 16 character.toNat, digit ≠ '"' ∧ digit ≠ '\\' := by
      intro digit member
      obtain ⟨value, small, rfl⟩ := mem_toDigits_sixteen member
      have others : ∀ value < 16, Nat.digitChar value ≠ '"' ∧ Nat.digitChar value ≠ '\\' := by
        decide
      exact others value small
    have notQuote : '"' ∉ '{' :: (Nat.toDigits 16 character.toNat ++ ['}']) := by
      simpa using fun member => (digits _ member).1 rfl
    have notBackslash : '\\' ∉ '{' :: (Nat.toDigits 16 character.toNat ++ ['}']) := by
      simpa using fun member => (digits _ member).2 rfl
    have plain := scanQuoted_plain notQuote notBackslash (front ++ ['\\', 'u']) rest
    simpa [codePointEscape, scanQuoted] using plain

theorem scanQuoted_flatMap (text front rest : List Char) :
    scanQuoted front (text.flatMap (quotedCharacter '"') ++ rest) =
      scanQuoted (front ++ text.flatMap (quotedCharacter '"')) rest := by
  induction text generalizing front with
  | nil => simp
  | cons character text ih =>
    rw [List.flatMap_cons, List.append_assoc,
      scanQuoted_append (quotedAs_quotedCharacter character), ih, List.append_assoc]

theorem scanTag_quoted (text rest : List Char) :
    scanTag ((Token.quoted text).text ++ rest) = (scanTag rest).push (.quoted text) := by
  rw [Token.text, List.cons_append, List.append_assoc, scanTag, scanQuoted_flatMap, List.nil_append,
    List.singleton_append, scanQuoted, unquoted_flatMap]

theorem extend_push {letter : Char} {letters : List Char} (scan : TagScan) :
    (scan.push (.run letters)).extend letter = scan.push (.run (letter :: letters)) := rfl

theorem extend_of_not_beginsRun {scan : TagScan} (apart : ¬ BeginsRun scan.tokens)
    (letter : Char) : scan.extend letter = scan.push (.run [letter]) := by
  unfold TagScan.extend
  split
  next letters rest same => exact absurd ⟨letters, rest, same⟩ apart
  next => rfl

theorem scanTag_run {letters rest : List Char} (nonempty : letters ≠ [])
    (isRun : ∀ letter ∈ letters, isRunCharacter letter = true)
    (apart : ¬ BeginsRun (scanTag rest).tokens) :
    scanTag (letters ++ rest) = (scanTag rest).push (.run letters) := by
  induction letters with
  | nil => exact absurd rfl nonempty
  | cons letter letters ih =>
    obtain ⟨here, later⟩ := List.forall_mem_cons.mp isRun
    rw [List.cons_append, scanTag_extend here]
    cases letters with
    | nil => exact extend_of_not_beginsRun apart letter
    | cons next letters => rw [ih (by simp) later, extend_push]

theorem scanTag_flatMap_text {tokens : List Token} (apart : Apart tokens) (rest : List Char) :
    scanTag (tokens.flatMap Token.text ++ '}' :: '}' :: rest) = { tokens, pieces := scan rest } := by
  induction tokens with
  | nil => rw [List.flatMap_nil, List.nil_append, scanTag]
  | cons token tokens ih =>
    rw [List.flatMap_cons, List.append_assoc]
    cases token with
    | run letters =>
      obtain ⟨nonempty, isRun, unjoined, apart⟩ := apart
      have later := ih apart
      rw [Token.text, scanTag_run nonempty isRun (by rwa [later]), later]
      rfl
    | quoted text => rw [scanTag_quoted, ih apart, TagScan.push]
    | blank | opening | closing =>
      rw [Token.text, List.singleton_append, scanTag, ih apart, TagScan.push]

def tagText (tokens : List Token) : List Char :=
  '{' :: '{' :: (tokens.flatMap Token.text ++ ['}', '}'])

theorem scan_tagText {tokens : List Token} (apart : Apart tokens) (rest : List Char) :
    scan (tagText tokens ++ rest) = .tag tokens :: scan rest := by
  have scanned := scanTag_flatMap_text apart rest
  rw [tagText, List.cons_append, List.cons_append, List.append_assoc, scan]
  simp only [List.cons_append, List.nil_append, scanned]

end Scanning

end Display

end MessagePattern

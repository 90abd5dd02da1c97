import Mathlib
import MessagePattern.Proofs.Pattern.Lexemes
import MessagePattern.Proofs.Pattern.TextRuns
import MessagePattern.Proofs.Pattern.TokenStream

set_option autoImplicit false

namespace MessagePattern

def glue : List LocatedToken -> List LocatedToken
  | [] => []
  | found :: rest =>
      match found.token, glue rest with
      | .text content, ⟨.pound, _⟩ :: ⟨.text after, _⟩ :: tail =>
          ⟨.text (content ++ "#" ++ after), found.offset⟩ :: tail
      | _, glued => found :: glued

theorem glue_cons {found : LocatedToken} (notText : found.token.kind ≠ .text)
    (rest : List LocatedToken) : glue (found :: rest) = found :: glue rest := by
  rw [glue]
  split
  next same _ =>
    rw [same] at notText
    exact absurd rfl notText
  next => rfl

theorem glue_text_cons (content : String) (offset : Nat) {last : LocatedToken}
    (notText : last.token.kind ≠ .text) (notPound : last.token ≠ .pound)
    (rest : List LocatedToken) :
    glue (⟨.text content, offset⟩ :: last :: rest) = ⟨.text content, offset⟩ :: last :: glue rest := by
  rw [glue, glue_cons notText]
  split
  next same =>
    obtain ⟨rfl, -⟩ := List.cons.inj same
    exact absurd rfl notPound
  next => rfl

theorem glue_text_pound (content after : String) (offset place next : Nat)
    {rest glued : List LocatedToken} (same : glue rest = ⟨.text after, next⟩ :: glued) :
    glue (⟨.text content, offset⟩ :: ⟨.pound, place⟩ :: rest) =
      ⟨.text (content ++ "#" ++ after), offset⟩ :: glued := by
  have notText : Token.pound.kind ≠ .text := by decide
  rw [glue, glue_cons notText, same]

def TextRun.onward (run : TextRun) : Except SyntaxFault (List LocatedToken) :=
  if run.terminator.token = .endOfInput then .ok [run.terminator]
  else (Cursor.tokens ⟨run.rest, run.offset, run.mode⟩).map (run.terminator :: ·)

namespace Cursor

theorem tokens_text {source : List Char} {offset : Nat} {run : TextRun}
    (read : TextRun.read false none offset source = .ok run) :
    tokens ⟨source, offset, .text⟩ =
      Except.map (⟨.text (String.ofList run.content), offset⟩ :: ·) run.onward := by
  have lexed : lex false ⟨source, offset, .text⟩ =
      (.ok [⟨.text (String.ofList run.content), offset⟩, run.terminator],
        ⟨run.rest, run.offset, run.mode⟩) := by
    simp only [lex, lexText, read]
  rw [TextRun.onward]
  by_cases ends : run.terminator.token = .endOfInput
  next =>
    rw [if_pos ends]
    exact tokens_of_end lexed (by simp [reportsEnd, ends])
  next =>
    rw [if_neg ends, tokens_of_step lexed (by simp [reportsEnd, ends])]
    cases tokens ⟨run.rest, run.offset, run.mode⟩ <;> rfl

theorem read_of_lex_fault {plural : Bool} {source : List Char} {offset : Nat} {fault : SyntaxFault}
    {next : Cursor} (lexed : lex plural ⟨source, offset, .text⟩ = (.error fault, next)) :
    TextRun.read plural none offset source = .error fault := by
  simp only [lex, lexText] at lexed
  split at lexed
  next => cases lexed
  next read => cases lexed; exact read

theorem tokens_text_fault {source : List Char} {offset : Nat} {fault : SyntaxFault}
    (read : TextRun.read false none offset source = .error fault) :
    tokens ⟨source, offset, .text⟩ = .error fault := by
  have lexed : lex false ⟨source, offset, .text⟩ =
      (.error fault, finish ⟨source, offset, .text⟩) := by
    simp only [lex, lexText, read]
  exact tokens_of_fault lexed

theorem tokens_pound {text content : List Char} (spelled : TextSpelled false text content)
    (offset : Nat) (rest : List Char) :
    ∃ after later,
      tokens ⟨rest, offset + utf8Length text + 1, .text⟩ =
        Except.map (⟨.text after, offset + utf8Length text + 1⟩ :: ·) later ∧
      tokens ⟨text ++ '#' :: rest, offset, .text⟩ =
        Except.map (⟨.text (String.ofList content ++ "#" ++ after), offset⟩ :: ·) later := by
  have isPlain : IsPlain false '#' := by simp [IsPlain]
  have goesOn : TextRun.read false none offset (text ++ '#' :: rest) =
      ((TextRun.read false none (offset + utf8Length text + 1) rest).map (TextRun.push '#')).map
        (TextRun.prepend content) := by
    rw [TextRun.read_append spelled (by simp), TextRun.read_plain isPlain]
    rfl
  cases read : TextRun.read false none (offset + utf8Length text + 1) rest with
  | error fault =>
    rw [read] at goesOn
    exact ⟨"", .error fault, tokens_text_fault read, tokens_text_fault goesOn⟩
  | ok run =>
    rw [read] at goesOn
    refine ⟨String.ofList run.content, run.onward, tokens_text read, ?_⟩
    have joined : String.ofList content ++ "#" ++ String.ofList run.content =
        String.ofList (content ++ '#' :: run.content) := by
      rw [List.append_cons, String.ofList_append, String.ofList_append]
    rw [joined]
    exact tokens_text goesOn

theorem glue_lex_argument {plural : Bool} {source : List Char} {offset : Nat} {next : Cursor}
    {found : List LocatedToken} (lexed : lex plural ⟨source, offset, .argument⟩ = (.ok found, next))
    (tokens : List LocatedToken) : glue (found ++ tokens) = found ++ glue tokens := by
  obtain ⟨token, place, rfl, outcome⟩ := lex_argument_ok lexed
  have notText : token.kind ≠ .text := by
    rcases outcome with rfl | ⟨lexeme, _, ⟨_, spelled⟩, _⟩
    · simp [Token.kind]
    · cases spelled <;> simp [Token.kind]
  exact glue_cons notText tokens

section

variable {plural : Bool} {cursor next : Cursor} {found : List LocatedToken}
  {later : Except SyntaxFault (List LocatedToken)}

theorem tokens_of_lex_fault {fault : SyntaxFault} (lexed : cursor.lex plural = (.error fault, next)) :
    cursor.tokens = .error fault := by
  obtain ⟨source, offset, mode⟩ := cursor
  cases mode with
  | text => exact tokens_text_fault (TextRun.read_fault_mono (read_of_lex_fault lexed))
  | argument => exact tokens_of_fault lexed

theorem tokens_of_lex_end (lexed : cursor.lex plural = (.ok found, next))
    (ends : reportsEnd found = true) : cursor.tokens = .ok (glue found) := by
  obtain ⟨source, offset, mode⟩ := cursor
  cases mode with
  | text =>
    have step := lex_text plural source offset
    rw [lexed] at step
    cases step with
    | ends spelled terminates =>
      cases terminates with
      | endOfInput => exact tokens_of_end ((Terminates.endOfInput _).lex spelled.mono) rfl
      | _ => cases ends
  | argument =>
    have again : lex false ⟨source, offset, .argument⟩ = (.ok found, next) := lexed
    have same := glue_lex_argument lexed []
    rw [List.append_nil, glue, List.append_nil] at same
    rw [same]
    exact tokens_of_end again ends

theorem glue_map_brace {text content tail : List Char} {offset : Nat} {last : LocatedToken}
    (spelled : TextSpelled plural text content)
    (terminates : Terminates false tail (offset + utf8Length text) last next)
    (isBrace : last.token = .openBrace ∨ last.token = .closeBrace)
    (glued : later.map glue = next.tokens) :
    (later.map ([⟨.text (String.ofList content), offset⟩, last] ++ ·)).map glue =
      tokens ⟨text ++ tail, offset, .text⟩ := by
  have notText : last.token.kind ≠ .text := by
    rcases isBrace with same | same <;> simp [same, Token.kind]
  have notPound : last.token ≠ .pound := by
    rcases isBrace with same | same <;> simp [same]
  have goesOn : reportsEnd [⟨.text (String.ofList content), offset⟩, last] = false := by
    rcases isBrace with same | same <;> simp [reportsEnd, same]
  rw [tokens_of_step (terminates.lex spelled.mono) goesOn, ← glued]
  cases later with
  | error fault => rfl
  | ok tokens => exact congrArg Except.ok (glue_text_cons _ offset notText notPound tokens)

theorem glue_map_pound {text content rest : List Char} {offset : Nat}
    (spelled : TextSpelled plural text content)
    (glued : later.map glue = tokens ⟨rest, offset + utf8Length text + 1, .text⟩) :
    (later.map ([⟨.text (String.ofList content), offset⟩, ⟨.pound, offset + utf8Length text⟩] ++ ·)).map
        glue = tokens ⟨text ++ '#' :: rest, offset, .text⟩ := by
  obtain ⟨after, behind, tokensRest, tokensWhole⟩ := tokens_pound spelled.mono offset rest
  rw [tokensRest] at glued
  rw [tokensWhole]
  cases later with
  | error fault =>
    rw [map_eq_error.mp glued.symm]
    rfl
  | ok tokens =>
    -- The tokens behind the pound start with a text, which the text in front takes up.
    obtain ⟨glues, same, whole⟩ := map_eq_ok.mp glued.symm
    rw [same]
    exact congrArg Except.ok (glue_text_pound _ after offset _ _ whole.symm)

theorem glue_map_of_lex (lexed : cursor.lex plural = (.ok found, next))
    (goesOn : reportsEnd found = false) (glued : later.map glue = next.tokens) :
    (later.map (found ++ ·)).map glue = cursor.tokens := by
  obtain ⟨source, offset, mode⟩ := cursor
  cases mode with
  | text =>
    have step := lex_text plural source offset
    rw [lexed] at step
    cases step with
    | ends spelled terminates =>
      cases terminates with
      | endOfInput => cases goesOn
      | openBrace rest => exact glue_map_brace spelled (.openBrace rest _) (.inl rfl) glued
      | closeBrace rest => exact glue_map_brace spelled (.closeBrace rest _) (.inr rfl) glued
      | pound inPlural rest => exact glue_map_pound spelled glued
  | argument =>
    have again : lex false ⟨source, offset, .argument⟩ = (.ok found, next) := lexed
    rw [tokens_of_step again goesOn, ← glued]
    cases later with
    | error fault => rfl
    | ok tokens => exact congrArg Except.ok (glue_lex_argument lexed tokens)

end

theorem glue_tokensBy (plurals : Nat -> Bool) (cursor : Cursor) :
    (cursor.tokensBy plurals).map glue = cursor.tokens := by
  fun_induction Cursor.tokensBy plurals cursor with
  | case1 plurals cursor fault next lexed => exact (tokens_of_lex_fault lexed).symm
  | case2 plurals cursor found next lexed ends => exact (tokens_of_lex_end lexed ends).symm
  | case3 plurals cursor found next lexed goesOn ih =>
    exact glue_map_of_lex lexed (by simpa using goesOn) ih

end Cursor

/-- What is said of plural bodies decides where texts are split and nothing else. So the tokens that a
pattern is read from are those of the pattern itself, apart from the pounds. -/
theorem tokenize_glue (pattern : String) :
    (∀ plurals others, (tokenizeBy plurals pattern).map glue = (tokenizeBy others pattern).map glue) ∧
    ∀ limit message, Message.parse limit pattern = .ok message ->
      (∃ tokens, Draft.start.Takes limit message (Cursor.start pattern.toList) tokens) ∧
        ∀ tokens, Draft.start.Takes limit message (Cursor.start pattern.toList) tokens ->
          tokenize pattern = .ok (glue tokens) := by
  have glued (plurals : Nat -> Bool) :
      (tokenizeBy plurals pattern).map glue = tokenize pattern := by
    rw [tokenizeBy, tokenize, ← Cursor.glue_tokensBy plurals]
    cases (Cursor.start pattern.toList).tokensBy plurals <;> rfl
  constructor
  · intro plurals others
    rw [glued, glued]
  · intro limit message parsed
    have read := mapError_eq_ok.mp parsed
    rw [readMessage] at read
    constructor
    · split at read
      next => cases read
      next => exact Draft.exists_takes_of_run read
    · intro tokens takes
      obtain ⟨plurals, found⟩ := takes.tokensBy
      rw [← glued plurals, tokenizeBy, found]
      rfl

-- Two pounds of a plural body, one in quotes and one outside of any plural.
def countedShare : String := "\x7bn, plural, other\x7b# of '#' #\x7d\x7d #"

def countedShareMessage : Message :=
  { nodes := [.text "", .plural (.name "n") .cardinal 0
      [⟨.keyword "other", [.text "", .pound, .text " of # ", .pound, .text ""]⟩], .text " #"] }

theorem tokenize_glue_countedShare :
    Message.parse 2 countedShare = .ok countedShareMessage ∧
      (tokenizeBy (fun _ => true) countedShare).map glue =
        (tokenizeBy (fun step => step == 9) countedShare).map glue ∧
      ∃ tokens, Draft.start.Takes 2 countedShareMessage (Cursor.start countedShare.toList) tokens ∧
        tokenize countedShare = .ok (glue tokens) := by
  have parsed : Message.parse 2 countedShare = .ok countedShareMessage := by cbv
  obtain ⟨glued, takes⟩ := tokenize_glue countedShare
  obtain ⟨⟨tokens, taken⟩, tokenized⟩ := takes 2 countedShareMessage parsed
  exact ⟨parsed, glued _ _, tokens, taken, tokenized tokens taken⟩

end MessagePattern

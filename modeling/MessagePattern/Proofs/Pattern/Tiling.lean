import Mathlib
import MessagePattern.Proofs.Pattern.Print
import MessagePattern.Proofs.Pattern.TokenStream

set_option autoImplicit false

namespace MessagePattern

-- A text without its quotes: two in a row stand for one, and any other opens or closes a run.
def unquote : List Char -> List Char
  | [] => []
  | '\'' :: '\'' :: rest => '\'' :: unquote rest
  | character :: rest => if character = '\'' then unquote rest else character :: unquote rest

theorem unquote_quote (rest : List Char) : unquote ('\'' :: '\'' :: rest) = '\'' :: unquote rest := by
  rw [unquote]

theorem unquote_single {rest : List Char} (single : rest.head? ≠ some '\'') :
    unquote ('\'' :: rest) = unquote rest := by
  rw [unquote]
  · simp
  · intro after _ same
    subst same
    exact single rfl

theorem unquote_plain {character : Char} (notQuote : character ≠ '\'') (rest : List Char) :
    unquote (character :: rest) = character :: unquote rest := by
  rw [unquote]
  · simp [notQuote]
  · simp [notQuote]

theorem Quoted.unquote {inside meant : List Char} (quoted : Quoted inside meant)
    {rest : List Char} (closes : rest.head? ≠ some '\'') :
    unquote (inside ++ '\'' :: rest) = meant ++ unquote rest := by
  induction quoted with
  | nil => exact unquote_single closes
  | quote _ ih => rw [List.cons_append, List.cons_append, unquote_quote, ih, List.cons_append]
  | plain notQuote _ ih => rw [List.cons_append, unquote_plain notQuote, ih, List.cons_append]

theorem TextSpelled.unquote {plural : Bool} {source content : List Char}
    (spelled : TextSpelled plural source content) : unquote source = content := by
  induction spelled with
  | nil => rw [MessagePattern.unquote]
  | plain isPlain _ ih => rw [unquote_plain isPlain.1, ih]
  | quote _ ih => rw [unquote_quote, ih]
  | @run inside meant source content quoted opens single closes _ ih =>
    have opening := head?_append_ne_of_nonempty opens single ('\'' :: source)
    rw [unquote_single opening, quoted.unquote closes, ih]

-- What stands in the source from a token to the next one. White space may follow a token, but in
-- front of a text it belongs to the text.
def Token.Fills (token next : Token) (slice : List Char) : Prop :=
  match token with
  | .endOfInput => False
  | .text content => TextSpelled false slice content.toList ∧ unquote slice = content.toList
  | token => ∃ blank, slice = token.print ++ blank ∧
      (∀ character ∈ blank, isBlank character = true) ∧ (next.kind = .text -> blank = [])

inductive Tiles : Nat -> List Char -> List LocatedToken -> Prop
  | endOfInput (place : Nat) : Tiles place [] [⟨.endOfInput, place⟩]
  | cons {place : Nat} {token : Token} {slice rest : List Char} {next : LocatedToken}
      {later : List LocatedToken} (fills : token.Fills next.token slice)
      (others : Tiles (place + utf8Length slice) rest (next :: later)) :
      Tiles place (slice ++ rest) (⟨token, place⟩ :: next :: later)

inductive Cursor.Tiled : Cursor -> List LocatedToken -> Prop
  | mk {blank rest : List Char} {offset : Nat} {mode : LexicalMode} {first : LocatedToken}
      {later : List LocatedToken} (isBlank : ∀ character ∈ blank, isBlank character = true)
      (atOnce : mode = .text ∨ first.token.kind = .text -> blank = [])
      (tiles : Tiles (offset + utf8Length blank) rest (first :: later)) :
      Tiled ⟨blank ++ rest, offset, mode⟩ (first :: later)

theorem Token.fills_print {token next : Token} {blank : List Char} (notText : token.kind ≠ .text)
    (notEnd : token ≠ .endOfInput) (isBlank : ∀ character ∈ blank, isBlank character = true)
    (atOnce : next.kind = .text -> blank = []) : token.Fills next (token.print ++ blank) := by
  cases token with
  | endOfInput => exact absurd rfl notEnd
  | text => exact absurd rfl notText
  | _ => exact ⟨blank, rfl, isBlank, atOnce⟩

theorem Cursor.Tiled.tiles_cons (token : Token) {source : List Char} {place : Nat}
    {mode : LexicalMode} {tokens : List LocatedToken} (notText : token.kind ≠ .text)
    (notEnd : token ≠ .endOfInput)
    (tiled : Tiled ⟨source, place + utf8Length token.print, mode⟩ tokens) :
    Tiles place (token.print ++ source) (⟨token, place⟩ :: tokens) := by
  cases tiled with
  | mk isBlank atOnce tiles =>
    rw [Nat.add_assoc, ← utf8Length_append] at tiles
    rw [← List.append_assoc]
    exact .cons (Token.fills_print notText notEnd isBlank fun isText => atOnce (.inr isText)) tiles

theorem Terminates.tiles {plural : Bool} {tail : List Char} {place : Nat} {last : LocatedToken}
    {next : Cursor} {later : List LocatedToken} (terminates : Terminates plural tail place last next)
    (goesOn : last.token ≠ .endOfInput) (tiled : next.Tiled later) :
    Tiles place tail (last :: later) := by
  cases terminates with
  | endOfInput => exact absurd rfl goesOn
  | openBrace rest => exact tiled.tiles_cons .openBrace (by simp [Token.kind]) goesOn
  | closeBrace rest => exact tiled.tiles_cons .closeBrace (by simp [Token.kind]) goesOn
  | pound inPlural rest => exact tiled.tiles_cons .pound (by simp [Token.kind]) goesOn

theorem TextSpelled.fills {plural : Bool} {text content : List Char}
    (spelled : TextSpelled plural text content) (next : Token) :
    (Token.text (String.ofList content)).Fills next text := by
  constructor
  · rw [String.toList_ofList]
    exact spelled.mono
  · rw [String.toList_ofList]
    exact spelled.unquote

namespace Cursor.Tiled

theorem text {plural : Bool} {source content tail : List Char} {offset : Nat} {last : LocatedToken}
    {later : List LocatedToken} (spelled : TextSpelled plural source content)
    (tiles : Tiles (offset + utf8Length source) tail (last :: later)) :
    Tiled ⟨source ++ tail, offset, .text⟩
      (⟨.text (String.ofList content), offset⟩ :: last :: later) := by
  have whole := Tiles.cons (spelled.fills last.token) tiles
  have tiled : Tiled ⟨[] ++ (source ++ tail), offset, .text⟩ _ := .mk (by simp) (fun _ => rfl) whole
  exact tiled

theorem ofEnd {plural : Bool} {cursor next : Cursor} {found : List LocatedToken}
    (lexed : cursor.lex plural = (.ok found, next)) (ends : reportsEnd found = true) :
    cursor.Tiled found := by
  obtain ⟨source, offset, mode⟩ := cursor
  cases mode with
  | text =>
    have step := lex_text plural source offset
    rw [lexed] at step
    cases step with
    | ends spelled terminates =>
      cases terminates with
      | endOfInput => exact .text spelled (.endOfInput _)
      | _ => cases ends
  | argument =>
    obtain ⟨blank, rest, rfl, isBlank, step⟩ := lex_argument plural source offset
    rw [lexed] at step
    cases step with
    | endOfInput => exact .mk isBlank (by simp [Token.kind]) (.endOfInput _)
    | token _ spelled => cases spelled <;> cases ends

theorem ofStep {plural : Bool} {cursor next : Cursor} {found later : List LocatedToken}
    (lexed : cursor.lex plural = (.ok found, next)) (goesOn : reportsEnd found = false)
    (tiled : next.Tiled later) : cursor.Tiled (found ++ later) := by
  obtain ⟨source, offset, mode⟩ := cursor
  cases mode with
  | text =>
    have step := lex_text plural source offset
    rw [lexed] at step
    cases step with
    | @ends _ _ _ _ last _ spelled terminates =>
      have notEnd : last.token ≠ .endOfInput := by simpa [reportsEnd] using goesOn
      exact .text spelled (terminates.tiles notEnd tiled)
  | argument =>
    obtain ⟨blank, rest, rfl, isBlank, step⟩ := lex_argument plural source offset
    rw [lexed] at step
    cases step with
    | endOfInput => cases goesOn
    | @token token _ _ _ spelled stops =>
      have notText : token.kind ≠ .text := by cases spelled <;> simp [Token.kind]
      have notEnd : token ≠ .endOfInput := by simpa [reportsEnd] using goesOn
      have same := spelled.eq_print
      subst same
      exact .mk isBlank (by simp [notText]) (tiled.tiles_cons token notText notEnd)

theorem tiles {source : List Char} {offset : Nat} {tokens : List LocatedToken}
    (tiled : Tiled ⟨source, offset, .text⟩ tokens) : Tiles offset source tokens := by
  cases tiled with
  | mk _ atOnce tiles =>
    have none := atOnce (.inl rfl)
    subst none
    exact tiles

theorem ofTokensBy {plurals : Nat -> Bool} {cursor : Cursor} {tokens : List LocatedToken}
    (read : cursor.tokensBy plurals = .ok tokens) : cursor.Tiled tokens := by
  fun_induction Cursor.tokensBy plurals cursor generalizing tokens with
  | case1 => cases read
  | case2 plurals cursor found next lexed ends =>
    cases read
    exact ofEnd lexed ends
  | case3 plurals cursor found next lexed goesOn ih =>
    obtain ⟨later, readLater, rfl⟩ := map_eq_ok.mp read
    exact ofStep lexed (by simpa using goesOn) (ih readLater)

end Cursor.Tiled

namespace Tiles

variable {place : Nat} {source : List Char} {tokens : List LocatedToken}

theorem starts {first : LocatedToken} {later : List LocatedToken}
    (tiles : Tiles place source (first :: later)) : first.offset = place := by
  cases tiles <;> rfl

theorem boundaries (tiles : Tiles place source tokens) :
    ∀ found ∈ tokens, ∃ offset, found.offset = place + offset ∧ IsBoundary source offset := by
  induction tiles with
  | endOfInput place => exact List.forall_mem_singleton.mpr ⟨0, rfl, [], [], rfl, rfl⟩
  | @cons place token slice rest next later fills others ih =>
    intro found member
    cases member with
    | head => exact ⟨0, rfl, [], slice ++ rest, rfl, rfl⟩
    | tail _ member =>
      obtain ⟨offset, same, boundary⟩ := ih found member
      exact ⟨utf8Length slice + offset, by rw [same, Nat.add_assoc], boundary.append_left slice⟩

theorem ascending (tiles : Tiles place source tokens) :
    tokens.Pairwise fun first second => first.offset ≤ second.offset := by
  induction tiles with
  | endOfInput => exact List.pairwise_singleton _ _
  | @cons place token slice rest next later fills others ih =>
    refine .cons ?_ ih
    intro found member
    obtain ⟨offset, same, _⟩ := others.boundaries found member
    rw [same, Nat.add_assoc]
    exact Nat.le_add_right place _

theorem ends (tiles : Tiles place source tokens) :
    ∃ front, tokens = front ++ [⟨.endOfInput, place + utf8Length source⟩] ∧
      ∀ found ∈ front, found.token ≠ .endOfInput := by
  induction tiles with
  | endOfInput place => exact ⟨[], rfl, by simp⟩
  | @cons place token slice rest next later fills others ih =>
    obtain ⟨front, same, noEnd⟩ := ih
    rw [same, utf8Length_append, ← Nat.add_assoc]
    refine ⟨⟨token, place⟩ :: front, rfl, List.forall_mem_cons.mpr ⟨?_, noEnd⟩⟩
    intro isEnd
    cases isEnd
    exact fills

theorem filled (tiles : Tiles place source tokens) {found next : LocatedToken}
    (neighbours : [found, next] <:+: tokens) :
    ∃ before slice after, source = before ++ (slice ++ after) ∧
      found.offset = place + utf8Length before ∧
      next.offset = place + utf8Length before + utf8Length slice ∧
      found.token.Fills next.token slice := by
  induction tiles with
  | endOfInput place =>
    have short := neighbours.length_le
    simp at short
  | @cons place token slice rest second later fills others ih =>
    cases List.infix_cons_iff.mp neighbours
    next first =>
      obtain ⟨rfl, alone⟩ := List.cons_prefix_cons.mp first
      obtain ⟨rfl, _⟩ := List.cons_prefix_cons.mp alone
      exact ⟨[], slice, rest, rfl, rfl, others.starts, fills⟩
    next within =>
      obtain ⟨before, inside, after, rfl, start, stop, fills⟩ := ih within
      rw [Nat.add_assoc, ← utf8Length_append] at start
      rw [Nat.add_assoc place, ← utf8Length_append] at stop
      exact ⟨slice ++ before, inside, after, (List.append_assoc ..).symm, start, stop, fills⟩

end Tiles

structure Tiling (source : List Char) (tokens : List LocatedToken) : Prop where
  starts : ∃ first ∈ tokens.head?, first.offset = 0
  boundaries : ∀ found ∈ tokens, IsBoundary source found.offset
  within : ∀ found ∈ tokens, found.offset ≤ utf8Length source
  ascending : tokens.Pairwise fun first second => first.offset ≤ second.offset
  ends : ∃ front, tokens = front ++ [⟨.endOfInput, utf8Length source⟩] ∧
    ∀ found ∈ front, found.token ≠ .endOfInput
  filled : ∀ found next, [found, next] <:+: tokens ->
    ∃ before slice after, source = before ++ (slice ++ after) ∧
      found.offset = utf8Length before ∧ next.offset = utf8Length before + utf8Length slice ∧
      found.token.Fills next.token slice

theorem Tiles.tiling {source : List Char} {tokens : List LocatedToken}
    (tiles : Tiles 0 source tokens) : Tiling source tokens := by
  have boundaries : ∀ found ∈ tokens, IsBoundary source found.offset := by
    intro found member
    obtain ⟨offset, same, boundary⟩ := tiles.boundaries found member
    rwa [same, Nat.zero_add]
  refine ⟨?_, boundaries, fun found member => (boundaries found member).le, tiles.ascending, ?_, ?_⟩
  · cases tokens with
    | nil => cases tiles
    | cons first later => exact ⟨first, rfl, tiles.starts⟩
  · simpa using tiles.ends
  · intro found next neighbours
    simpa using tiles.filled neighbours

theorem tokenizeBy_tiling (plurals : Nat -> Bool) (pattern : String) (tokens : List LocatedToken)
    (read : tokenizeBy plurals pattern = .ok tokens) : Tiling pattern.toList tokens := by
  have tiled := Cursor.Tiled.ofTokensBy (mapError_eq_ok.mp read)
  exact tiled.tiles.tiling

-- A quoted brace, a blank of three bytes, and a pound between two texts that are empty.
def wideBlank : String := "'\x7b'\x7bn\u3000\x7d#"

def wideBlankTokens : List LocatedToken :=
  [⟨.text "\x7b", 0⟩, ⟨.openBrace, 3⟩, ⟨.word "n", 4⟩, ⟨.closeBrace, 8⟩, ⟨.text "", 9⟩, ⟨.pound, 9⟩,
    ⟨.text "", 10⟩, ⟨.endOfInput, 10⟩]

theorem tokenizeBy_tiling_wideBlank :
    tokenizeBy (fun step => step == 3) wideBlank = .ok wideBlankTokens ∧
      Tiling wideBlank.toList wideBlankTokens := by
  have read : tokenizeBy (fun step => step == 3) wideBlank = .ok wideBlankTokens := by cbv
  exact ⟨read, tokenizeBy_tiling _ _ _ read⟩

end MessagePattern

import Mathlib
import MessagePattern.Proofs.Pattern.Faults
import MessagePattern.Proofs.Pattern.Recognition

set_option autoImplicit false

namespace MessagePattern

open Draft

def IsTooDeep (limit : Nat) (outcome : Except SyntaxFault Message) : Prop :=
  ∃ offset, outcome = .error { cause := .nestingTooDeep limit, offset }

namespace Draft

variable {limit : Nat}

theorem run_grows {larger : Nat} (grows : limit ≤ larger) (draft : Draft) (cursor : Cursor) :
    draft.run limit cursor = draft.run larger cursor ∨ IsTooDeep limit (draft.run limit cursor) := by
  fun_induction Draft.run limit draft cursor with
  | case1 draft cursor fault next lexed =>
    left
    rw [run_of_lex_fault lexed]
  | case2 draft cursor tokens next lexed fault fed =>
    rcases feedAll_grows grows draft tokens with same | ⟨offset, tooDeep⟩
    · left
      rw [run_of_lex lexed, ← same, fed, resume]
    · right
      rw [fed] at tooDeep
      exact ⟨offset, congrArg Except.error (Except.error.inj tooDeep)⟩
  | case3 draft cursor tokens next lexed message fed =>
    left
    rw [run_of_lex lexed, feedAll_mono grows fed, resume]
  | case4 draft cursor tokens next lexed longer fed ih =>
    rw [run_of_lex lexed, feedAll_mono grows fed, resume]
    exact ih

theorem depth_of_feedAll {draft : Draft} {tokens : List LocatedToken} {depth offset : Nat}
    (failed : draft.feedAll limit tokens = .error { cause := .nestingTooDeep depth, offset }) :
    depth = limit := by
  induction tokens generalizing draft with
  | nil => cases failed
  | cons found rest ih =>
    rw [feedAll] at failed
    split at failed
    next refused =>
      cases failed
      cases feed_fault refused
      rfl
    next => cases failed
    next => exact ih failed

theorem depth_of_run {draft : Draft} {cursor : Cursor} {depth offset : Nat}
    (failed : draft.run limit cursor = .error { cause := .nestingTooDeep depth, offset }) :
    depth = limit := by
  fun_induction Draft.run limit draft cursor with
  | case1 draft cursor fault next lexed =>
    cases failed
    cases Cursor.isLexical_of_lex lexed
  | case2 draft cursor tokens next lexed fault fed =>
    cases failed
    exact depth_of_feedAll fed
  | case3 => cases failed
  | case4 draft cursor tokens next lexed longer fed ih => exact ih failed

end Draft

variable {limit larger : Nat}

theorem readMessage_grows (grows : limit ≤ larger) (source : List Char) :
    readMessage limit source = readMessage larger source ∨
      IsTooDeep limit (readMessage limit source) := by
  by_cases none : limit = 0
  next =>
    right
    rw [readMessage, if_pos none]
    exact ⟨0, rfl⟩
  next =>
    have some : larger ≠ 0 := by omega
    rw [readMessage, readMessage, if_neg none, if_neg some]
    exact run_grows grows Draft.start (Cursor.start source)

theorem depth_of_readMessage {source : List Char} {depth offset : Nat}
    (failed : readMessage limit source = .error { cause := .nestingTooDeep depth, offset }) :
    depth = limit := by
  rw [readMessage] at failed
  split at failed
  next => cases failed; rfl
  next => exact depth_of_run failed

namespace Message

def ParsesTooDeep (limit : Nat) (pattern : String) : Prop :=
  ∃ position, parse limit pattern = .error { cause := .nestingTooDeep limit, position }

theorem parse_grows (grows : limit ≤ larger) (pattern : String) :
    parse limit pattern = parse larger pattern ∨ ParsesTooDeep limit pattern := by
  rcases readMessage_grows grows pattern.toList with same | ⟨offset, tooDeep⟩
  · left
    rw [parse, parse, same]
  · right
    refine ⟨Position.ofOffset pattern.toList offset, ?_⟩
    rw [parse, tooDeep]
    rfl

theorem depth_of_parse {pattern : String} {depth : Nat} {position : Position}
    (failed : parse limit pattern = .error { cause := .nestingTooDeep depth, position }) :
    depth = limit := by
  obtain ⟨⟨cause, offset⟩, read, located⟩ := mapError_eq_error.mp failed
  cases located
  exact depth_of_readMessage read

/-- A limit bounds how many bodies are open at a time and changes nothing else: a pattern that is read
under it, or refused for anything but its depth, is so under every larger limit, and a pattern that a
larger limit shows to be deeper is refused for that. -/
theorem parse_limit (pattern : String) (limit larger : Nat) (grows : limit ≤ larger) :
    (∀ message, parse limit pattern = .ok message -> parse larger pattern = .ok message) ∧
    (∀ error, parse limit pattern = .error error ->
      (∀ depth, error.cause ≠ .nestingTooDeep depth) -> parse larger pattern = .error error) ∧
    (∀ message, parse larger pattern = .ok message -> limit < message.depth ->
      ParsesTooDeep limit pattern) ∧
    ∀ error depth, parse larger pattern = .error error -> error.cause = .nestingTooDeep depth ->
      ParsesTooDeep limit pattern := by
  have either := parse_grows grows pattern
  refine ⟨?_, ?_, ?_, ?_⟩
  · intro message parsed
    obtain ⟨spelled, within⟩ := spelled_of_parse parsed
    exact parse_of_spelled spelled (Nat.le_trans within grows)
  · intro error failed other
    rcases either with same | ⟨position, tooDeep⟩
    · exact same.symm.trans failed
    · rw [tooDeep] at failed
      cases failed
      exact absurd rfl (other limit)
  · intro message parsed deeper
    apply either.resolve_left
    intro same
    have within := (spelled_of_parse (same.trans parsed)).2
    omega
  · rintro ⟨cause, position⟩ depth failed tooDeep
    subst tooDeep
    cases either with
    | inr tooDeep => exact tooDeep
    | inl same =>
      have again := same.trans failed
      rw [depth_of_parse again] at again
      exact ⟨position, again⟩

end Message

def nestedCount : String := "\x7bg, select, a \x7b\x7bn, plural, other \x7b#\x7d\x7d\x7d\x7d"

def nestedCountMessage : Message :=
  { nodes := [.text "", .select (.name "g") [⟨"a", [.text "", .plural (.name "n") .cardinal 0
      [⟨.keyword "other", [.text "", .pound, .text ""]⟩], .text ""]⟩], .text ""] }

-- Its inner choice has no clauses, which is found out two bodies deep.
def nestedNothing : String := "\x7bg, select, a \x7b\x7bn, plural, \x7d\x7d\x7d"

def nestedNothingError : SyntaxError :=
  { cause := .noClauses .plural, position := { line := 1, column := 16 } }

theorem Message.parse_limit_nestedCount :
    Message.parse 3 nestedCount = .ok nestedCountMessage ∧
      Message.parse 9 nestedCount = .ok nestedCountMessage ∧
      2 < nestedCountMessage.depth ∧ Message.ParsesTooDeep 2 nestedCount ∧
      Message.ParsesTooDeep 1 nestedCount ∧
      Message.parse 2 nestedNothing = .error nestedNothingError ∧
      Message.parse 9 nestedNothing = .error nestedNothingError := by
  have parsed : Message.parse 3 nestedCount = .ok nestedCountMessage := by cbv
  have failed : Message.parse 2 nestedNothing = .error nestedNothingError := by cbv
  have deeper : 2 < nestedCountMessage.depth := by decide
  obtain ⟨grows, _, _, _⟩ := Message.parse_limit nestedCount 3 9 (by decide)
  obtain ⟨_, _, shrinks, _⟩ := Message.parse_limit nestedCount 2 3 (by decide)
  obtain ⟨_, _, _, shrinksAgain⟩ := Message.parse_limit nestedCount 1 2 (by decide)
  obtain ⟨_, refuses, _, _⟩ := Message.parse_limit nestedNothing 2 9 (by decide)
  obtain ⟨position, atTwo⟩ := shrinks nestedCountMessage parsed deeper
  have noDepth : ∀ depth, nestedNothingError.cause ≠ .nestingTooDeep depth := by
    simp [nestedNothingError]
  exact ⟨parsed, grows _ parsed, deeper, ⟨position, atTwo⟩, shrinksAgain _ 2 atTwo rfl, failed,
    refuses _ failed noDepth⟩

end MessagePattern

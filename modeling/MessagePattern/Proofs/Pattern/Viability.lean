import Mathlib
import MessagePattern.Proofs.Pattern.Continuation
import MessagePattern.Proofs.Pattern.Faults

set_option autoImplicit false

namespace MessagePattern

open Draft

def Viable (limit : Nat) (front : List Char) : Prop :=
  ∃ continuation message, readMessage limit (front ++ continuation) = .ok message

theorem Viable.of_append {limit : Nat} {front back : List Char}
    (viable : Viable limit (front ++ back)) : Viable limit front := by
  obtain ⟨continuation, message, complete⟩ := viable
  rw [List.append_assoc] at complete
  exact ⟨back ++ continuation, message, complete⟩

-- Whether everything in front of the place that a fault points at can go on to a message, with one
-- more body open at a time.
def SyntaxFault.AfterViable (limit : Nat) (source : List Char) (fault : SyntaxFault) : Prop :=
  ∃ front back, source = front ++ back ∧ fault.offset = utf8Length front ∧ Viable (limit + 1) front

-- A draft that has been read from `front`, and the cursor behind it. Whatever follows has to leave
-- the last token as it is; in text mode, nothing can change it.
structure Reached (limit : Nat) (front : List Char) (draft : Draft) (cursor : Cursor) : Prop where
  offset : cursor.offset = utf8Length front
  mode : draft.focus.mode = cursor.mode
  notJoint : draft.focus ≠ .joint
  room : draft.outer.length < limit
  starts : ∀ start ∈ draft.starts, IsBoundary front start
  reads : ∃ last : Token, last.Stops cursor.rest ∧ (cursor.mode = .text -> ∀ tail, last.Stops tail) ∧
    ∀ tail, last.Stops tail -> readMessage (limit + 1) (front ++ tail) =
      draft.run (limit + 1) ⟨tail, cursor.offset, cursor.mode⟩

theorem Reached.start {limit : Nat} (positive : limit ≠ 0) (source : List Char) :
    Reached limit [] Draft.start (Cursor.start source) := by
  refine ⟨rfl, rfl, by simp [Draft.start], Nat.pos_of_ne_zero positive, ?_, .openBrace, ?_, ?_, ?_⟩
  · intro start member
    cases member
  · exact Token.stops_of_isMark rfl _
  · exact fun _ => Token.stops_of_isMark rfl
  · intro tail _
    rw [readMessage, if_neg (Nat.succ_ne_zero limit)]
    rfl

namespace Reached

variable {limit : Nat} {front source : List Char} {draft : Draft} {offset : Nat}

theorem eq_text {cursor : Cursor} (reached : Reached limit front draft cursor)
    (mode : cursor.mode = .text) : draft.focus = .text :=
  Focus.eq_text (reached.mode.trans mode) reached.notJoint

theorem viable_text {text content : List Char}
    (reached : Reached limit front draft ⟨source, offset, .text⟩)
    (spelled : TextSpelled draft.inPlural text content) : Viable (limit + 1) (front ++ text) := by
  obtain ⟨last, _, stops, reads⟩ := reached.reads
  have focus := reached.eq_text rfl
  obtain ⟨nodes, outer, _⟩ := draft
  cases focus
  obtain ⟨message, complete⟩ := exists_run_closers (limit + 1) nodes outer offset spelled
  refine ⟨closers outer, message, ?_⟩
  rw [List.append_assoc, reads _ (stops rfl _)]
  exact complete

theorem viable_blank {blank : List Char}
    (reached : Reached limit front draft ⟨source, offset, .argument⟩)
    (isBlank : ∀ character ∈ blank, isBlank character = true) :
    Viable (limit + 1) (front ++ blank) := by
  obtain ⟨last, _, _, reads⟩ := reached.reads
  have mode := reached.mode
  have room := Nat.succ_lt_succ reached.room
  obtain ⟨nodes, outer, focus⟩ := draft
  obtain ⟨rest, message, complete⟩ := exists_run_ends nodes outer focus mode room
    (offset + utf8Length blank)
  have stops : last.Stops (blank ++ ' ' :: rest) := by
    cases blank with
    | nil => exact Token.stops_blank rfl last rest
    | cons first others => exact Token.stops_blank (isBlank first (by simp)) last _
  refine ⟨' ' :: rest, message, ?_⟩
  rw [List.append_assoc, reads _ stops, ← complete]
  exact run_congr_lex (Cursor.lex_blank isBlank _ _ _)

theorem viable {cursor : Cursor} (reached : Reached limit front draft cursor) :
    Viable (limit + 1) front := by
  obtain ⟨source, offset, mode⟩ := cursor
  cases mode with
  | text => exact (reached.viable_text .nil).of_append
  | argument => exact (reached.viable_blank (List.forall_mem_nil _)).of_append

theorem afterViable {cursor : Cursor} {more : List Char} {fault : SyntaxFault}
    (reached : Reached limit front draft cursor) (viable : Viable (limit + 1) (front ++ more))
    (place : fault.offset = cursor.offset + utf8Length more) (back : List Char) :
    fault.AfterViable limit (front ++ (more ++ back)) := by
  refine ⟨front ++ more, back, (List.append_assoc ..).symm, ?_, viable⟩
  rw [place, reached.offset, utf8Length_append]

theorem afterViable_start {cursor : Cursor} {fault : SyntaxFault}
    (reached : Reached limit front draft cursor) (start : fault.offset ∈ draft.starts)
    (rest : List Char) : fault.AfterViable limit (front ++ rest) := by
  obtain ⟨before, after, same, length⟩ := reached.starts fault.offset start
  have viable := reached.viable
  rw [same] at viable ⊢
  exact ⟨before, after ++ rest, List.append_assoc .., length.symm, viable.of_append⟩

theorem afterViable_lex {cursor next : Cursor} {fault : SyntaxFault}
    (reached : Reached limit front draft cursor)
    (lexed : cursor.lex draft.inPlural = (.error fault, next)) :
    fault.AfterViable limit (front ++ cursor.rest) := by
  obtain ⟨source, offset, mode⟩ := cursor
  cases mode with
  | text =>
    have step := Cursor.lex_text draft.inPlural source offset
    rw [lexed] at step
    cases step with
    | fault tail _ spelled => exact reached.afterViable (reached.viable_text spelled) rfl _
  | argument =>
    obtain ⟨blank, rest, rfl, isBlank, step⟩ := Cursor.lex_argument draft.inPlural source offset
    rw [lexed] at step
    cases step with
    | fault => exact reached.afterViable (reached.viable_blank isBlank) rfl rest

theorem afterViable_feed_text {next : Cursor} {tokens : List LocatedToken} {fault : SyntaxFault}
    (reached : Reached limit front draft ⟨source, offset, .text⟩)
    (lexed : Cursor.lex draft.inPlural ⟨source, offset, .text⟩ = (.ok tokens, next))
    (failed : draft.feedAll limit tokens = .error fault) :
    fault.AfterViable limit (front ++ source) := by
  have focus := reached.eq_text rfl
  have step := Cursor.lex_text draft.inPlural source offset
  rw [lexed] at step
  cases step with
  | @ends text content tail _ last _ spelled terminates =>
    have viable := reached.viable_text spelled
    obtain ⟨nodes, outer, _⟩ := draft
    cases focus
    rw [feedAll_text] at failed
    have refused : feed limit ⟨nodes.push _, outer, .joint⟩ last = .error fault := failed
    have atLast := (feed_fault refused).place.resolve_right (by simp [Focus.start?])
    exact reached.afterViable viable (atLast.trans terminates.offset_eq) tail

theorem afterViable_feed_argument {next : Cursor} {tokens : List LocatedToken} {fault : SyntaxFault}
    (reached : Reached limit front draft ⟨source, offset, .argument⟩)
    (lexed : Cursor.lex draft.inPlural ⟨source, offset, .argument⟩ = (.ok tokens, next))
    (failed : draft.feedAll limit tokens = .error fault) :
    fault.AfterViable limit (front ++ source) := by
  obtain ⟨blank, rest, rfl, isBlank, step⟩ := Cursor.lex_argument draft.inPlural source offset
  obtain ⟨found, rfl, place⟩ :
      ∃ found, tokens = [found] ∧ found.offset = offset + utf8Length blank := by
    rw [lexed] at step
    cases step with
    | endOfInput => exact ⟨_, rfl, rfl⟩
    | token => exact ⟨_, rfl, rfl⟩
  rw [feedAll_singleton] at failed
  cases (feed_fault failed).place with
  | inl atToken => exact reached.afterViable (reached.viable_blank isBlank) (atToken.trans place) rest
  | inr atStart => exact reached.afterViable_start (mem_starts.mpr (.inl atStart)) _

theorem afterViable_feed {cursor next : Cursor} {tokens : List LocatedToken} {fault : SyntaxFault}
    (reached : Reached limit front draft cursor)
    (lexed : cursor.lex draft.inPlural = (.ok tokens, next))
    (failed : draft.feedAll limit tokens = .error fault) :
    fault.AfterViable limit (front ++ cursor.rest) := by
  obtain ⟨source, offset, mode⟩ := cursor
  cases mode with
  | text => exact reached.afterViable_feed_text lexed failed
  | argument => exact reached.afterViable_feed_argument lexed failed

theorem extend {cursor next : Cursor} {more : List Char} {place : Nat} {longer : Draft}
    (last : Token) (reached : Reached limit front draft cursor)
    (goesOn : GoesOn limit draft place longer next.mode)
    (boundary : IsBoundary (front ++ more) place)
    (offset : next.offset = cursor.offset + utf8Length more) (stops : last.Stops next.rest)
    (stopsInText : next.mode = .text -> ∀ tail, last.Stops tail)
    (reads : ∀ tail, last.Stops tail -> readMessage (limit + 1) (front ++ (more ++ tail)) =
      longer.run (limit + 1) ⟨tail, next.offset, next.mode⟩) :
    Reached limit (front ++ more) longer next := by
  refine ⟨?_, goesOn.mode, goesOn.notJoint, goesOn.room reached.room, ?_, last, stops,
    stopsInText, ?_⟩
  · rw [offset, reached.offset, utf8Length_append]
  · intro start member
    cases goesOn.starts start member with
    | inl before => exact (reached.starts start before).append_right more
    | inr same => exact same ▸ boundary
  · intro tail stopsTail
    rw [List.append_assoc]
    exact reads tail stopsTail

theorem step_text {next : Cursor} {tokens : List LocatedToken} {longer : Draft}
    (reached : Reached limit front draft ⟨source, offset, .text⟩)
    (lexed : Cursor.lex draft.inPlural ⟨source, offset, .text⟩ = (.ok tokens, next))
    (fed : draft.feedAll limit tokens = .ok (.draft longer)) :
    ∃ more, source = more ++ next.rest ∧ Reached limit (front ++ more) longer next := by
  have place := reached.offset
  have focus := reached.eq_text rfl
  obtain ⟨_, _, stops, reads⟩ := reached.reads
  obtain ⟨nodes, outer, _⟩ := draft
  cases focus
  have step := Cursor.lex_text (inPlural ⟨nodes, outer, .text⟩) source offset
  rw [lexed] at step
  cases step with
  | @ends text content tail _ last _ spelled terminates =>
    have joint := fed
    rw [feedAll_text] at joint
    have goesOn : last.token ≠ .endOfInput := by
      intro isEnd
      obtain ⟨token, place⟩ := last
      cases isEnd
      exact feed_endOfInput limit place ⟨nodes.push _, outer, .joint⟩ longer joint
    obtain ⟨mark, rfl, after, others⟩ := terminates.mark goesOn
    -- No token goes on behind the mark, which is as if a brace stood there.
    refine ⟨text ++ [mark], by simp, extend .openBrace reached (goesOn_of_joint terminates joint)
      ?_ ?_ (Token.stops_of_isMark rfl _) (fun _ => Token.stops_of_isMark rfl) ?_⟩
    · exact ⟨front ++ text, [mark], (List.append_assoc ..).symm, by rw [utf8Length_append, ← place]⟩
    · rw [after, utf8Length_append, Nat.add_assoc]
      rfl
    · intro rest _
      -- What comes behind the mark does not change what has been read.
      have again := (others rest).lex spelled
      rw [List.append_assoc, List.singleton_append, reads _ (stops rfl _), run_of_lex again,
        feedAll_mono (Nat.le_succ limit) fed]
      rfl

theorem step_argument {next : Cursor} {tokens : List LocatedToken} {longer : Draft}
    (reached : Reached limit front draft ⟨source, offset, .argument⟩)
    (lexed : Cursor.lex draft.inPlural ⟨source, offset, .argument⟩ = (.ok tokens, next))
    (fed : draft.feedAll limit tokens = .ok (.draft longer)) :
    ∃ more, source = more ++ next.rest ∧ Reached limit (front ++ more) longer next := by
  have mode := reached.mode
  obtain ⟨last, stopsHere, _, reads⟩ := reached.reads
  obtain ⟨blank, rest, rfl, isBlank, step⟩ := Cursor.lex_argument draft.inPlural source offset
  rw [lexed] at step
  cases step with
  | endOfInput => exact absurd fed (feedAll_endsInput ⟨[], _, rfl⟩)
  | @token token spelling tail _ spelled stops =>
    rw [feedAll_singleton] at fed
    have goesOn : GoesOn limit draft (utf8Length front) longer token.modeAfter :=
      (argumentStep_of_feed mode fed).goesOn _
    have nonempty : blank ++ spelling ≠ [] := by
      obtain ⟨first, rest, rfl, _⟩ := spelled.notBlank
      simp
    refine ⟨blank ++ spelling, (List.append_assoc ..).symm,
      extend token reached goesOn ⟨front, _, rfl, rfl⟩ ?_ stops Token.stops_of_modeAfter ?_⟩
    · rw [utf8Length_append, ← Nat.add_assoc]
    · intro other stopsOther
      have again := Cursor.lex_spelled isBlank spelled stopsOther draft.inPlural offset
      rw [← List.append_assoc] at stopsHere
      rw [reads _ (stopsHere.congr_front nonempty other), List.append_assoc, run_of_lex again,
        feedAll_singleton, feed_mono (Nat.le_succ limit) fed]
      rfl

theorem step {cursor next : Cursor} {tokens : List LocatedToken} {longer : Draft}
    (reached : Reached limit front draft cursor)
    (lexed : cursor.lex draft.inPlural = (.ok tokens, next))
    (fed : draft.feedAll limit tokens = .ok (.draft longer)) :
    ∃ more, cursor.rest = more ++ next.rest ∧ Reached limit (front ++ more) longer next := by
  obtain ⟨source, offset, mode⟩ := cursor
  cases mode with
  | text => exact reached.step_text lexed fed
  | argument => exact reached.step_argument lexed fed

theorem afterViable_run {cursor : Cursor} {fault : SyntaxFault}
    (reached : Reached limit front draft cursor) (failed : draft.run limit cursor = .error fault) :
    fault.AfterViable limit (front ++ cursor.rest) := by
  fun_induction Draft.run limit draft cursor generalizing front with
  | case1 draft cursor found next lexed =>
    cases failed
    exact reached.afterViable_lex lexed
  | case2 draft cursor tokens next lexed found fed =>
    cases failed
    exact reached.afterViable_feed lexed fed
  | case3 => cases failed
  | case4 draft cursor tokens next lexed longer fed ih =>
    obtain ⟨more, same, further⟩ := reached.step lexed fed
    rw [same, ← List.append_assoc]
    exact ih further failed

end Reached

theorem afterViable_readMessage {limit : Nat} {source : List Char} {fault : SyntaxFault}
    (failed : readMessage limit source = .error fault) : fault.AfterViable limit source := by
  by_cases positive : limit = 0
  next =>
    rw [readMessage, if_pos positive] at failed
    cases failed
    obtain ⟨message, complete⟩ := exists_run_closers (limit + 1) #[] [] 0 .nil
    exact ⟨[], source, rfl, rfl, [], message, complete⟩
  next =>
    rw [readMessage, if_neg positive] at failed
    exact (Reached.start positive source).afterViable_run failed

/-- A syntax error points at a place up to which the pattern can go on to a message, if one more body
may be open at a time. -/
theorem Message.parse_error_viable (limit : Nat) (pattern : String) (error : SyntaxError)
    (failed : Message.parse limit pattern = .error error) :
    ∃ front back : String, pattern = front ++ back ∧
      error.position = Position.ofOffset pattern.toList (utf8Length front.toList) ∧
      ∃ (continuation : String) (message : Message),
        Message.parse (limit + 1) (front ++ continuation) = .ok message := by
  obtain ⟨fault, read, rfl⟩ := mapError_eq_error.mp failed
  obtain ⟨front, back, same, offset, continuation, message, complete⟩ :=
    afterViable_readMessage read
  refine ⟨String.ofList front, String.ofList back, ?_, ?_, String.ofList continuation, message, ?_⟩
  · rw [← String.ofList_append, ← same, String.ofList_toList]
  · rw [String.toList_ofList, ← offset]
    rfl
  · rw [Message.parse, String.toList_append, String.toList_ofList, String.toList_ofList, complete]
    rfl

-- The body of the clause is one too many. Up to its brace, nothing is wrong.
def tooDeep : String := "\x7bn, plural, =1 \x7bone\x7d\x7d"

def tooDeepError : SyntaxError :=
  { cause := .nestingTooDeep 1, position := { line := 1, column := 16 } }

theorem Message.parse_error_viable_tooDeep :
    Message.parse 1 tooDeep = .error tooDeepError ∧
      ∃ front back : String, tooDeep = front ++ back ∧
        tooDeepError.position = Position.ofOffset tooDeep.toList (utf8Length front.toList) ∧
        ∃ (continuation : String) (message : Message),
          Message.parse 2 (front ++ continuation) = .ok message := by
  have failed : Message.parse 1 tooDeep = .error tooDeepError := by cbv
  exact ⟨failed, Message.parse_error_viable 1 tooDeep tooDeepError failed⟩

end MessagePattern

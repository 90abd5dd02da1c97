import Mathlib
import MessagePattern.Proofs.Pattern.Faults
import MessagePattern.Proofs.Pattern.TokenStream

set_option autoImplicit false

namespace MessagePattern

open Draft

-- Where reading stands between two tokens: the draft, the tokens that it has not taken yet, the
-- cursor behind the last step, and the tokens that each step has yielded so far.
structure Reading where
  draft : Draft
  pending : List LocatedToken
  cursor : Cursor
  steps : List (List LocatedToken)

-- The token that comes next, and where reading stands when it has been pulled: a token that is
-- pending, or else the first one that a step yields.
inductive Reading.Pulls : Reading -> LocatedToken -> Reading -> Prop
  | pending {draft : Draft} {found : LocatedToken} {pending : List LocatedToken} {cursor : Cursor}
      {steps : List (List LocatedToken)} :
      Pulls ⟨draft, found :: pending, cursor, steps⟩ found ⟨draft, pending, cursor, steps⟩
  | step {draft : Draft} {found : LocatedToken} {pending : List LocatedToken} {cursor next : Cursor}
      {steps : List (List LocatedToken)}
      (lexed : cursor.lex draft.inPlural = (.ok (found :: pending), next)) :
      Pulls ⟨draft, [], cursor, steps⟩ found ⟨draft, pending, next, steps ++ [found :: pending]⟩

inductive Reading.Arises (limit : Nat) (source : List Char) : Reading -> Prop
  | start (room : limit ≠ 0) : Arises limit source ⟨Draft.start, [], Cursor.start source, []⟩
  | feed {reading later : Reading} {found : LocatedToken} {longer : Draft}
      (arises : Arises limit source reading) (pulls : reading.Pulls found later)
      (fed : later.draft.feed limit found = .ok (.draft longer)) :
      Arises limit source { later with draft := longer }

inductive Reads (limit : Nat) (source : List Char) : Nat -> Except SyntaxFault Message -> Prop
  | noRoom (none : limit = 0) :
      Reads limit source 0 (.error { cause := .nestingTooDeep limit, offset := 0 })
  | stepFails {draft : Draft} {cursor next : Cursor} {steps : List (List LocatedToken)}
      {fault : SyntaxFault} (arises : Reading.Arises limit source ⟨draft, [], cursor, steps⟩)
      (lexed : cursor.lex draft.inPlural = (.error fault, next)) :
      Reads limit source (steps.length + 1) (.error fault)
  | refused {reading later : Reading} {found : LocatedToken} {fault : SyntaxFault}
      (arises : Reading.Arises limit source reading) (pulls : reading.Pulls found later)
      (fed : later.draft.feed limit found = .error fault) :
      Reads limit source later.steps.length (.error fault)
  | complete {reading later : Reading} {found : LocatedToken} {message : Message}
      (arises : Reading.Arises limit source reading) (pulls : reading.Pulls found later)
      (fed : later.draft.feed limit found = .ok (.message message)) :
      Reads limit source later.steps.length (.ok message)

variable {limit : Nat} {source : List Char}

theorem Cursor.lex_yields {plural : Bool} {cursor next : Cursor} {tokens : List LocatedToken}
    (lexed : cursor.lex plural = (.ok tokens, next)) :
    ∃ found pending, tokens = found :: pending := by
  obtain ⟨source, offset, mode⟩ := cursor
  cases mode with
  | text =>
    have step := lex_text plural source offset
    rw [lexed] at step
    cases step
    exact ⟨_, _, rfl⟩
  | argument =>
    obtain ⟨token, start, rfl, _⟩ := lex_argument_ok lexed
    exact ⟨_, _, rfl⟩

section Existence

def Reading.Continues (limit : Nat) (source : List Char) (cursor : Cursor)
    (steps : List (List LocatedToken)) : Except SyntaxFault Progress -> Prop
  | .error fault => Reads limit source steps.length (.error fault)
  | .ok (.message message) => Reads limit source steps.length (.ok message)
  | .ok (.draft longer) => Arises limit source ⟨longer, [], cursor, steps⟩

variable {cursor : Cursor} {steps : List (List LocatedToken)}

theorem Reading.Pulls.continues {reading : Reading} {draft : Draft} {found : LocatedToken}
    {pending : List LocatedToken} (arises : Reading.Arises limit source reading)
    (pulls : reading.Pulls found ⟨draft, pending, cursor, steps⟩) :
    Reading.Continues limit source cursor steps (draft.feedAll limit (found :: pending)) := by
  induction pending generalizing reading draft found with
  | nil =>
    rw [feedAll]
    split
    next fed => exact .refused arises pulls fed
    next fed => exact .complete arises pulls fed
    next fed => exact .feed arises pulls fed
  | cons next rest ih =>
    rw [feedAll]
    split
    next fed => exact .refused arises pulls fed
    next fed => exact .complete arises pulls fed
    next fed => exact ih (.feed arises pulls fed) .pending

theorem exists_reads_run (draft : Draft) (cursor : Cursor) (steps : List (List LocatedToken))
    (arises : Reading.Arises limit source ⟨draft, [], cursor, steps⟩) :
    ∃ count, Reads limit source count (draft.run limit cursor) := by
  fun_induction Draft.run limit draft cursor generalizing steps with
  | case1 draft cursor fault next lexed => exact ⟨_, .stepFails arises lexed⟩
  | case2 draft cursor tokens next lexed fault fed =>
    obtain ⟨found, pending, rfl⟩ := Cursor.lex_yields lexed
    have continues := Reading.Pulls.continues arises (.step lexed)
    rw [fed] at continues
    exact ⟨_, continues⟩
  | case3 draft cursor tokens next lexed message fed =>
    obtain ⟨found, pending, rfl⟩ := Cursor.lex_yields lexed
    have continues := Reading.Pulls.continues arises (.step lexed)
    rw [fed] at continues
    exact ⟨_, continues⟩
  | case4 draft cursor tokens next lexed longer fed ih =>
    obtain ⟨found, pending, rfl⟩ := Cursor.lex_yields lexed
    have continues := Reading.Pulls.continues arises (.step lexed)
    rw [fed] at continues
    exact ih _ continues

theorem exists_reads (limit : Nat) (source : List Char) :
    ∃ count, Reads limit source count (readMessage limit source) := by
  rw [readMessage]
  split
  next none => exact ⟨0, .noRoom none⟩
  next room => exact exists_reads_run _ _ [] (.start room)

end Existence

-- How the draft, the pending tokens and the cursor fit together. Only what ends a text is ever
-- pending.
inductive Reading.Aligned : Reading -> Prop
  | ready {draft : Draft} {cursor : Cursor} {steps : List (List LocatedToken)}
      (mode : draft.focus.mode = cursor.mode) (notJoint : draft.focus ≠ .joint) :
      Aligned ⟨draft, [], cursor, steps⟩
  | joint {nodes : Array Node} {outer : List OuterBody} {plural : Bool} {tail : List Char}
      {place : Nat} {last : LocatedToken} {cursor : Cursor} {steps : List (List LocatedToken)}
      (terminates : Terminates plural tail place last cursor) :
      Aligned ⟨⟨nodes, outer, .joint⟩, [last], cursor, steps⟩

namespace Reading

variable {reading later : Reading} {found : LocatedToken} {longer : Draft}

theorem Pulls.draft_eq (pulls : reading.Pulls found later) : later.draft = reading.draft := by
  cases pulls <;> rfl

theorem Aligned.step (aligned : reading.Aligned) (pulls : reading.Pulls found later)
    (fed : later.draft.feed limit found = .ok (.draft longer)) :
    Aligned { later with draft := longer } := by
  cases aligned with
  | @ready draft cursor steps mode notJoint =>
    cases pulls with
    | step lexed =>
      obtain ⟨nodes, outer, focus⟩ := draft
      obtain ⟨source, offset, cursorMode⟩ := cursor
      cases cursorMode with
      | text =>
        have isText := Focus.eq_text mode notJoint
        subst isText
        have step := Cursor.lex_text (inPlural ⟨nodes, outer, .text⟩) source offset
        rw [lexed] at step
        cases step with
        | ends spelled terminates =>
          cases fed
          exact .joint terminates
      | argument =>
        obtain ⟨blank, rest, rfl, _, step⟩ :=
          Cursor.lex_argument (inPlural ⟨nodes, outer, focus⟩) source offset
        rw [lexed] at step
        cases step with
        | endOfInput => exact absurd fed (feed_endOfInput limit _ _ longer)
        | token =>
          have goesOn := (argumentStep_of_feed mode fed).goesOn (offset + utf8Length blank)
          exact .ready goesOn.mode goesOn.notJoint
  | @joint nodes outer plural tail place last cursor steps terminates =>
    cases pulls with
    | pending =>
      have goesOn : GoesOn limit ⟨nodes, outer, .text⟩ place longer cursor.mode :=
        goesOn_of_joint terminates fed
      exact .ready goesOn.mode goesOn.notJoint

theorem Aligned.no_text_refused (aligned : reading.Aligned) (pulls : reading.Pulls found later)
    {fault : SyntaxFault} (fed : later.draft.feed limit found = .error fault) :
    later.draft.focus ≠ .text := by
  intro isText
  cases aligned with
  | @ready draft cursor steps mode notJoint =>
    cases pulls with
    | step lexed =>
      obtain ⟨nodes, outer, focus⟩ := draft
      obtain ⟨source, offset, cursorMode⟩ := cursor
      cases isText
      cases mode
      have step := Cursor.lex_text (inPlural ⟨nodes, outer, .text⟩) source offset
      rw [lexed] at step
      cases step
      cases fed
  | joint =>
    cases pulls
    cases isText

-- What every pull keeps: while no end is pending, none has been yielded and each step has read a
-- character, and what is left decides what reading comes to.
structure Kept (limit : Nat) (source : List Char) (reading : Reading) : Prop where
  aligned : reading.Aligned
  outcome : readMessage limit source =
    resume limit reading.cursor (reading.draft.feedAll limit reading.pending)
  goesOn : reportsEnd reading.pending = false ->
    (∀ tokens ∈ reading.steps, reportsEnd tokens = false) ∧
      reading.steps.length + reading.cursor.rest.length ≤ source.length
  few : reading.steps.length ≤ source.length + 1

theorem Kept.start (room : limit ≠ 0) :
    Kept limit source ⟨Draft.start, [], Cursor.start source, []⟩ := by
  refine ⟨.ready rfl (by simp [Draft.start]), ?_, ?_, Nat.zero_le _⟩
  · rw [readMessage, if_neg room]
    rfl
  · intro _
    exact ⟨by simp, by simp [Cursor.start]⟩

theorem Kept.outcome_of_pulls (kept : Kept limit source reading) (pulls : reading.Pulls found later) :
    readMessage limit source =
      resume limit later.cursor (later.draft.feedAll limit (found :: later.pending)) := by
  rw [kept.outcome]
  cases pulls with
  | pending => rfl
  | step lexed => exact run_of_lex lexed

theorem Kept.few_of_pulls (kept : Kept limit source reading) (pulls : reading.Pulls found later) :
    later.steps.length ≤ source.length + 1 := by
  cases pulls with
  | pending => exact kept.few
  | @step draft found pending cursor next steps lexed =>
    obtain ⟨_, count⟩ : _ ∧ steps.length + cursor.rest.length ≤ source.length := kept.goesOn rfl
    rw [List.length_append, List.length_singleton]
    omega

theorem Kept.step (kept : Kept limit source reading) (pulls : reading.Pulls found later)
    (fed : later.draft.feed limit found = .ok (.draft longer)) :
    Kept limit source { later with draft := longer } := by
  have notEnd : found.token ≠ .endOfInput := by
    intro isEnd
    obtain ⟨token, offset⟩ := found
    cases isEnd
    exact feed_endOfInput limit offset later.draft longer fed
  have few := kept.few_of_pulls pulls
  refine ⟨kept.aligned.step pulls fed, ?_, ?_, few⟩
  · rw [kept.outcome_of_pulls pulls, feedAll, fed]
  · intro noEnd
    cases pulls with
    | pending => exact kept.goesOn (by simpa [reportsEnd, notEnd] using noEnd)
    | @step draft found pending cursor next steps lexed =>
      obtain ⟨noEndBefore, count⟩ :
          _ ∧ steps.length + cursor.rest.length ≤ source.length := kept.goesOn rfl
      have noEndNow : reportsEnd (found :: pending) = false := by
        simpa [reportsEnd, notEnd] using noEnd
      have shorter : next.rest.length < cursor.rest.length := by
        refine (Cursor.lex_shorter lexed).resolve_right fun ends => ?_
        rw [ends.reportsEnd] at noEndNow
        cases noEndNow
      constructor
      · rw [List.forall_mem_append, List.forall_mem_singleton]
        exact ⟨noEndBefore, noEndNow⟩
      · simp only [List.length_append, List.length_singleton]
        omega

theorem Arises.kept (arises : Arises limit source reading) : Kept limit source reading := by
  induction arises with
  | start room => exact .start room
  | feed _ pulls fed ih => exact ih.step pulls fed

structure Orderly (limit : Nat) (source : List Char) (reading : Reading) : Prop where
  -- The steps are those that are made when the source is read.
  resumes : reading.pending = [] ->
    readMessage limit source = reading.draft.run limit reading.cursor
  -- No step is made once the end has been yielded.
  beforeEnd : reading.pending = [] -> ∀ tokens ∈ reading.steps, reportsEnd tokens = false
  -- A step that succeeds reads a character or reports the end.
  progress : ∀ tokens next, reading.cursor.lex reading.draft.inPlural = (.ok tokens, next) ->
    next.rest.length < reading.cursor.rest.length ∨ reportsEnd tokens = true
  -- A text that is waited for comes first out of a step in text mode.
  text : reading.draft.focus = .text -> reading.pending = [] ∧ reading.cursor.mode = .text
  -- A message is complete when everything has been read and taken.
  consumed : ∀ found later message, reading.Pulls found later ->
    later.draft.feed limit found = .ok (.message message) ->
      later.pending = [] ∧ later.cursor.rest = []

theorem Aligned.text (aligned : reading.Aligned) (isText : reading.draft.focus = .text) :
    reading.pending = [] ∧ reading.cursor.mode = .text := by
  cases aligned with
  | ready mode =>
    rw [isText] at mode
    exact ⟨rfl, mode.symm⟩
  | joint => cases isText

theorem Aligned.consumed (aligned : reading.Aligned) (pulls : reading.Pulls found later)
    {message : Message} (fed : later.draft.feed limit found = .ok (.message message)) :
    later.pending = [] ∧ later.cursor.rest = [] := by
  have isJoint := feed_message fed
  have isEnd := feed_message_token fed
  rw [pulls.draft_eq] at isJoint
  cases aligned with
  | ready _ notJoint => exact absurd isJoint notJoint
  | joint terminates =>
    cases pulls
    cases terminates with
    | endOfInput => exact ⟨rfl, rfl⟩
    | _ => cases isEnd

theorem Kept.orderly (kept : Kept limit source reading) : reading.Orderly limit source where
  resumes nonePending := by rw [kept.outcome, nonePending, feedAll, resume]
  beforeEnd nonePending := (kept.goesOn (by rw [nonePending]; rfl)).1
  progress _ _ lexed := (Cursor.lex_shorter lexed).imp id EndsInput.reportsEnd
  text := kept.aligned.text
  consumed _ _ _ pulls fed := kept.aligned.consumed pulls fed

end Reading

theorem Reads.few {count : Nat} {outcome : Except SyntaxFault Message}
    (reads : Reads limit source count outcome) : count ≤ source.length + 1 := by
  cases reads with
  | noRoom => exact Nat.zero_le _
  | @stepFails draft cursor next steps fault arises lexed =>
    obtain ⟨_, few⟩ : _ ∧ steps.length + cursor.rest.length ≤ source.length :=
      arises.kept.goesOn rfl
    omega
  | refused arises pulls => exact arises.kept.few_of_pulls pulls
  | complete arises pulls => exact arises.kept.few_of_pulls pulls

theorem Reads.eq_readMessage {count : Nat} {outcome : Except SyntaxFault Message}
    (reads : Reads limit source count outcome) : outcome = readMessage limit source := by
  cases reads with
  | noRoom none => rw [readMessage, if_pos none]
  | stepFails arises lexed => rw [arises.kept.outcome, feedAll, resume, run_of_lex_fault lexed]
  | refused arises pulls fed => rw [arises.kept.outcome_of_pulls pulls, feedAll, fed, resume]
  | complete arises pulls fed => rw [arises.kept.outcome_of_pulls pulls, feedAll, fed, resume]

theorem Reads.no_text_expected {count : Nat} {fault : SyntaxFault} {found : Token}
    {expected : List Expectation} (reads : Reads limit source count (.error fault))
    (cause : fault.cause = .unexpectedToken found expected) : .token .text ∉ expected := by
  intro text
  cases reads with
  | noRoom => cases cause
  | stepFails _ lexed =>
    have lexical := Cursor.isLexical_of_lex lexed
    rw [cause] at lexical
    exact lexical
  | refused arises pulls fed =>
    have notText := arises.kept.aligned.no_text_refused pulls fed
    cases feed_fault fed with
    | unexpectedToken isText =>
      cases cause
      exact notText (isText text)
    | _ => cases cause

/-- Reading a pattern comes to an end after one lexical step for each character and one more at most.
A step that succeeds reads a character or reports the end, and none is made after the end or after one
that fails. A message takes the whole pattern with all its tokens, and a text is never missing. -/
theorem Message.parse_steps (limit : Nat) (pattern : String) :
    (∃ count, Reads limit pattern.toList count (readMessage limit pattern.toList)) ∧
    (∀ count outcome, Reads limit pattern.toList count outcome ->
      count ≤ pattern.toList.length + 1 ∧
        Message.parse limit pattern = outcome.mapError (SyntaxFault.locate pattern.toList)) ∧
    (∀ reading, Reading.Arises limit pattern.toList reading ->
      reading.Orderly limit pattern.toList) ∧
    ∀ error found expected, Message.parse limit pattern = .error error ->
      error.cause = .unexpectedToken found expected -> .token .text ∉ expected := by
  obtain ⟨count, reads⟩ := exists_reads limit pattern.toList
  refine ⟨⟨count, reads⟩, ?_, fun reading arises => arises.kept.orderly, ?_⟩
  · intro count outcome reads
    refine ⟨reads.few, ?_⟩
    rw [reads.eq_readMessage, Message.parse]
  · intro error found expected failed cause
    obtain ⟨fault, read, rfl⟩ := mapError_eq_error.mp failed
    rw [read] at reads
    exact reads.no_text_expected cause

-- A step for the text, one for the word and one for the end of the source, which comes too early.
def openArgument : String := "\x7bn"

def openArgumentFault : SyntaxFault :=
  { cause := .unexpectedToken .endOfInput [.token .closeBrace, .token .comma], offset := 2 }

theorem openArgument_arises : Reading.Arises 1 openArgument.toList
    ⟨⟨#[.text ""], [], .slotEnd 0 (.name "n")⟩, [], ⟨[], 2, .argument⟩,
      [[⟨.text "", 0⟩, ⟨.openBrace, 0⟩], [⟨.word "n", 1⟩]]⟩ := by
  have text : Reading.Arises 1 openArgument.toList
      ⟨⟨#[.text ""], [], .joint⟩, [⟨.openBrace, 0⟩], ⟨['n'], 1, .argument⟩,
        [[⟨.text "", 0⟩, ⟨.openBrace, 0⟩]]⟩ := .feed (.start (by decide)) (.step rfl) rfl
  have brace : Reading.Arises 1 openArgument.toList
      ⟨⟨#[.text ""], [], .slot 0⟩, [], ⟨['n'], 1, .argument⟩,
        [[⟨.text "", 0⟩, ⟨.openBrace, 0⟩]]⟩ := .feed text .pending rfl
  exact .feed brace (.step (by cbv)) rfl

theorem Message.parse_steps_openArgument :
    Reads 1 openArgument.toList 3 (.error openArgumentFault) ∧ 3 ≤ openArgument.toList.length + 1 ∧
      Message.parse 1 openArgument =
        .error (openArgumentFault.locate openArgument.toList) := by
  have reads : Reads 1 openArgument.toList 3 (.error openArgumentFault) :=
    .refused openArgument_arises (.step rfl) rfl
  obtain ⟨_, comes, _, _⟩ := Message.parse_steps 1 openArgument
  obtain ⟨few, parsed⟩ := comes 3 _ reads
  exact ⟨reads, few, parsed⟩

-- A step that fails may leave the cursor where it was.
def unknownMark : String := "\x7b?"

theorem Message.parse_step_stays : ¬ ∀ reading,
    Reading.Arises 1 unknownMark.toList reading -> reading.pending = [] ->
      (reading.cursor.lex reading.draft.inPlural).2.rest.length < reading.cursor.rest.length ∨
        ∃ tokens, (reading.cursor.lex reading.draft.inPlural).1 = .ok tokens ∧
          reportsEnd tokens = true := by
  intro reads
  have text : Reading.Arises 1 unknownMark.toList
      ⟨⟨#[.text ""], [], .joint⟩, [⟨.openBrace, 0⟩], ⟨['?'], 1, .argument⟩,
        [[⟨.text "", 0⟩, ⟨.openBrace, 0⟩]]⟩ := .feed (.start (by decide)) (.step rfl) rfl
  have mark : Reading.Arises 1 unknownMark.toList
      ⟨⟨#[.text ""], [], .slot 0⟩, [], ⟨['?'], 1, .argument⟩,
        [[⟨.text "", 0⟩, ⟨.openBrace, 0⟩]]⟩ := .feed text .pending rfl
  rcases reads _ mark rfl with shorter | ⟨tokens, lexed, _⟩
  · exact absurd shorter (by decide)
  · cases lexed

end MessagePattern

import MessagePattern.Proofs.Pattern.Completeness

set_option autoImplicit false

namespace MessagePattern

open Draft

-- Where the brace of the open argument stands, while it can still turn out to have no clauses.
def Focus.start? : Focus -> Option Nat
  | .text | .joint | .style .. | .styleEnd .. => none
  | .slot start | .slotEnd start _ | .typeName start _ | .typeEnd start _ _ => some start
  | .selectClause argument | .selectBody argument _ => some argument.start
  | .pluralStart argument | .offsetColon argument | .offsetNumber argument
  | .pluralClause argument | .exactNumber argument | .pluralBody argument _ => some argument.start

theorem Focus.eq_text {focus : Focus} (mode : focus.mode = .text) (notJoint : focus ≠ .joint) :
    focus = .text := by
  cases focus with
  | text => rfl
  | joint => exact absurd rfl notJoint
  | _ => cases mode

def OpenClause.start : OpenClause -> Nat
  | .select argument _ => argument.start
  | .plural argument _ => argument.start

def Draft.starts (draft : Draft) : List Nat :=
  draft.focus.start?.toList ++ draft.outer.map fun body => body.clause.start

inductive ArgumentStep (limit : Nat) (nodes : Array Node) (outer : List OuterBody) (focus : Focus) :
    Token -> Draft -> Prop
  | expect {token : Token} {next : Focus} (tokenMode : token.modeAfter = .argument)
      (mode : next.mode = .argument) (start : ∀ start ∈ next.start?, focus.start? = some start) :
      ArgumentStep limit nodes outer focus token ⟨nodes, outer, next⟩
  | push (node : Node) :
      ArgumentStep limit nodes outer focus .closeBrace ⟨nodes.push node, outer, .text⟩
  | openBody {clause : OpenClause} (room : outer.length + 1 < limit)
      (start : focus.start? = some clause.start) :
      ArgumentStep limit nodes outer focus .openBrace ⟨#[], ⟨nodes, clause⟩ :: outer, .text⟩

def SyntaxCause.IsLexical : SyntaxCause -> Prop
  | .unterminatedQuote | .leadingZero | .numberOutOfRange _ | .unexpectedCharacter _ => True
  | .unexpectedToken _ _ | .noClauses _ | .nestingTooDeep _ => False

namespace Cursor

theorem isLexical_of_readNumber {digits : List Char} {cause : SyntaxCause}
    (failed : readNumber digits = .error cause) : cause.IsLexical := by
  simp only [readNumber] at failed
  split at failed
  next => cases failed; trivial
  next => split at failed <;> cases failed; trivial

theorem isLexical_of_lexToken {cursor next : Cursor} {fault : SyntaxFault}
    (lexed : cursor.lexToken = (.error fault, next)) : fault.cause.IsLexical := by
  unfold lexToken at lexed
  split at lexed
  next => cases lexed
  next =>
    split at lexed
    next => cases lexed
    next =>
      split at lexed
      next =>
        simp only at lexed
        split at lexed
        next => cases lexed
        next failed => cases lexed; exact isLexical_of_readNumber failed
      next => split at lexed <;> cases lexed; trivial

theorem isLexical_of_lex {plural : Bool} {cursor next : Cursor} {fault : SyntaxFault}
    (lexed : cursor.lex plural = (.error fault, next)) : fault.cause.IsLexical := by
  obtain ⟨source, offset, mode⟩ := cursor
  cases mode with
  | text =>
    have step := lex_text plural source offset
    rw [lexed] at step
    cases step
    trivial
  | argument => exact isLexical_of_lexToken lexed

end Cursor

-- What a token is refused for, and where. Only the front of a text asks for one. A fault points at
-- the token, or at the argument that turns out to have no clauses.
inductive Refused (limit : Nat) (focus : Focus) (found : LocatedToken) : SyntaxFault -> Prop
  | unexpectedToken {expected : List Expectation} (text : .token .text ∈ expected -> focus = .text) :
      Refused limit focus found (found.unexpected expected)
  | numberOutOfRange (number : Nat) :
      Refused limit focus found { cause := .numberOutOfRange number, offset := found.offset }
  | noClauses (choice : ChoiceKind) {start : Nat} (starts : focus.start? = some start) :
      Refused limit focus found { cause := .noClauses choice, offset := start }
  | nestingTooDeep :
      Refused limit focus found { cause := .nestingTooDeep limit, offset := found.offset }

theorem Refused.place {limit : Nat} {focus : Focus} {found : LocatedToken} {fault : SyntaxFault}
    (refused : Refused limit focus found fault) :
    fault.offset = found.offset ∨ focus.start? = some fault.offset := by
  cases refused with
  | noClauses _ starts => exact .inr starts
  | _ => exact .inl rfl

theorem ArgumentType.start?_typeFocus (start : Nat) (slot : Slot) (type : ArgumentType) :
    (typeFocus start slot type).mode = .argument ∧
      ∀ place ∈ (typeFocus start slot type).start?, some start = some place := by
  cases type with
  | dateTime kind => exact ⟨rfl, fun place same => by cases same⟩
  | select => exact ⟨rfl, fun place same => same⟩
  | plural kind => exact ⟨rfl, fun place same => same⟩

theorem ArgumentStep.congr {limit : Nat} {nodes : Array Node} {outer : List OuterBody}
    {focus other : Focus} {token : Token} {next : Draft} (same : focus.start? = other.start?)
    (step : ArgumentStep limit nodes outer focus token next) :
    ArgumentStep limit nodes outer other token next := by
  cases step with
  | expect tokenMode mode start => exact .expect tokenMode mode (same ▸ start)
  | push node => exact .push node
  | openBody room start => exact .openBody room (same ▸ start)

namespace Draft

variable {limit place : Nat} {nodes : Array Node} {outer : List OuterBody} {focus : Focus}
  {token : Token} {next : Draft}

theorem argumentStep_of_pluralClause {argument : OpenPlural}
    (fed : feed limit ⟨nodes, outer, .pluralClause argument⟩ ⟨token, place⟩ = .ok (.draft next)) :
    ArgumentStep limit nodes outer (.pluralClause argument) token next := by
  rcases feed_pluralClause fed with ⟨keyword, rfl, rfl⟩ | ⟨rfl, rfl⟩ | ⟨rfl, _, rfl⟩
  · exact .expect rfl rfl fun _ same => same
  · exact .expect rfl rfl fun _ same => same
  · exact .push _

theorem argumentStep_of_feed (mode : focus.mode = .argument)
    (fed : feed limit ⟨nodes, outer, focus⟩ ⟨token, place⟩ = .ok (.draft next)) :
    ArgumentStep limit nodes outer focus token next := by
  cases focus with
  | text => cases mode
  | joint => cases mode
  | slot start =>
    obtain ⟨slot, rfl, rfl⟩ := feed_slot fed
    exact .expect (Slot.modeAfter_token slot) rfl fun _ same => same
  | slotEnd start slot =>
    rcases feed_slotEnd fed with ⟨rfl, rfl⟩ | ⟨rfl, rfl⟩
    · exact .push _
    · exact .expect rfl rfl fun _ same => same
  | typeName start slot =>
    obtain ⟨type, rfl, rfl⟩ := feed_typeName fed
    exact .expect rfl rfl fun _ same => same
  | typeEnd start slot type =>
    obtain ⟨same, rfl⟩ := feed_exactly fed
    cases same
    obtain ⟨typeMode, starts⟩ := type.start?_typeFocus start slot
    exact .expect rfl typeMode starts
  | style slot kind =>
    obtain ⟨style, rfl, rfl⟩ := feed_style fed
    exact .expect rfl rfl fun _ same => same
  | styleEnd slot kind style =>
    obtain ⟨rfl, rfl⟩ := feed_styleEnd fed
    exact .push _
  | selectClause argument =>
    rcases feed_selectClause fed with ⟨keyword, rfl, rfl⟩ | ⟨rfl, _, rfl⟩
    · exact .expect rfl rfl fun _ same => same
    · exact .push _
  | selectBody argument keyword =>
    obtain ⟨same, room, rfl⟩ := feed_body fed
    cases same
    exact .openBody room rfl
  | pluralStart argument =>
    by_cases isOffset : token = .word "offset"
    next =>
      subst isOffset
      cases fed
      exact .expect rfl rfl fun _ same => same
    next =>
      rw [feed_pluralStart isOffset] at fed
      apply ArgumentStep.congr ?_ (argumentStep_of_pluralClause fed)
      rfl
  | offsetColon argument =>
    obtain ⟨same, rfl⟩ := feed_exactly fed
    cases same
    exact .expect rfl rfl fun _ same => same
  | offsetNumber argument =>
    obtain ⟨number, same, _, rfl⟩ := feed_number fed
    cases same
    exact .expect rfl rfl fun _ same => same
  | pluralClause argument => exact argumentStep_of_pluralClause fed
  | exactNumber argument =>
    obtain ⟨number, same, _, rfl⟩ := feed_number fed
    cases same
    exact .expect rfl rfl fun _ same => same
  | pluralBody argument selector =>
    obtain ⟨same, room, rfl⟩ := feed_body fed
    cases same
    exact .openBody room rfl

theorem feed_grows {larger : Nat} (grows : limit ≤ larger) (draft : Draft) (found : LocatedToken) :
    draft.feed limit found = draft.feed larger found ∨
      draft.feed limit found = .error { cause := .nestingTooDeep limit, offset := found.offset } := by
  have body (clause : OpenClause) :
      (draft.feedBody limit found clause).map Progress.draft =
          (draft.feedBody larger found clause).map Progress.draft ∨
        (draft.feedBody limit found clause).map Progress.draft =
          .error { cause := .nestingTooDeep limit, offset := found.offset } := by
    by_cases isBrace : found.token = .openBrace
    next =>
      by_cases room : draft.depth < limit
      next =>
        have roomLarger : draft.depth < larger := Nat.lt_of_lt_of_le room grows
        left
        simp only [feedBody, if_pos isBrace, openBody, if_pos room, if_pos roomLarger]
      next =>
        right
        simp only [feedBody, if_pos isBrace, openBody, if_neg room, Except.map]
    next =>
      left
      simp only [feedBody, if_neg isBrace]
  obtain ⟨nodes, outer, focus⟩ := draft
  cases focus with
  | selectBody argument keyword => exact body (.select argument keyword)
  | pluralBody argument selector => exact body (.plural argument selector)
  | _ => exact .inl rfl

theorem feedAll_grows {larger : Nat} (grows : limit ≤ larger) (draft : Draft)
    (tokens : List LocatedToken) :
    draft.feedAll limit tokens = draft.feedAll larger tokens ∨
      ∃ offset, draft.feedAll limit tokens =
        .error { cause := .nestingTooDeep limit, offset } := by
  induction tokens generalizing draft with
  | nil => exact .inl rfl
  | cons found rest ih =>
    rw [feedAll, feedAll]
    cases feed_grows grows draft found with
    | inr tooDeep =>
      rw [tooDeep]
      exact .inr ⟨found.offset, rfl⟩
    | inl same =>
      rw [← same]
      split
      next => exact .inl rfl
      next => exact .inl rfl
      next longer _ => exact ih longer

theorem feed_mono {larger : Nat} (grows : limit ≤ larger) {draft : Draft} {found : LocatedToken}
    {progress : Progress} (fed : draft.feed limit found = .ok progress) :
    draft.feed larger found = .ok progress := by
  rcases feed_grows grows draft found with same | tooDeep
  · exact same.symm.trans fed
  · rw [tooDeep] at fed
    cases fed

theorem feedAll_mono {larger : Nat} (grows : limit ≤ larger) {draft : Draft}
    {tokens : List LocatedToken} {progress : Progress}
    (fed : draft.feedAll limit tokens = .ok progress) :
    draft.feedAll larger tokens = .ok progress := by
  rcases feedAll_grows grows draft tokens with same | ⟨offset, tooDeep⟩
  · exact same.symm.trans fed
  · rw [tooDeep] at fed
    cases fed

section Faults

variable {draft : Draft} {found : LocatedToken} {fault : SyntaxFault}

theorem refused_unexpected {expected : List Expectation} (notText : .token .text ∉ expected) :
    Refused limit focus found (found.unexpected expected) :=
  .unexpectedToken fun text => absurd text notText

theorem feedPluralClause_fault {argument : OpenPlural}
    (start : focus.start? = some argument.start)
    (fed : draft.feedPluralClause argument found = .error fault) :
    Refused limit focus found fault := by
  unfold feedPluralClause at fed
  split at fed
  next => cases fed
  next => cases fed
  next => split at fed <;> cases fed; exact .noClauses .plural start
  next => cases fed; exact refused_unexpected (by decide)

theorem feedBody_fault {clause : OpenClause}
    (fed : draft.feedBody limit found clause = .error fault) : Refused limit focus found fault := by
  unfold feedBody openBody at fed
  split at fed
  next => split at fed <;> cases fed; exact .nestingTooDeep
  next => cases fed; exact refused_unexpected (by decide)

theorem feedExactly_fault {expected : Token} {next : Focus} (notText : expected.kind ≠ .text)
    (fed : draft.feedExactly found expected next = .error fault) :
    Refused limit focus found fault := by
  unfold feedExactly at fed
  split at fed
  next => cases fed
  next =>
    cases fed
    apply refused_unexpected
    simpa using notText.symm

theorem number_fault (invalid : found.number = .error fault) : Refused limit focus found fault := by
  unfold LocatedToken.number at invalid
  split at invalid
  next => split at invalid <;> cases invalid; exact .numberOutOfRange _
  next => cases invalid; exact refused_unexpected (by decide)

theorem feed_fault (fed : draft.feed limit found = .error fault) :
    Refused limit draft.focus found fault := by
  obtain ⟨nodes, outer, focus⟩ := draft
  simp only [feed] at fed
  cases focus with
  | text =>
    have failed := map_eq_error.mp fed
    unfold feedText at failed
    split at failed <;> cases failed
    exact .unexpectedToken fun _ => rfl
  | joint =>
    simp only at fed
    unfold feedJoint at fed
    split at fed <;> cases fed <;> exact refused_unexpected (by decide)
  | slot start =>
    have failed := map_eq_error.mp fed
    unfold feedSlot at failed
    split at failed <;> cases failed
    exact refused_unexpected (by decide)
  | slotEnd start slot =>
    have failed := map_eq_error.mp fed
    unfold feedSlotEnd at failed
    split at failed <;> cases failed
    exact refused_unexpected (by decide)
  | typeName start slot =>
    have failed := map_eq_error.mp fed
    unfold feedTypeName at failed
    split at failed
    next => split at failed <;> cases failed; exact refused_unexpected (by decide)
    next => cases failed; exact refused_unexpected (by decide)
  | typeEnd => exact feedExactly_fault (by decide) (map_eq_error.mp fed)
  | style slot kind =>
    have failed := map_eq_error.mp fed
    unfold feedStyle at failed
    split at failed
    next => split at failed <;> cases failed; exact refused_unexpected (by decide)
    next => cases failed; exact refused_unexpected (by decide)
  | styleEnd slot kind style =>
    have failed := map_eq_error.mp fed
    unfold feedStyleEnd at failed
    split at failed <;> cases failed
    exact refused_unexpected (by decide)
  | selectClause argument =>
    have failed := map_eq_error.mp fed
    unfold feedSelectClause at failed
    split at failed
    next => cases failed
    next => split at failed <;> cases failed; exact .noClauses .select rfl
    next => cases failed; exact refused_unexpected (by decide)
  | selectBody => exact feedBody_fault (map_eq_error.mp fed)
  | pluralStart argument =>
    have failed := map_eq_error.mp fed
    unfold feedPluralStart at failed
    split at failed
    next => cases failed
    next => exact feedPluralClause_fault rfl failed
  | offsetColon => exact feedExactly_fault (by decide) (map_eq_error.mp fed)
  | offsetNumber => exact number_fault (map_eq_error.mp fed)
  | pluralClause argument => exact feedPluralClause_fault rfl (map_eq_error.mp fed)
  | exactNumber => exact number_fault (map_eq_error.mp fed)
  | pluralBody => exact feedBody_fault (map_eq_error.mp fed)

end Faults

end Draft

structure GoesOn (limit : Nat) (draft : Draft) (place : Nat) (longer : Draft) (mode : LexicalMode) :
    Prop where
  mode : longer.focus.mode = mode
  notJoint : longer.focus ≠ .joint
  room : draft.outer.length < limit -> longer.outer.length < limit
  starts : ∀ start ∈ longer.starts, start ∈ draft.starts ∨ start = place

theorem Draft.mem_starts {start : Nat} {nodes : Array Node} {outer : List OuterBody}
    {focus : Focus} :
    start ∈ starts ⟨nodes, outer, focus⟩ ↔
      focus.start? = some start ∨ ∃ body ∈ outer, body.clause.start = start := by
  simp [starts]

theorem ArgumentStep.goesOn {limit : Nat} {nodes : Array Node} {outer : List OuterBody}
    {focus : Focus} {token : Token} {next : Draft}
    (step : ArgumentStep limit nodes outer focus token next) (place : Nat) :
    GoesOn limit ⟨nodes, outer, focus⟩ place next token.modeAfter := by
  cases step with
  | @expect _ next tokenMode mode start =>
    refine ⟨mode.trans tokenMode.symm, ?_, id, ?_⟩
    · intro joint
      subst joint
      cases mode
    · intro place member
      exact .inl (mem_starts.mpr ((mem_starts.mp member).imp (start place) id))
  | push node =>
    refine ⟨rfl, by simp, id, ?_⟩
    intro place member
    exact .inl (mem_starts.mpr ((mem_starts.mp member).imp (by simp [Focus.start?]) id))
  | @openBody clause room start =>
    refine ⟨rfl, by simp, fun _ => room, ?_⟩
    intro place member
    obtain ⟨body, within, same⟩ := (mem_starts.mp member).resolve_left (by simp [Focus.start?])
    rcases List.mem_cons.mp within with rfl | around
    · exact .inl (mem_starts.mpr (.inl (start.trans (congrArg some same))))
    · exact .inl (mem_starts.mpr (.inr ⟨body, around, same⟩))

theorem Draft.start?_closeBody (nodes : Array Node) (body : OuterBody) (outer : List OuterBody) :
    (closeBody nodes body outer).focus.mode = .argument ∧
      (closeBody nodes body outer).focus.start? = some body.clause.start ∧
      (closeBody nodes body outer).outer = outer := by
  obtain ⟨around, clause⟩ := body
  cases clause <;> exact ⟨rfl, rfl, rfl⟩

theorem Draft.goesOn_of_joint {limit : Nat} {before nodes : Array Node} {outer : List OuterBody}
    {plural : Bool} {tail : List Char} {place : Nat} {last : LocatedToken} {cursor : Cursor}
    {next : Draft} (terminates : Terminates plural tail place last cursor)
    (fed : feedJoint ⟨nodes, outer, .joint⟩ last = .ok (.draft next)) :
    GoesOn limit ⟨before, outer, .text⟩ place next cursor.mode := by
  cases terminates with
  | endOfInput => cases outer <;> cases fed
  | openBrace =>
    rw [feedJoint_openBrace] at fed
    cases fed
    refine ⟨rfl, by simp, id, ?_⟩
    intro start member
    rcases mem_starts.mp member with same | around
    · exact .inr (Option.some.inj same).symm
    · exact .inl (mem_starts.mpr (.inr around))
  | pound =>
    rw [feedJoint_pound] at fed
    cases fed
    exact ⟨rfl, by simp, id, fun _ member => .inl member⟩
  | closeBrace =>
    cases outer with
    | nil => cases fed
    | cons body outer =>
      cases fed
      obtain ⟨mode, start, around⟩ := start?_closeBody nodes body outer
      refine ⟨mode, ?_, ?_, ?_⟩
      · intro joint
        rw [joint] at mode
        cases mode
      · intro room
        rw [around]
        exact Nat.lt_of_succ_lt room
      · intro place member
        rw [starts, start, around] at member
        exact .inl member

end MessagePattern

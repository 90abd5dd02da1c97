import MessagePattern.Pattern.Parse
import MessagePattern.Proofs.Pattern.Lexemes
import MessagePattern.Proofs.Pattern.TextRuns

set_option autoImplicit false

namespace MessagePattern

def Focus.mode : Focus -> LexicalMode
  | .text | .joint => .text
  | _ => .argument

namespace Draft

def resume (limit : Nat) (next : Cursor) : Except SyntaxFault Progress -> Except SyntaxFault Message
  | .error fault => .error fault
  | .ok (.message message) => .ok message
  | .ok (.draft draft) => draft.run limit next

theorem run_of_lex {limit : Nat} {draft : Draft} {cursor next : Cursor} {tokens : List LocatedToken}
    (lexed : cursor.lex draft.inPlural = (.ok tokens, next)) :
    draft.run limit cursor = resume limit next (draft.feedAll limit tokens) := by
  rw [run]
  split
  next failed => rw [lexed] at failed; cases failed
  next found after same =>
    rw [lexed] at same
    cases same
    split
    next fed => rw [fed, resume]
    next fed => rw [fed, resume]
    next fed => rw [fed, resume]

theorem run_of_lex_fault {limit : Nat} {draft : Draft} {cursor next : Cursor} {fault : SyntaxFault}
    (lexed : cursor.lex draft.inPlural = (.error fault, next)) :
    draft.run limit cursor = .error fault := by
  rw [run]
  split
  next same => rw [lexed] at same; cases same; rfl
  next same => rw [lexed] at same; cases same

theorem run_congr_lex {limit : Nat} {draft : Draft} {cursor other : Cursor}
    (same : cursor.lex draft.inPlural = other.lex draft.inPlural) :
    draft.run limit cursor = draft.run limit other := by
  cases lexed : other.lex draft.inPlural with
  | mk outcome next =>
    rw [lexed] at same
    cases outcome with
    | error fault => rw [run_of_lex_fault same, run_of_lex_fault lexed]
    | ok tokens => rw [run_of_lex same, run_of_lex lexed]

theorem lex_of_run {limit : Nat} {draft : Draft} {cursor : Cursor} {message : Message}
    (complete : draft.run limit cursor = .ok message) :
    ∃ tokens next, cursor.lex draft.inPlural = (.ok tokens, next) ∧
      resume limit next (draft.feedAll limit tokens) = .ok message := by
  cases lexed : cursor.lex draft.inPlural with
  | mk outcome next =>
    cases outcome with
    | ok tokens => exact ⟨tokens, next, rfl, run_of_lex lexed ▸ complete⟩
    | error fault =>
      rw [run_of_lex_fault lexed] at complete
      cases complete

@[simp] theorem feedAll_singleton (limit : Nat) (draft : Draft) (found : LocatedToken) :
    draft.feedAll limit [found] = draft.feed limit found := by
  rw [feedAll]
  split
  next fed => exact fed.symm
  next fed => exact fed.symm
  next fed => rw [fed, feedAll]

-- The text itself is always taken; what ends it decides how the draft goes on.
theorem feedAll_text (limit offset : Nat) (nodes : Array Node) (outer : List OuterBody)
    (content : String) (last : LocatedToken) :
    feedAll limit ⟨nodes, outer, .text⟩ [⟨.text content, offset⟩, last] =
      feedJoint ⟨nodes.push (.text content), outer, .joint⟩ last := by
  rw [feedAll]
  simp [feed, feedText, Except.map]

theorem feedJoint_openBrace (place : Nat) (nodes : Array Node) (outer : List OuterBody) :
    feedJoint ⟨nodes, outer, .joint⟩ ⟨.openBrace, place⟩ =
      .ok (.draft ⟨nodes, outer, .slot place⟩) := by
  cases outer <;> rfl

theorem feedJoint_pound (place : Nat) (nodes : Array Node) (outer : List OuterBody) :
    feedJoint ⟨nodes, outer, .joint⟩ ⟨.pound, place⟩ =
      .ok (.draft ⟨nodes.push .pound, outer, .text⟩) := by
  cases outer <;> rfl

def leave (limit : Nat) (nodes : Array Node) : List OuterBody -> Cursor -> Except SyntaxFault Message
  | [], _ => .ok { nodes := nodes.toList }
  | body :: outer, cursor => (closeBody nodes body outer).run limit cursor

def closing : List OuterBody -> List Char -> List Char
  | [], _ => []
  | _ :: _, tail => '}' :: tail

section Texts

variable {limit offset : Nat} {nodes : Array Node} {outer : List OuterBody}
  {source content : List Char}

theorem run_text {tail : List Char} {last : LocatedToken} {next : Cursor}
    (text : TextSpelled (inPlural ⟨nodes, outer, .text⟩) source content)
    (terminates : Terminates (inPlural ⟨nodes, outer, .text⟩) tail (offset + utf8Length source)
      last next) :
    run limit ⟨nodes, outer, .text⟩ ⟨source ++ tail, offset, .text⟩ =
      resume limit next
        (feedJoint ⟨nodes.push (.text (String.ofList content)), outer, .joint⟩ last) := by
  rw [run_of_lex (terminates.lex text), feedAll_text]

theorem run_text_open (text : TextSpelled (inPlural ⟨nodes, outer, .text⟩) source content)
    (rest : List Char) :
    run limit ⟨nodes, outer, .text⟩ ⟨source ++ '{' :: rest, offset, .text⟩ =
      run limit
        ⟨nodes.push (.text (String.ofList content)), outer, .slot (offset + utf8Length source)⟩
        ⟨rest, offset + utf8Length source + 1, .argument⟩ := by
  rw [run_text text (.openBrace rest _), feedJoint_openBrace, resume]

theorem run_text_leave (text : TextSpelled (inPlural ⟨nodes, outer, .text⟩) source content)
    (tail : List Char) :
    run limit ⟨nodes, outer, .text⟩ ⟨source ++ closing outer tail, offset, .text⟩ =
      leave limit (nodes.push (.text (String.ofList content))) outer
        ⟨tail, offset + utf8Length source + 1, .argument⟩ := by
  cases outer with
  | nil => exact run_text text (.endOfInput _)
  | cons body outer => exact run_text text (.closeBrace tail _)

theorem run_text_pound (text : TextSpelled true source content)
    (inPlural : inPlural ⟨nodes, outer, .text⟩ = true) (rest : List Char) :
    run limit ⟨nodes, outer, .text⟩ ⟨source ++ '#' :: rest, offset, .text⟩ =
      run limit ⟨(nodes.push (.text (String.ofList content))).push .pound, outer, .text⟩
        ⟨rest, offset + utf8Length source + 1, .text⟩ := by
  rw [← inPlural] at text
  rw [run_text text (.pound inPlural rest _), feedJoint_pound, resume]

theorem text_of_run {message : Message}
    (complete : run limit ⟨nodes, outer, .text⟩ ⟨source, offset, .text⟩ = .ok message) :
    ∃ front content tail, TextSpelled (inPlural ⟨nodes, outer, .text⟩) front content ∧
      (source = front ++ closing outer tail ∨ source = front ++ '{' :: tail ∨
        inPlural ⟨nodes, outer, .text⟩ = true ∧ source = front ++ '#' :: tail) := by
  obtain ⟨tokens, next, lexed, _⟩ := lex_of_run complete
  have step := Cursor.lex_text (inPlural ⟨nodes, outer, .text⟩) source offset
  rw [lexed] at step
  cases step with
  | @ends front content _ _ _ _ text terminates =>
    have refused := (run_text text terminates).symm.trans complete
    -- The end of the source is refused in a clause, and a closing brace outside of any.
    cases terminates with
    | openBrace rest => exact ⟨front, _, rest, text, .inr (.inl rfl)⟩
    | pound inPlural rest => exact ⟨front, _, rest, text, .inr (.inr ⟨inPlural, rfl⟩)⟩
    | endOfInput =>
      cases outer with
      | nil => exact ⟨front, _, [], text, .inl rfl⟩
      | cons body outer => cases refused
    | closeBrace rest =>
      cases outer with
      | nil => cases refused
      | cons body outer => exact ⟨front, _, rest, text, .inl rfl⟩

end Texts

theorem run_lexeme {limit : Nat} {draft next : Draft} {token : Token} {source tail : List Char}
    {offset : Nat} (lexeme : Lexeme token source) (stops : token.Stops tail)
    (fed : ∀ start, draft.feed limit ⟨token, start⟩ = .ok (.draft next)) :
    draft.run limit ⟨source ++ tail, offset, .argument⟩ =
      next.run limit ⟨tail, offset + utf8Length source, token.modeAfter⟩ := by
  obtain ⟨start, lexed⟩ := Cursor.lex_lexeme lexeme stops draft.inPlural offset
  rw [run_of_lex lexed, feedAll_singleton, fed start, resume]

theorem run_mark {limit : Nat} {draft next : Draft} {mark : Token} {source tail : List Char}
    {offset : Nat} (lexeme : Lexeme mark source) (isMark : mark.isMark = true)
    (fed : ∀ start, draft.feed limit ⟨mark, start⟩ = .ok (.draft next)) :
    draft.run limit ⟨source ++ tail, offset, .argument⟩ =
      next.run limit ⟨tail, offset + utf8Length source, mark.modeAfter⟩ :=
  run_lexeme lexeme (Token.stops_of_isMark isMark tail) fed

theorem feed_pluralStart {limit place : Nat} {nodes : Array Node} {outer : List OuterBody}
    {argument : OpenPlural} {token : Token} (other : token ≠ .word "offset") :
    feed limit ⟨nodes, outer, .pluralStart argument⟩ ⟨token, place⟩ =
      feed limit ⟨nodes, outer, .pluralClause argument⟩ ⟨token, place⟩ := by
  simp only [feed, feedPluralStart, if_neg other]
  rfl

theorem run_pluralStart {limit : Nat} {nodes : Array Node} {outer : List OuterBody}
    {argument : OpenPlural} {cursor next : Cursor} {token : Token} {place : Nat}
    (lexed : cursor.lex (inPlural ⟨nodes, outer, .pluralStart argument⟩) =
      (.ok [⟨token, place⟩], next)) (other : token ≠ .word "offset") :
    run limit ⟨nodes, outer, .pluralStart argument⟩ cursor =
      run limit ⟨nodes, outer, .pluralClause argument⟩ cursor := by
  have again : cursor.lex (inPlural ⟨nodes, outer, .pluralClause argument⟩) = _ := lexed
  rw [run_of_lex lexed, run_of_lex again, feedAll_singleton, feedAll_singleton,
    feed_pluralStart other]

theorem feed_message {limit : Nat} {draft : Draft} {found : LocatedToken} {message : Message}
    (fed : draft.feed limit found = .ok (.message message)) : draft.focus = .joint := by
  unfold feed at fed
  split at fed
  case h_2 focus => exact focus
  all_goals
    obtain ⟨value, _, same⟩ := map_eq_ok.mp fed
    cases same

theorem lexeme_of_run {limit : Nat} {draft : Draft} {source : List Char} {offset : Nat}
    {message : Message} (notJoint : draft.focus ≠ .joint)
    (complete : draft.run limit ⟨source, offset, .argument⟩ = .ok message) :
    ∃ token start next front tail after, source = front ++ tail ∧ Lexeme token front ∧
      draft.feed limit ⟨token, start⟩ = .ok (.draft next) ∧
      next.run limit ⟨tail, after, token.modeAfter⟩ = .ok message := by
  obtain ⟨tokens, next, lexed, goesOn⟩ := lex_of_run complete
  obtain ⟨token, start, rfl, outcome⟩ := Cursor.lex_argument_ok lexed
  rw [feedAll_singleton] at goesOn
  cases fed : draft.feed limit ⟨token, start⟩ with
  | error fault => rw [fed] at goesOn; cases goesOn
  | ok progress =>
    cases progress with
    | message message => exact absurd (feed_message fed) notJoint
    | draft longer =>
      -- No draft goes on past the end of the source, so a lexeme was read.
      rcases outcome with rfl | ⟨front, rfl, lexeme, mode⟩
      · exact absurd fed (feed_endOfInput limit start draft longer)
      · rw [fed, resume] at goesOn
        exact ⟨token, start, longer, front, next.rest, next.offset, rfl, lexeme, fed,
          mode ▸ goesOn⟩

section Arguments

variable {limit start place : Nat} {nodes : Array Node} {outer : List OuterBody} {token : Token}
  {next : Draft} {slot : Slot}

theorem feed_slot (fed : feed limit ⟨nodes, outer, .slot start⟩ ⟨token, place⟩ = .ok (.draft next)) :
    ∃ slot : Slot, token = slot.token ∧ next = ⟨nodes, outer, .slotEnd start slot⟩ := by
  simp only [feed, map_eq_ok, Progress.draft.injEq, exists_eq_right] at fed
  unfold feedSlot at fed
  split at fed
  next name same => cases fed; exact ⟨.name name, same, rfl⟩
  next number same => cases fed; exact ⟨.index number, same, rfl⟩
  next => cases fed

theorem feed_slotEnd
    (fed : feed limit ⟨nodes, outer, .slotEnd start slot⟩ ⟨token, place⟩ = .ok (.draft next)) :
    (token = .closeBrace ∧ next = ⟨nodes.push (.argument slot), outer, .text⟩) ∨
      (token = .comma ∧ next = ⟨nodes, outer, .typeName start slot⟩) := by
  simp only [feed, map_eq_ok, Progress.draft.injEq, exists_eq_right] at fed
  unfold feedSlotEnd at fed
  split at fed
  next same => cases fed; exact .inl ⟨same, rfl⟩
  next same => cases fed; exact .inr ⟨same, rfl⟩
  next => cases fed

theorem feed_typeName
    (fed : feed limit ⟨nodes, outer, .typeName start slot⟩ ⟨token, place⟩ = .ok (.draft next)) :
    ∃ type : ArgumentType, token = .word type.keyword ∧
      next = ⟨nodes, outer, .typeEnd start slot type⟩ := by
  simp only [feed, map_eq_ok, Progress.draft.injEq, exists_eq_right] at fed
  unfold feedTypeName at fed
  split at fed
  next word same =>
    split at fed
    next type known =>
      cases fed
      have keyword : type.keyword = word := by simpa using List.find?_some known
      exact ⟨type, keyword ▸ same, rfl⟩
    next => cases fed
  next => cases fed

theorem feed_exactly {expected : Token} {focus : Focus} {draft : Draft} {found : LocatedToken}
    (fed : (draft.feedExactly found expected focus).map Progress.draft = .ok (.draft next)) :
    found.token = expected ∧ next = draft.expect focus := by
  simp only [map_eq_ok, Progress.draft.injEq, exists_eq_right] at fed
  unfold feedExactly at fed
  split at fed
  next same => cases fed; exact ⟨same, rfl⟩
  next => cases fed

theorem feed_style {kind : DateTimeKind}
    (fed : feed limit ⟨nodes, outer, .style slot kind⟩ ⟨token, place⟩ = .ok (.draft next)) :
    ∃ style : DateTimeStyle, token = .word style.keyword ∧
      next = ⟨nodes, outer, .styleEnd slot kind style⟩ := by
  simp only [feed, map_eq_ok, Progress.draft.injEq, exists_eq_right] at fed
  unfold feedStyle at fed
  split at fed
  next word same =>
    split at fed
    next style known =>
      cases fed
      have keyword : style.keyword = word := by simpa using List.find?_some known
      exact ⟨style, keyword ▸ same, rfl⟩
    next => cases fed
  next => cases fed

theorem feed_styleEnd {kind : DateTimeKind} {style : DateTimeStyle}
    (fed : feed limit ⟨nodes, outer, .styleEnd slot kind style⟩ ⟨token, place⟩ =
      .ok (.draft next)) :
    token = .closeBrace ∧ next = ⟨nodes.push (.dateTime slot kind style), outer, .text⟩ := by
  simp only [feed, map_eq_ok, Progress.draft.injEq, exists_eq_right] at fed
  unfold feedStyleEnd at fed
  split at fed
  next same => cases fed; exact ⟨same, rfl⟩
  next => cases fed

theorem feed_selectClause {argument : OpenSelect}
    (fed : feed limit ⟨nodes, outer, .selectClause argument⟩ ⟨token, place⟩ = .ok (.draft next)) :
    (∃ keyword, token = .word keyword ∧ next = ⟨nodes, outer, .selectBody argument keyword⟩) ∨
      (token = .closeBrace ∧ argument.clauses.toList ≠ [] ∧
        next = ⟨nodes.push (.select argument.slot argument.clauses.toList), outer, .text⟩) := by
  simp only [feed, map_eq_ok, Progress.draft.injEq, exists_eq_right] at fed
  unfold feedSelectClause at fed
  split at fed
  next keyword same => cases fed; exact .inl ⟨keyword, same, rfl⟩
  next same =>
    split at fed
    next => cases fed
    next nonempty => cases fed; exact .inr ⟨same, by simpa using nonempty, rfl⟩
  next => cases fed

theorem feed_pluralClause {argument : OpenPlural}
    (fed : feed limit ⟨nodes, outer, .pluralClause argument⟩ ⟨token, place⟩ = .ok (.draft next)) :
    (∃ keyword, token = .word keyword ∧
        next = ⟨nodes, outer, .pluralBody argument (.keyword keyword)⟩) ∨
      (token = .equals ∧ next = ⟨nodes, outer, .exactNumber argument⟩) ∨
      (token = .closeBrace ∧ argument.clauses.toList ≠ [] ∧
        next = ⟨nodes.push (.plural argument.slot argument.kind argument.offset
          argument.clauses.toList), outer, .text⟩) := by
  simp only [feed, map_eq_ok, Progress.draft.injEq, exists_eq_right] at fed
  unfold feedPluralClause at fed
  split at fed
  next keyword same => cases fed; exact .inl ⟨keyword, same, rfl⟩
  next same => cases fed; exact .inr (.inl ⟨same, rfl⟩)
  next same =>
    split at fed
    next => cases fed
    next nonempty => cases fed; exact .inr (.inr ⟨same, by simpa using nonempty, rfl⟩)
  next => cases fed

theorem feed_body {draft : Draft} {found : LocatedToken} {clause : OpenClause}
    (fed : (draft.feedBody limit found clause).map Progress.draft = .ok (.draft next)) :
    found.token = .openBrace ∧ draft.outer.length + 1 < limit ∧
      next = ⟨#[], ⟨draft.nodes, clause⟩ :: draft.outer, .text⟩ := by
  simp only [map_eq_ok, Progress.draft.injEq, exists_eq_right] at fed
  unfold feedBody openBody at fed
  split at fed
  next same =>
    split at fed
    next within => cases fed; exact ⟨same, within, rfl⟩
    next => cases fed
  next => cases fed

theorem number_of_le {number place : Nat} (inRange : number ≤ Selector.maxNumber) :
    LocatedToken.number ⟨.number number, place⟩ = .ok (number : Int) := by
  simp [LocatedToken.number, Nat.not_lt.mpr inRange]

theorem number_eq_ok {found : LocatedToken} {value : Int} (valid : found.number = .ok value) :
    ∃ number : Nat, found.token = .number number ∧ number ≤ Selector.maxNumber ∧
      value = number := by
  unfold LocatedToken.number at valid
  split at valid
  next number same =>
    split at valid
    next => cases valid
    next inRange => cases valid; exact ⟨number, same, Nat.not_lt.mp inRange, rfl⟩
  next => cases valid

theorem feed_number {draft : Draft} {found : LocatedToken} {focus : Int -> Focus}
    (fed : (found.number.map fun value => Progress.draft (draft.expect (focus value))) =
      .ok (.draft next)) :
    ∃ number : Nat, found.token = .number number ∧ number ≤ Selector.maxNumber ∧
      next = draft.expect (focus number) := by
  obtain ⟨value, valid, isNext⟩ := map_eq_ok.mp fed
  cases isNext
  obtain ⟨number, same, inRange, rfl⟩ := number_eq_ok valid
  exact ⟨number, same, inRange, rfl⟩

end Arguments

end Draft

end MessagePattern

import MessagePattern.Proofs.Pattern.Completeness
import MessagePattern.Proofs.Pattern.Print

set_option autoImplicit false

namespace MessagePattern

open Draft

theorem Token.stops_blank {character : Char} (isBlank : isBlank character = true) (token : Token)
    (tail : List Char) : token.Stops (character :: tail) := by
  intro first same
  cases same
  exact extends?_of_not_isWordPart (not_isWordPart_of_isBlank isBlank)

theorem Lexeme.blank_print (token : Token) (printable : token.Printable) :
    Lexeme token (' ' :: token.print) := by
  have lexeme : Lexeme token ([' '] ++ token.print) :=
    .mk (List.forall_mem_singleton.mpr rfl) (Token.spelled_print printable)
  exact lexeme

namespace Draft

def closers : List OuterBody -> List Char
  | [] => []
  | _ :: outer => '}' :: '}' :: closers outer

theorem feed_closeBody (limit : Nat) (nodes : Array Node) (body : OuterBody)
    (outer : List OuterBody) :
    ∃ node, ∀ start, feed limit (closeBody nodes body outer) ⟨.closeBrace, start⟩ =
      .ok (.draft ⟨body.nodes.push node, outer, .text⟩) := by
  obtain ⟨around, clause⟩ := body
  cases clause with
  | select argument keyword =>
    refine ⟨.select argument.slot (argument.clauses.push ⟨keyword, nodes.toList⟩).toList, ?_⟩
    intro start
    simp [closeBody, feed, feedSelectClause, Except.map, push]
  | plural argument selector =>
    refine ⟨.plural argument.slot argument.kind argument.offset
      (argument.clauses.push ⟨selector, nodes.toList⟩).toList, ?_⟩
    intro start
    simp [closeBody, feed, feedPluralClause, Except.map, push]

theorem run_closeBody (limit : Nat) (nodes : Array Node) (body : OuterBody)
    (outer : List OuterBody) {brace : List Char} (closes : Lexeme .closeBrace brace)
    (tail : List Char) (offset : Nat) :
    ∃ node, run limit (closeBody nodes body outer) ⟨brace ++ tail, offset, .argument⟩ =
      run limit ⟨body.nodes.push node, outer, .text⟩ ⟨tail, offset + utf8Length brace, .text⟩ := by
  obtain ⟨node, fed⟩ := feed_closeBody limit nodes body outer
  exact ⟨node, run_mark closes rfl fed⟩

theorem exists_run_closers (limit : Nat) (nodes : Array Node) (outer : List OuterBody)
    (offset : Nat) {text content : List Char}
    (spelled : TextSpelled (inPlural ⟨nodes, outer, .text⟩) text content) :
    ∃ message, run limit ⟨nodes, outer, .text⟩ ⟨text ++ closers outer, offset, .text⟩ =
      .ok message := by
  induction outer generalizing nodes offset text content with
  | nil => exact ⟨_, run_text_leave spelled []⟩
  | cons body outer ih =>
    have closed : run limit ⟨nodes, body :: outer, .text⟩
        ⟨text ++ closers (body :: outer), offset, .text⟩ = leave limit _ (body :: outer) _ :=
      run_text_leave spelled ('}' :: closers outer)
    obtain ⟨node, same⟩ := run_closeBody limit _ body outer (.ofSpelled .closeBrace)
      (closers outer) _
    obtain ⟨message, complete⟩ := ih (body.nodes.push node) _ .nil
    exact ⟨message, (closed.trans same).trans complete⟩

end Draft

def Focus.Ends (limit : Nat) (focus : Focus) : Prop :=
  ∃ source, ∀ (nodes : Array Node) (outer : List OuterBody) (tail : List Char) (offset : Nat),
    outer.length + 1 < limit ->
    ∃ node after, run limit ⟨nodes, outer, focus⟩ ⟨' ' :: (source ++ tail), offset, .argument⟩ =
      run limit ⟨nodes.push node, outer, .text⟩ ⟨tail, after, .text⟩

namespace Focus.Ends

variable {limit : Nat} {focus next : Focus}

theorem before (token : Token) (printable : token.Printable) (mode : token.modeAfter = .argument)
    (fed : ∀ nodes outer place, feed limit ⟨nodes, outer, focus⟩ ⟨token, place⟩ =
      .ok (.draft ⟨nodes, outer, next⟩)) (ends : next.Ends limit) : focus.Ends limit := by
  obtain ⟨source, reads⟩ := ends
  refine ⟨token.print ++ ' ' :: source, ?_⟩
  intro nodes outer tail offset room
  have stops : token.Stops (' ' :: (source ++ tail)) := Token.stops_blank rfl token _
  have step : run limit ⟨nodes, outer, focus⟩
      ⟨(' ' :: token.print) ++ ' ' :: (source ++ tail), offset, .argument⟩ = _ :=
    run_lexeme (.blank_print token printable) stops (fed nodes outer)
  rw [mode] at step
  obtain ⟨node, after, same⟩ := reads nodes outer tail _ room
  refine ⟨node, after, ?_⟩
  rw [← same, ← step]
  simp

theorem brace (fed : ∀ nodes outer, ∃ node, ∀ place,
    feed limit ⟨nodes, outer, focus⟩ ⟨.closeBrace, place⟩ =
      .ok (.draft ⟨nodes.push node, outer, .text⟩)) : focus.Ends limit := by
  refine ⟨['}'], ?_⟩
  intro nodes outer tail offset room
  obtain ⟨node, closes⟩ := fed nodes outer
  exact ⟨node, _, run_mark (.blank_print .closeBrace trivial) rfl closes⟩

theorem body (clause : OpenClause) (fed : ∀ nodes outer found,
    feed limit ⟨nodes, outer, focus⟩ found =
      (feedBody limit ⟨nodes, outer, focus⟩ found clause).map Progress.draft) :
    focus.Ends limit := by
  refine ⟨['{', '}', '}'], ?_⟩
  intro nodes outer tail offset room
  have empty : TextSpelled (inPlural ⟨#[], ⟨nodes, clause⟩ :: outer, .text⟩) [] [] := .nil
  have roomInside : (⟨nodes, clause⟩ :: outer).length + 1 ≤ limit := room
  have reads := (Phrase.Spelled.text empty).readFrom #[] (⟨nodes, clause⟩ :: outer) roomInside
  have clauseRead : run limit ⟨nodes, outer, focus⟩
      ⟨(' ' :: Token.openBrace.print) ++ ([] ++ '}' :: '}' :: tail), offset, .argument⟩ = _ :=
    run_clause (.blank_print .openBrace trivial) (fed nodes outer) room rfl reads ('}' :: tail)
  obtain ⟨node, closed⟩ := run_closeBody limit _ ⟨nodes, clause⟩ outer (.ofSpelled .closeBrace) tail _
  exact ⟨node, _, clauseRead.trans closed⟩

end Focus.Ends

theorem isWord_otherKeyword : IsWord otherKeyword.toList := by
  decide

theorem isWord_select : IsWord ArgumentType.select.keyword.toList := by
  decide

namespace Focus

variable (limit start : Nat) (slot : Slot)

theorem ends_slotEnd : (slotEnd start slot).Ends limit :=
  .brace fun _ _ => ⟨_, fun _ => rfl⟩

theorem ends_style (kind : DateTimeKind) : (style slot kind).Ends limit := by
  have styleEnd : (styleEnd slot kind .short).Ends limit := .brace fun _ _ => ⟨_, fun _ => rfl⟩
  exact .before (.word DateTimeStyle.short.keyword) (DateTimeStyle.isWord_keyword .short) rfl
    (fun nodes outer place => feed_style_keyword limit place nodes outer slot kind .short) styleEnd

theorem ends_selectClause (argument : OpenSelect) : (selectClause argument).Ends limit :=
  .before (.word otherKeyword) isWord_otherKeyword rfl (fun _ _ _ => rfl)
    (.body (.select argument otherKeyword) fun _ _ _ => rfl)

theorem ends_pluralBody (argument : OpenPlural) (selector : Selector) :
    (pluralBody argument selector).Ends limit :=
  .body (.plural argument selector) fun _ _ _ => rfl

theorem ends_pluralClause (argument : OpenPlural) : (pluralClause argument).Ends limit :=
  .before (.word otherKeyword) isWord_otherKeyword rfl (fun _ _ _ => rfl)
    (ends_pluralBody limit argument (.keyword otherKeyword))

theorem ends_pluralStart (argument : OpenPlural) : (pluralStart argument).Ends limit :=
  .before (.word otherKeyword) isWord_otherKeyword rfl (fun _ _ _ => rfl)
    (ends_pluralBody limit argument (.keyword otherKeyword))

theorem ends_exactNumber (argument : OpenPlural) : (exactNumber argument).Ends limit :=
  .before (.number 0) (Nat.zero_le _) rfl (fun _ _ _ => rfl)
    (ends_pluralBody limit argument (.exactly 0))

theorem ends_offsetNumber (argument : OpenPlural) : (offsetNumber argument).Ends limit :=
  .before (.number 0) (Nat.zero_le _) rfl (fun _ _ _ => rfl) (ends_pluralClause limit _)

theorem ends_typeEnd (type : ArgumentType) : (typeEnd start slot type).Ends limit := by
  apply Ends.before .comma trivial rfl fun _ _ _ => rfl
  cases type with
  | dateTime kind => exact ends_style limit slot kind
  | select => exact ends_selectClause limit _
  | plural kind => exact ends_pluralStart limit _

theorem ends {limit : Nat} (focus : Focus) (mode : focus.mode = .argument) : focus.Ends limit := by
  cases focus with
  | text => cases mode
  | joint => cases mode
  | slot start =>
    exact .before (.number 0) (Nat.zero_le _) rfl (fun _ _ _ => rfl) (ends_slotEnd limit start _)
  | slotEnd start slot => exact ends_slotEnd limit start slot
  | typeName start slot =>
    exact .before (.word ArgumentType.select.keyword) isWord_select rfl
      (fun nodes outer place => feed_type_keyword limit start place nodes outer slot .select)
      (ends_typeEnd limit start slot .select)
  | typeEnd start slot type => exact ends_typeEnd limit start slot type
  | style slot kind => exact ends_style limit slot kind
  | styleEnd slot kind style => exact .brace fun _ _ => ⟨_, fun _ => rfl⟩
  | selectClause argument => exact ends_selectClause limit argument
  | selectBody argument keyword => exact .body (.select argument keyword) fun _ _ _ => rfl
  | pluralStart argument => exact ends_pluralStart limit argument
  | offsetColon argument =>
    exact .before .colon trivial rfl (fun _ _ _ => rfl) (ends_offsetNumber limit argument)
  | offsetNumber argument => exact ends_offsetNumber limit argument
  | pluralClause argument => exact ends_pluralClause limit argument
  | exactNumber argument => exact ends_exactNumber limit argument
  | pluralBody argument selector => exact ends_pluralBody limit argument selector

end Focus

theorem Draft.exists_run_ends {limit : Nat} (nodes : Array Node) (outer : List OuterBody)
    (focus : Focus) (mode : focus.mode = .argument) (room : outer.length + 1 < limit) (offset : Nat) :
    ∃ source message,
      run limit ⟨nodes, outer, focus⟩ ⟨' ' :: source, offset, .argument⟩ = .ok message := by
  obtain ⟨source, reads⟩ := focus.ends mode
  obtain ⟨node, after, same⟩ := reads nodes outer (closers outer) offset room
  obtain ⟨message, complete⟩ := exists_run_closers limit (nodes.push node) outer after .nil
  exact ⟨source ++ closers outer, message, same.trans complete⟩

end MessagePattern

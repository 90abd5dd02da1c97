import MessagePattern.Proofs.Message.Depth
import MessagePattern.Proofs.Pattern.Steps

set_option autoImplicit false

namespace MessagePattern

open Draft

theorem Slot.modeAfter_token (slot : Slot) : slot.token.modeAfter = .argument := by
  cases slot <;> rfl

theorem ArgumentType.ofKeyword?_keyword (type : ArgumentType) :
    ofKeyword? type.keyword = some type := by
  cases type with
  | dateTime kind => cases kind <;> rfl
  | select => rfl
  | plural kind => cases kind <;> rfl

namespace Draft

variable {limit start offset : Nat} {nodes : Array Node} {outer : List OuterBody} {slot : Slot}

theorem feed_slot_token (limit start place : Nat) (nodes : Array Node) (outer : List OuterBody)
    (slot : Slot) :
    feed limit ⟨nodes, outer, .slot start⟩ ⟨slot.token, place⟩ =
      .ok (.draft ⟨nodes, outer, .slotEnd start slot⟩) := by
  cases slot <;> rfl

theorem feed_type_keyword (limit start place : Nat) (nodes : Array Node) (outer : List OuterBody)
    (slot : Slot) (type : ArgumentType) :
    feed limit ⟨nodes, outer, .typeName start slot⟩ ⟨.word type.keyword, place⟩ =
      .ok (.draft ⟨nodes, outer, .typeEnd start slot type⟩) := by
  simp [feed, feedTypeName, ArgumentType.ofKeyword?_keyword, Except.map, expect]

theorem feed_style_keyword (limit place : Nat) (nodes : Array Node) (outer : List OuterBody)
    (slot : Slot) (kind : DateTimeKind) (style : DateTimeStyle) :
    feed limit ⟨nodes, outer, .style slot kind⟩ ⟨.word style.keyword, place⟩ =
      .ok (.draft ⟨nodes, outer, .styleEnd slot kind style⟩) := by
  simp [feed, feedStyle, Except.map, expect]

theorem run_head (type : ArgumentType) {head : List Char}
    (tokens : Lexemes [slot.token, .comma, .word type.keyword, .comma] head) (tail : List Char) :
    run limit ⟨nodes, outer, .slot start⟩ ⟨head ++ tail, offset, .argument⟩ =
      run limit ⟨nodes, outer, typeFocus start slot type⟩
        ⟨tail, offset + utf8Length head, .argument⟩ := by
  -- Each word and number is followed by a mark, so none is read too far.
  rcases tokens with _ | ⟨slotSpelled, _ | ⟨comma, _ | ⟨keyword, _ | ⟨second, _ | _⟩⟩⟩⟩
  simp only [List.append_assoc, List.nil_append, utf8Length_append, utf8Length_nil, Nat.add_zero,
    ← Nat.add_assoc]
  rw [run_lexeme slotSpelled (comma.stops_mark rfl _) fun _ => feed_slot_token ..,
    Slot.modeAfter_token]
  refine (run_mark comma rfl fun _ => rfl).trans ?_
  refine (run_lexeme keyword (second.stops_mark rfl _) fun _ => feed_type_keyword ..).trans ?_
  exact run_mark second rfl fun _ => rfl

theorem run_bare {source : List Char} (tokens : Lexemes [slot.token, .closeBrace] source)
    (tail : List Char) :
    run limit ⟨nodes, outer, .slot start⟩ ⟨source ++ tail, offset, .argument⟩ =
      run limit ⟨nodes.push (.argument slot), outer, .text⟩
        ⟨tail, offset + utf8Length source, .text⟩ := by
  rcases tokens with _ | ⟨slotSpelled, _ | ⟨brace, _ | _⟩⟩
  simp only [List.append_assoc, List.nil_append, utf8Length_append, utf8Length_nil, Nat.add_zero,
    ← Nat.add_assoc]
  rw [run_lexeme slotSpelled (brace.stops_mark rfl _) fun _ => feed_slot_token ..,
    Slot.modeAfter_token]
  exact run_mark brace rfl fun _ => rfl

theorem run_dateTime {kind : DateTimeKind} {style : DateTimeStyle} {source : List Char}
    (tokens : Lexemes [slot.token, .comma, .word kind.keyword, .comma, .word style.keyword,
      .closeBrace] source) (tail : List Char) :
    run limit ⟨nodes, outer, .slot start⟩ ⟨source ++ tail, offset, .argument⟩ =
      run limit ⟨nodes.push (.dateTime slot kind style), outer, .text⟩
        ⟨tail, offset + utf8Length source, .text⟩ := by
  obtain ⟨head, rest, rfl, headSpelled, restSpelled⟩ := Lexemes.split [_, _, _, _] tokens
  rcases restSpelled with _ | ⟨style, _ | ⟨brace, _ | _⟩⟩
  rw [List.append_assoc, run_head (.dateTime _) headSpelled]
  simp only [List.append_assoc, List.nil_append, utf8Length_append, utf8Length_nil, Nat.add_zero,
    ← Nat.add_assoc]
  refine (run_lexeme style (brace.stops_mark rfl _) fun _ => feed_style_keyword ..).trans ?_
  exact run_mark brace rfl fun _ => rfl

theorem run_unstatedOffset {kind : PluralKind} {clauses : List (Clause Selector Node)}
    {head source : List Char}
    (tokens : Lexemes [slot.token, .comma, .word kind.keyword, .comma] head)
    (clausesSpelled : (Phrase.pluralClauses clauses).Spelled source)
    (unstated : ∀ clause ∈ clauses.head?, clause.selector ≠ .keyword "offset") (tail : List Char) :
    run limit ⟨nodes, outer, .slot start⟩ ⟨head ++ (source ++ tail), offset, .argument⟩ =
      run limit ⟨nodes, outer, .pluralClause { start, slot, kind }⟩
        ⟨source ++ tail, offset + utf8Length head, .argument⟩ := by
  -- The first token of the clauses shows that no offset is stated.
  obtain ⟨token, front, rest, same, lexeme, stops, first, _⟩ := clausesSpelled.firstToken tail
  have other : token ≠ .word "offset" := by
    intro isOffset
    obtain ⟨clause, isFirst, stated⟩ := first.mp isOffset
    exact unstated clause isFirst stated
  rw [run_head (.plural kind) tokens]
  obtain ⟨place, lexed⟩ := Cursor.lex_lexeme lexeme stops _ _
  rw [← same] at lexed
  exact run_pluralStart lexed other

theorem run_statedOffset {kind : PluralKind} {stated : Nat} {head tail : List Char}
    (tokens : Lexemes [slot.token, .comma, .word kind.keyword, .comma, .word "offset", .colon,
      .number stated] head)
    (inRange : stated ≤ Selector.maxNumber) (stops : (Token.number stated).Stops tail) :
    run limit ⟨nodes, outer, .slot start⟩ ⟨head ++ tail, offset, .argument⟩ =
      run limit ⟨nodes, outer, .pluralClause { start, slot, kind, offset := stated }⟩
        ⟨tail, offset + utf8Length head, .argument⟩ := by
  obtain ⟨front, rest, rfl, headSpelled, restSpelled⟩ := Lexemes.split [_, _, _, _] tokens
  rcases restSpelled with _ | ⟨word, _ | ⟨colon, _ | ⟨number, _ | _⟩⟩⟩
  rw [List.append_assoc, run_head (.plural kind) headSpelled]
  simp only [List.append_assoc, List.nil_append, utf8Length_append, utf8Length_nil, Nat.add_zero,
    ← Nat.add_assoc]
  refine (run_lexeme word (colon.stops_mark rfl _) fun _ => rfl).trans ?_
  refine (run_mark colon rfl fun _ => rfl).trans ?_
  apply run_lexeme number stops
  intro place
  simp [feed, number_of_le inRange, Except.map, expect]

end Draft

def Phrase.depth : Phrase -> Nat
  | .body _ nodes => bodyDepth nodes
  | .argument node => node.depth + 1
  | .selectClauses clauses => selectDepth clauses + 1
  | .pluralClauses clauses => pluralDepth clauses + 1

-- What reading comes to at the front of a phrase, where the bodies around it leave room for as many
-- as it nests.
def Phrase.ReadFrom (limit : Nat) (nodes : Array Node) (outer : List OuterBody) (source : List Char) :
    Phrase -> Prop
  | .body plural inside => inPlural ⟨nodes, outer, .text⟩ = plural ->
      ∀ tail offset, run limit ⟨nodes, outer, .text⟩ ⟨source ++ closing outer tail, offset, .text⟩ =
        leave limit (nodes ++ inside.toArray) outer
          ⟨tail, offset + utf8Length source + 1, .argument⟩
  | .argument node => ∀ start tail offset,
      run limit ⟨nodes, outer, .slot start⟩ ⟨source ++ tail, offset, .argument⟩ =
        run limit ⟨nodes.push node, outer, .text⟩ ⟨tail, offset + utf8Length source, .text⟩
  | .selectClauses clauses => ∀ argument tail offset, argument.clauses.toList ++ clauses ≠ [] ->
      run limit ⟨nodes, outer, .selectClause argument⟩ ⟨source ++ tail, offset, .argument⟩ =
        run limit ⟨nodes.push (.select argument.slot (argument.clauses.toList ++ clauses)), outer, .text⟩
          ⟨tail, offset + utf8Length source, .text⟩
  | .pluralClauses clauses => ∀ argument tail offset, argument.clauses.toList ++ clauses ≠ [] ->
      run limit ⟨nodes, outer, .pluralClause argument⟩ ⟨source ++ tail, offset, .argument⟩ =
        run limit ⟨nodes.push (.plural argument.slot argument.kind argument.offset
            (argument.clauses.toList ++ clauses)), outer, .text⟩
          ⟨tail, offset + utf8Length source, .text⟩

theorem Draft.run_clause {limit offset : Nat} {nodes : Array Node} {outer : List OuterBody}
    {focus : Focus} {clause : OpenClause} {plural : Bool} {inside : List Node}
    {brace source : List Char} (opens : Lexeme .openBrace brace)
    (fed : ∀ found, feed limit ⟨nodes, outer, focus⟩ found =
      (feedBody limit ⟨nodes, outer, focus⟩ found clause).map Progress.draft)
    (room : outer.length + 1 < limit)
    (inPlural : inPlural ⟨#[], ⟨nodes, clause⟩ :: outer, .text⟩ = plural)
    (reads : Phrase.ReadFrom limit #[] (⟨nodes, clause⟩ :: outer) source (.body plural inside))
    (tail : List Char) :
    run limit ⟨nodes, outer, focus⟩ ⟨brace ++ (source ++ '}' :: tail), offset, .argument⟩ =
      run limit (closeBody inside.toArray ⟨nodes, clause⟩ outer)
        ⟨tail, offset + utf8Length brace + utf8Length source + 1, .argument⟩ := by
  have opened : ∀ place, feed limit ⟨nodes, outer, focus⟩ ⟨.openBrace, place⟩ =
      .ok (.draft ⟨#[], ⟨nodes, clause⟩ :: outer, .text⟩) := by
    intro place
    simp [fed, feedBody, openBody, depth, room, Except.map]
  refine (run_mark opens rfl opened).trans ?_
  refine (reads inPlural tail _).trans ?_
  rw [Array.empty_append, leave]

theorem Draft.run_selector {limit offset : Nat} {nodes : Array Node} {outer : List OuterBody}
    {argument : OpenPlural} {selector : Selector} {written : List Token} {source brace : List Char}
    (selectorWritten : selector.Written written) (tokens : Lexemes written source)
    (opens : Lexeme .openBrace brace) (tail : List Char) :
    run limit ⟨nodes, outer, .pluralClause argument⟩
        ⟨source ++ (brace ++ tail), offset, .argument⟩ =
      run limit ⟨nodes, outer, .pluralBody argument selector⟩
        ⟨brace ++ tail, offset + utf8Length source, .argument⟩ := by
  cases selectorWritten with
  | keyword word =>
    rcases tokens with _ | ⟨keyword, _ | _⟩
    rw [List.append_nil]
    exact run_lexeme keyword (opens.stops_mark rfl _) fun _ => rfl
  | exactly number inRange =>
    rcases tokens with _ | ⟨equals, _ | ⟨numberSpelled, _ | _⟩⟩
    simp only [List.append_assoc, List.nil_append, utf8Length_append, utf8Length_nil, Nat.add_zero,
      ← Nat.add_assoc]
    refine (run_mark equals rfl fun _ => rfl).trans ?_
    apply run_lexeme numberSpelled (opens.stops_mark rfl _)
    intro place
    simp [feed, number_of_le inRange, Except.map, expect]

-- Room for clauses is room for the body of the first, inside one more, and for those left.
theorem room_of_clause {around body rest limit : Nat} (positive : 0 < body)
    (room : around + (max body rest + 1) ≤ limit) :
    around + 1 < limit ∧ around + 1 + body ≤ limit ∧ around + (rest + 1) ≤ limit := by
  omega

theorem Phrase.Spelled.readFrom {limit : Nat} {phrase : Phrase} {source : List Char}
    (spelled : phrase.Spelled source) (nodes : Array Node) (outer : List OuterBody)
    (room : outer.length + phrase.depth ≤ limit) : phrase.ReadFrom limit nodes outer source := by
  -- Every clause opens a body inside the others, so the induction is for any bodies around.
  induction spelled generalizing nodes outer with
  | text text =>
    rintro rfl tail offset
    rw [run_text_leave text]
    simp
  | @pound body front content rest text _ ih =>
    intro inPlural tail offset
    have roomBody : outer.length + bodyDepth body ≤ limit := by
      simp only [Phrase.depth, bodyDepth] at room
      omega
    have goesOn := ih ((nodes.push (.text (String.ofList content))).push .pound) outer roomBody
    rw [List.append_assoc, List.cons_append, run_text_pound text inPlural, goesOn inPlural]
    simp [Nat.add_assoc, Nat.add_left_comm, Char.utf8Size]
  | @argument plural node body front content inside rest text _ _ ihArgument ihBody =>
    rintro rfl tail offset
    have roomNode : outer.length + (node.depth + 1) ≤ limit := by
      simp only [Phrase.depth, bodyDepth] at room
      omega
    have roomBody : outer.length + bodyDepth body ≤ limit := by
      simp only [Phrase.depth, bodyDepth] at room
      omega
    have goesOn := ihBody ((nodes.push (.text (String.ofList content))).push node) outer roomBody
    rw [List.append_assoc, List.cons_append, List.append_assoc, run_text_open text,
      ihArgument _ outer roomNode, goesOn rfl]
    simp [Nat.add_assoc, Nat.add_left_comm, Char.utf8Size]
  | bare tokens =>
    intro start tail offset
    exact run_bare tokens tail
  | dateTime tokens =>
    intro start tail offset
    exact run_dateTime tokens tail
  | select tokens nonempty _ ih =>
    intro start tail offset
    rw [List.append_assoc, run_head .select tokens, utf8Length_append, ← Nat.add_assoc]
    exact ih _ outer room { start, slot := _ } tail _ nonempty
  | plural tokens nonempty unstated clausesSpelled ih =>
    intro start tail offset
    rw [List.append_assoc, run_unstatedOffset tokens clausesSpelled unstated, utf8Length_append,
      ← Nat.add_assoc]
    exact ih _ outer room { start, slot := _, kind := _ } tail _ nonempty
  | @pluralOffset _ _ stated _ _ _ tokens nonempty inRange clausesSpelled ih =>
    intro start tail offset
    rw [List.append_assoc, run_statedOffset tokens inRange (clausesSpelled.stops_number _ _),
      utf8Length_append, ← Nat.add_assoc]
    exact ih _ outer room { start, slot := _, kind := _, offset := stated } tail _ nonempty
  | selectEnd brace =>
    intro argument tail offset nonempty
    apply run_mark brace rfl
    intro start
    rw [List.append_nil] at nonempty
    simp_all [feed, feedSelectClause, Except.map, push]
  | @selectClause keyword body clauses _ _ _ tokens _ _ ihBody ihClauses =>
    intro argument tail offset _
    simp only [Phrase.depth, selectDepth] at room
    obtain ⟨roomInside, roomBody, roomClauses⟩ := room_of_clause (bodyDepth_pos body) room
    rcases tokens with _ | ⟨keywordSpelled, _ | ⟨brace, _ | _⟩⟩
    simp only [List.append_assoc, List.cons_append, List.nil_append, utf8Length_append,
      utf8Length_cons, ← Nat.add_assoc]
    refine (run_lexeme keywordSpelled (brace.stops_mark rfl _) fun _ => rfl).trans ?_
    refine (run_clause brace (fun _ => rfl) roomInside rfl
      (ihBody #[] (⟨nodes, .select argument keyword⟩ :: outer) roomBody) _).trans ?_
    -- The clause has joined those read before it.
    refine (ihClauses nodes outer roomClauses _ tail _ (by simp)).trans ?_
    simp [Char.utf8Size]
  | pluralEnd brace =>
    intro argument tail offset nonempty
    apply run_mark brace rfl
    intro start
    rw [List.append_nil] at nonempty
    simp_all [feed, feedPluralClause, Except.map, push]
  | @pluralClause selector _ body clauses head _ _ written tokens _ _ ihBody ihClauses =>
    intro argument tail offset _
    simp only [Phrase.depth, pluralDepth] at room
    obtain ⟨roomInside, roomBody, roomClauses⟩ := room_of_clause (bodyDepth_pos body) room
    obtain ⟨front, rest, rfl, selectorSpelled, brace⟩ := tokens.split
    rcases brace with _ | ⟨brace, _ | _⟩
    simp only [List.append_assoc, List.cons_append, List.nil_append, utf8Length_append,
      utf8Length_cons, ← Nat.add_assoc]
    refine (run_selector written selectorSpelled brace _).trans ?_
    refine (run_clause brace (fun _ => rfl) roomInside rfl
      (ihBody #[] (⟨nodes, .plural argument selector⟩ :: outer) roomBody) _).trans ?_
    refine (ihClauses nodes outer roomClauses _ tail _ (by simp)).trans ?_
    simp [Char.utf8Size]

end MessagePattern

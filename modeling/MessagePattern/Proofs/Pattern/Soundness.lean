import MessagePattern.Proofs.Pattern.Completeness

set_option autoImplicit false

namespace MessagePattern

open Draft

theorem Lexeme.shorter {token : Token} {source : List Char} (lexeme : Lexeme token source)
    (tail : List Char) : tail.length < (source ++ tail).length := by
  cases lexeme with
  | @mk blank spelling isBlank spelled =>
    obtain ⟨first, rest, rfl, _⟩ := spelled.notBlank
    simp only [List.length_append, List.length_cons]
    omega

theorem length_lt_append_cons (front : List Char) (character : Char) (tail : List Char) :
    tail.length < (front ++ character :: tail).length := by
  simp only [List.length_append, List.length_cons]
  omega

theorem Lexemes.single {token : Token} {source : List Char} (lexeme : Lexeme token source) :
    Lexemes [token] source :=
  List.append_nil source ▸ .cons lexeme .nil

theorem Lexemes.append {first second : List Token} {source rest : List Char}
    (firstSpelled : Lexemes first source) (secondSpelled : Lexemes second rest) :
    Lexemes (first ++ second) (source ++ rest) := by
  induction firstSpelled with
  | nil => exact secondSpelled
  | cons lexeme _ ih => exact List.append_assoc .. ▸ .cons lexeme ih

namespace Draft

variable {limit start offset : Nat} {nodes : Array Node} {outer : List OuterBody} {slot : Slot}
  {source : List Char} {message : Message}

theorem head_of_run
    (complete : run limit ⟨nodes, outer, .slot start⟩ ⟨source, offset, .argument⟩ = .ok message) :
    ∃ slot front tail after, source = front ++ tail ∧
      (Lexemes [slot.token, .closeBrace] front ∧
          run limit ⟨nodes.push (.argument slot), outer, .text⟩ ⟨tail, after, .text⟩ = .ok message ∨
        ∃ type : ArgumentType, Lexemes [slot.token, .comma, .word type.keyword, .comma] front ∧
          run limit ⟨nodes, outer, typeFocus start slot type⟩ ⟨tail, after, .argument⟩ =
            .ok message) := by
  obtain ⟨_, _, _, front, _, _, rfl, slotSpelled, fed, complete⟩ :=
    lexeme_of_run (by simp) complete
  obtain ⟨slot, rfl, rfl⟩ := feed_slot fed
  rw [Slot.modeAfter_token] at complete
  obtain ⟨_, _, _, mark, _, _, rfl, markSpelled, fed, complete⟩ := lexeme_of_run (by simp) complete
  rcases feed_slotEnd fed with ⟨rfl, rfl⟩ | ⟨rfl, rfl⟩
  · exact ⟨slot, _, _, _, (List.append_assoc ..).symm,
      .inl ⟨.cons slotSpelled (.single markSpelled), complete⟩⟩
  obtain ⟨_, _, _, word, _, _, rfl, wordSpelled, fed, complete⟩ := lexeme_of_run (by simp) complete
  obtain ⟨type, rfl, rfl⟩ := feed_typeName fed
  obtain ⟨_, _, _, comma, _, _, rfl, commaSpelled, fed, complete⟩ := lexeme_of_run (by simp) complete
  obtain ⟨rfl, rfl⟩ := feed_exactly fed
  refine ⟨slot, front ++ (mark ++ (word ++ comma)), _, _, ?_, .inr ⟨type, ?_, complete⟩⟩
  · simp only [List.append_assoc]
  · exact .cons slotSpelled (.cons markSpelled (.cons wordSpelled (.single commaSpelled)))

theorem style_of_run {kind : DateTimeKind}
    (complete : run limit ⟨nodes, outer, .style slot kind⟩ ⟨source, offset, .argument⟩ =
      .ok message) :
    ∃ (style : DateTimeStyle) (front tail : List Char), source = front ++ tail ∧
      Lexemes [.word style.keyword, .closeBrace] front := by
  obtain ⟨_, _, _, word, _, _, rfl, wordSpelled, fed, complete⟩ := lexeme_of_run (by simp) complete
  obtain ⟨style, rfl, rfl⟩ := feed_style fed
  obtain ⟨_, _, _, brace, _, _, rfl, braceSpelled, fed, _⟩ := lexeme_of_run (by simp) complete
  obtain ⟨rfl, -⟩ := feed_styleEnd fed
  exact ⟨style, _, _, (List.append_assoc ..).symm, .cons wordSpelled (.single braceSpelled)⟩

-- Either an offset is stated, or the clauses start at once, and then the first of them is not for
-- the word that states one.
theorem pluralStart_of_run {argument : OpenPlural}
    (complete : run limit ⟨nodes, outer, .pluralStart argument⟩ ⟨source, offset, .argument⟩ =
      .ok message) :
    (∃ (stated : Nat) (front tail : List Char) (after : Nat), source = front ++ tail ∧
        Lexemes [.word "offset", .colon, .number stated] front ∧ stated ≤ Selector.maxNumber ∧
        run limit ⟨nodes, outer, .pluralClause { argument with offset := stated }⟩
          ⟨tail, after, .argument⟩ = .ok message) ∨
      (run limit ⟨nodes, outer, .pluralClause argument⟩ ⟨source, offset, .argument⟩ = .ok message ∧
        ∀ (clauses : List (Clause Selector Node)) (front tail : List Char),
          source = front ++ tail -> (Phrase.pluralClauses clauses).Spelled front ->
          ∀ clause ∈ clauses.head?, clause.selector ≠ .keyword "offset") := by
  obtain ⟨tokens, ⟨rest, after, mode⟩, lexed, goesOn⟩ := lex_of_run complete
  obtain ⟨token, place, rfl, outcome⟩ := Cursor.lex_argument_ok lexed
  by_cases isOffset : token = .word "offset"
  · left
    subst isOffset
    obtain ⟨word, rfl, wordSpelled, rfl⟩ := outcome.resolve_left (by simp)
    have afterWord : run limit ⟨nodes, outer, .offsetColon argument⟩ ⟨rest, after, .argument⟩ =
        .ok message := by
      rw [feedAll_singleton] at goesOn
      exact goesOn
    obtain ⟨_, _, _, colon, _, _, same, colonSpelled, fed, complete⟩ :=
      lexeme_of_run (by simp) afterWord
    obtain ⟨rfl, rfl⟩ := feed_exactly fed
    obtain ⟨_, _, _, number, tail, after, rfl, numberSpelled, fed, complete⟩ :=
      lexeme_of_run (by simp [expect]) complete
    obtain ⟨stated, rfl, inRange, rfl⟩ := feed_number fed
    refine ⟨stated, word ++ (colon ++ number), tail, after, ?_, ?_, inRange, complete⟩
    · simp only [same, List.append_assoc]
    · exact .cons wordSpelled (.cons colonSpelled (.single numberSpelled))
  · right
    refine ⟨run_pluralStart lexed isOffset ▸ complete, ?_⟩
    rintro clauses front tail rfl spelled clause isFirst stated
    -- The clauses' first token is the one that was read, and that is not the word.
    obtain ⟨first, lexeme, rest, same, firstSpelled, stops, offsetFirst, _⟩ :=
      spelled.firstToken tail
    obtain ⟨_, again⟩ := Cursor.lex_lexeme firstSpelled stops _ offset
    rw [same, again] at lexed
    cases lexed
    exact isOffset (offsetFirst.mpr ⟨clause, isFirst, stated⟩)

structure Sound (limit : Nat) (source : List Char) : Prop where
  body : ∀ (nodes : Array Node) (outer : List OuterBody) (offset : Nat) (message : Message),
    outer.length < limit ->
    run limit ⟨nodes, outer, .text⟩ ⟨source, offset, .text⟩ = .ok message ->
    ∃ front tail body, source = front ++ closing outer tail ∧
      (Phrase.body (inPlural ⟨nodes, outer, .text⟩) body).Spelled front ∧
      outer.length + bodyDepth body ≤ limit
  select : ∀ (nodes : Array Node) (outer : List OuterBody) (argument : OpenSelect) (offset : Nat)
    (message : Message), outer.length < limit ->
    run limit ⟨nodes, outer, .selectClause argument⟩ ⟨source, offset, .argument⟩ = .ok message ->
    ∃ front tail clauses, source = front ++ tail ∧ (Phrase.selectClauses clauses).Spelled front ∧
      argument.clauses.toList ++ clauses ≠ [] ∧ outer.length + (selectDepth clauses + 1) ≤ limit
  plural : ∀ (nodes : Array Node) (outer : List OuterBody) (argument : OpenPlural) (offset : Nat)
    (message : Message), outer.length < limit ->
    run limit ⟨nodes, outer, .pluralClause argument⟩ ⟨source, offset, .argument⟩ = .ok message ->
    ∃ front tail clauses, source = front ++ tail ∧ (Phrase.pluralClauses clauses).Spelled front ∧
      argument.clauses.toList ++ clauses ≠ [] ∧ outer.length + (pluralDepth clauses + 1) ≤ limit

theorem argument_of_run
    (sound : ∀ shorter : List Char, shorter.length ≤ source.length -> Sound limit shorter)
    (room : outer.length < limit)
    (complete : run limit ⟨nodes, outer, .slot start⟩ ⟨source, offset, .argument⟩ = .ok message) :
    ∃ front tail node, source = front ++ tail ∧ (Phrase.argument node).Spelled front ∧
      outer.length + (node.depth + 1) ≤ limit := by
  obtain ⟨slot, head, rest, after, rfl, bare | ⟨type, headSpelled, complete⟩⟩ :=
    head_of_run complete
  · exact ⟨head, rest, .argument slot, rfl, .bare bare.1, room⟩
  have shorter : Sound limit rest := sound rest (by simp)
  cases type with
  | dateTime kind =>
    obtain ⟨style, front, tail, rfl, styleSpelled⟩ := style_of_run complete
    refine ⟨head ++ front, tail, .dateTime slot kind style, (List.append_assoc ..).symm, ?_, room⟩
    exact .dateTime (headSpelled.append styleSpelled)
  | select =>
    obtain ⟨front, tail, clauses, rfl, spelled, nonempty, within⟩ :=
      shorter.select nodes outer _ after message room complete
    exact ⟨head ++ front, tail, .select slot clauses, (List.append_assoc ..).symm,
      .select headSpelled nonempty spelled, within⟩
  | plural kind =>
    rcases pluralStart_of_run complete with
      ⟨stated, words, clausesSource, place, rfl, wordsSpelled, inRange, complete⟩ | ⟨complete, unstated⟩
    · have within : clausesSource.length ≤ (head ++ (words ++ clausesSource)).length := by
        simp only [List.length_append]
        omega
      obtain ⟨front, tail, clauses, rfl, spelled, nonempty, within⟩ :=
        (sound clausesSource within).plural nodes outer _ place message room complete
      exact ⟨head ++ words ++ front, tail, .plural slot kind stated clauses, by simp,
        .pluralOffset (headSpelled.append wordsSpelled) nonempty inRange spelled, within⟩
    · obtain ⟨front, tail, clauses, rfl, spelled, nonempty, within⟩ :=
        shorter.plural nodes outer _ after message room complete
      exact ⟨head ++ front, tail, .plural slot kind 0 clauses, (List.append_assoc ..).symm,
        .plural headSpelled nonempty (unstated clauses front tail rfl spelled) spelled, within⟩

theorem body_of_run
    (sound : ∀ shorter : List Char, shorter.length < source.length -> Sound limit shorter)
    (room : outer.length < limit)
    (complete : run limit ⟨nodes, outer, .text⟩ ⟨source, offset, .text⟩ = .ok message) :
    ∃ front tail body, source = front ++ closing outer tail ∧
      (Phrase.body (inPlural ⟨nodes, outer, .text⟩) body).Spelled front ∧
      outer.length + bodyDepth body ≤ limit := by
  obtain ⟨front, content, tail, text, rfl | rfl | ⟨inPlural, rfl⟩⟩ := text_of_run complete
  · exact ⟨front, tail, _, rfl, .text text, room⟩
  · rw [run_text_open text] at complete
    have shorterTail := length_lt_append_cons front '{' tail
    obtain ⟨inside, rest, node, rfl, nodeSpelled, withinNode⟩ := argument_of_run
      (fun shorter within => sound shorter (Nat.lt_of_le_of_lt within shorterTail)) room complete
    have shorterRest : rest.length < (front ++ '{' :: (inside ++ rest)).length := by
      simp only [List.length_append, List.length_cons]
      omega
    -- Reading over the argument, which is known to be one, tells where the draft goes on.
    rw [nodeSpelled.readFrom _ outer withinNode] at complete
    obtain ⟨later, after, body, rfl, bodySpelled, withinBody⟩ :=
      (sound rest shorterRest).body _ outer _ message room complete
    refine ⟨_, after, _, ?_, .argument text nodeSpelled bodySpelled, ?_⟩
    · simp only [List.append_assoc, List.cons_append]
    · simp only [bodyDepth, Node.depth]
      omega
  · rw [inPlural] at text
    rw [run_text_pound text inPlural] at complete
    have shorterTail := length_lt_append_cons front '#' tail
    obtain ⟨later, after, body, rfl, bodySpelled, withinBody⟩ :=
      (sound tail shorterTail).body _ outer _ message room complete
    rw [inPlural]
    refine ⟨_, after, _, ?_, .pound text (inPlural ▸ bodySpelled), ?_⟩
    · simp only [List.append_assoc, List.cons_append]
    · simp only [bodyDepth, Node.depth]
      omega

theorem clause_of_run {focus : Focus} (clause : OpenClause)
    (sound : ∀ shorter : List Char, shorter.length < source.length -> Sound limit shorter)
    (notJoint : focus ≠ .joint)
    (fed : ∀ found, feed limit ⟨nodes, outer, focus⟩ found =
      (feedBody limit ⟨nodes, outer, focus⟩ found clause).map Progress.draft)
    (complete : run limit ⟨nodes, outer, focus⟩ ⟨source, offset, .argument⟩ = .ok message) :
    ∃ brace front tail body after, source = brace ++ (front ++ '}' :: tail) ∧
      Lexeme .openBrace brace ∧
      (Phrase.body (inPlural ⟨#[], ⟨nodes, clause⟩ :: outer, .text⟩) body).Spelled front ∧
      outer.length + 1 + bodyDepth body ≤ limit ∧
      run limit (closeBody body.toArray ⟨nodes, clause⟩ outer) ⟨tail, after, .argument⟩ =
        .ok message := by
  obtain ⟨token, _, next, brace, rest, _, rfl, braceSpelled, fedBrace, complete⟩ :=
    lexeme_of_run notJoint complete
  rw [fed] at fedBrace
  obtain ⟨rfl, room, rfl⟩ := feed_body fedBrace
  obtain ⟨front, tail, body, rfl, bodySpelled, within⟩ :=
    (sound rest (braceSpelled.shorter rest)).body #[] (⟨nodes, clause⟩ :: outer) _ message room complete
  have goesOn := bodySpelled.readFrom #[] (⟨nodes, clause⟩ :: outer) within rfl
  have closes := (goesOn tail _).symm.trans complete
  rw [Array.empty_append] at closes
  exact ⟨brace, front, tail, body, _, rfl, braceSpelled, bodySpelled, within, closes⟩

theorem select_of_run {argument : OpenSelect}
    (sound : ∀ shorter : List Char, shorter.length < source.length -> Sound limit shorter)
    (room : outer.length < limit)
    (complete : run limit ⟨nodes, outer, .selectClause argument⟩ ⟨source, offset, .argument⟩ =
      .ok message) :
    ∃ front tail clauses, source = front ++ tail ∧ (Phrase.selectClauses clauses).Spelled front ∧
      argument.clauses.toList ++ clauses ≠ [] ∧
      outer.length + (selectDepth clauses + 1) ≤ limit := by
  obtain ⟨token, _, next, first, rest, _, rfl, firstSpelled, fed, complete⟩ :=
    lexeme_of_run (by simp) complete
  have shorterRest := firstSpelled.shorter rest
  rcases feed_selectClause fed with ⟨keyword, rfl, rfl⟩ | ⟨rfl, nonempty, rfl⟩
  · obtain ⟨brace, inside, after, body, _, rfl, braceSpelled, bodySpelled, within, complete⟩ :=
      clause_of_run (.select argument keyword)
        (fun shorter less => sound shorter (Nat.lt_trans less shorterRest)) (by simp) (fun _ => rfl)
        complete
    have shorterAfter : after.length < (first ++ (brace ++ (inside ++ '}' :: after))).length := by
      simp only [List.length_append, List.length_cons]
      omega
    obtain ⟨front, tail, clauses, rfl, clausesSpelled, _, withinClauses⟩ :=
      (sound after shorterAfter).select nodes outer _ _ message room complete
    have tokens : Lexemes [.word keyword, .openBrace] (first ++ brace) :=
      .cons firstSpelled (.single braceSpelled)
    refine ⟨_, tail, ⟨keyword, body⟩ :: clauses, ?_,
      .selectClause tokens bodySpelled clausesSpelled, by simp, ?_⟩
    · simp only [List.append_assoc, List.cons_append]
    · simp only [selectDepth]
      omega
  · exact ⟨first, rest, [], rfl, .selectEnd firstSpelled, by simpa using nonempty, room⟩

theorem selector_of_run {argument : OpenPlural}
    (complete : run limit ⟨nodes, outer, .pluralClause argument⟩ ⟨source, offset, .argument⟩ =
      .ok message) :
    ∃ front tail after, source = front ++ tail ∧ tail.length < source.length ∧
      ((∃ (selector : Selector) (written : List Token), selector.Written written ∧
          Lexemes written front ∧
          run limit ⟨nodes, outer, .pluralBody argument selector⟩ ⟨tail, after, .argument⟩ =
            .ok message) ∨
        Lexeme .closeBrace front ∧ argument.clauses.toList ≠ []) := by
  obtain ⟨token, _, next, first, rest, _, rfl, firstSpelled, fed, complete⟩ :=
    lexeme_of_run (by simp) complete
  have shorterRest := firstSpelled.shorter rest
  rcases feed_pluralClause fed with ⟨keyword, rfl, rfl⟩ | ⟨rfl, rfl⟩ | ⟨rfl, nonempty, rfl⟩
  · exact ⟨first, rest, _, rfl, shorterRest,
      .inl ⟨_, _, .keyword keyword, .single firstSpelled, complete⟩⟩
  · obtain ⟨_, _, _, second, after, _, rfl, numberSpelled, fed, complete⟩ :=
      lexeme_of_run (by simp) complete
    obtain ⟨number, rfl, inRange, rfl⟩ := feed_number fed
    refine ⟨first ++ second, after, _, (List.append_assoc ..).symm,
      Nat.lt_trans (numberSpelled.shorter after) shorterRest, .inl ⟨_, _, .exactly number inRange,
        .cons firstSpelled (.single numberSpelled), complete⟩⟩
  · exact ⟨first, rest, 0, rfl, shorterRest, .inr ⟨firstSpelled, nonempty⟩⟩

theorem plural_of_run {argument : OpenPlural}
    (sound : ∀ shorter : List Char, shorter.length < source.length -> Sound limit shorter)
    (room : outer.length < limit)
    (complete : run limit ⟨nodes, outer, .pluralClause argument⟩ ⟨source, offset, .argument⟩ =
      .ok message) :
    ∃ front tail clauses, source = front ++ tail ∧ (Phrase.pluralClauses clauses).Spelled front ∧
      argument.clauses.toList ++ clauses ≠ [] ∧
      outer.length + (pluralDepth clauses + 1) ≤ limit := by
  obtain ⟨first, rest, _, rfl, shorterRest, outcome⟩ := selector_of_run complete
  rcases outcome with ⟨selector, written, selectorWritten, selectorSpelled, complete⟩ |
    ⟨braceSpelled, nonempty⟩
  · obtain ⟨brace, inside, after, body, _, rfl, braceSpelled, bodySpelled, within, complete⟩ :=
      clause_of_run (.plural argument selector)
        (fun shorter less => sound shorter (Nat.lt_trans less shorterRest)) (by simp) (fun _ => rfl)
        complete
    have shorterAfter : after.length < (first ++ (brace ++ (inside ++ '}' :: after))).length := by
      simp only [List.length_append, List.length_cons]
      omega
    obtain ⟨front, tail, clauses, rfl, clausesSpelled, _, withinClauses⟩ :=
      (sound after shorterAfter).plural nodes outer _ _ message room complete
    have tokens : Lexemes (written ++ [.openBrace]) (first ++ brace) :=
      selectorSpelled.append (.single braceSpelled)
    refine ⟨_, tail, ⟨selector, body⟩ :: clauses, ?_,
      .pluralClause selectorWritten tokens bodySpelled clausesSpelled, by simp, ?_⟩
    · simp only [List.append_assoc, List.cons_append]
    · simp only [pluralDepth]
      omega
  · exact ⟨first, rest, [], rfl, .pluralEnd braceSpelled, by simpa using nonempty, room⟩

theorem sound (limit : Nat) (source : List Char) : Sound limit source := by
  -- A lexeme or a brace is read before the next body or the next clauses begin.
  induction length : source.length using Nat.strongRecOn generalizing source with
  | ind count ih =>
    have shorter : ∀ other : List Char, other.length < source.length -> Sound limit other :=
      fun other less => ih other.length (length ▸ less) other rfl
    constructor
    · exact fun nodes outer offset message room => body_of_run shorter room
    · exact fun nodes outer argument offset message room => select_of_run shorter room
    · exact fun nodes outer argument offset message room => plural_of_run shorter room

end Draft

end MessagePattern

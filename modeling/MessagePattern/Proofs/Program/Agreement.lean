import MessagePattern.Formatter
import MessagePattern.Proofs.Locale
import MessagePattern.Proofs.Message.Clauses
import MessagePattern.Proofs.Message.Occurrence
import MessagePattern.Proofs.Program.Branches
import MessagePattern.Proofs.Value

set_option autoImplicit false

namespace MessagePattern

def FormatContext.host (context : FormatContext) : Host :=
  { bindings := context.bindings, environment := context.environment, escape := id }

def Node.KeywordsNonempty : Node -> Prop
  | .plural _ _ _ clauses => ∀ clause ∈ clauses, clause.selector ≠ .keyword ""
  | _ => True

-- Whether a choice has a clause that makes a program look at its value and its category.
def Node.HasAlternative : Node -> Prop
  | .select _ clauses => ∃ clause ∈ clauses, clause.selector ≠ otherKeyword
  | .plural _ _ _ clauses =>
      ∃ clause ∈ clauses, ∃ word, clause.selector = .keyword word ∧ word ≠ otherKeyword
  | _ => True

def Node.BoundIn (bindings : Bindings) (node : Node) : Prop :=
  ∀ slot, node.slot? = some slot -> ∃ value, bindings.get? slot.key = some value

-- The results of formatting and of running a program are the same, or else formatting fails and
-- that is tolerated.
def Agrees (lenient : Prop) (direct compiled : Except FormatError String) : Prop :=
  compiled = direct ∨ lenient ∧ ∃ error, direct = .error error

def BodiesAgree {σ : Type} (lenient : Prop) (context : FormatContext) (number : Option PoundNumber)
    (pound : Option PoundField) (clauses : List (Clause σ Node)) : Prop :=
  ∀ clause ∈ clauses, ∀ body, Node.compileAll context.locale.tag pound clause.body = .ok body ->
    Agrees lenient (Node.formatAll context number clause.body)
      (Instruction.executeAll context.host body)

structure Node.Comparable (lenient : Prop) (bindings : Bindings) (node : Node) : Prop where
  keywords : node.KeywordsNonempty
  strict : lenient ∨ node.HasAlternative ∧ node.BoundIn bindings

inductive PoundNumber.Of (context : FormatContext) :
    Option PoundNumber -> Option PoundField -> Prop
  | none : Of context none none
  | some (field : PoundField) {value reduced : Value} :
      context.bindings.get? field.field = some value ->
      value.minus? field.offset = some reduced ->
      Of context (some { name := field.field, value := reduced }) (some field)

section

variable {lenient : Prop} {context : FormatContext}

theorem Agrees.append {direct compiled directRest compiledRest : Except FormatError String}
    (first : Agrees lenient direct compiled) (rest : Agrees lenient directRest compiledRest) :
    Agrees lenient
      (do
        let text <- direct
        let texts <- directRest
        return text ++ texts)
      (do
        let text <- compiled
        let texts <- compiledRest
        return text ++ texts) := by
  rcases first with rfl | ⟨allowed, error, rfl⟩
  · rcases rest with rfl | ⟨allowed, error, rfl⟩
    · exact .inl rfl
    · cases compiled with
      | error earlier => exact .inl rfl
      | ok text => exact .inr ⟨allowed, error, rfl⟩
  · exact .inr ⟨allowed, error, rfl⟩

theorem Agrees.eq_of_ok {direct compiled : Except FormatError String} {text : String}
    (agrees : Agrees lenient direct compiled) (written : direct = .ok text) :
    compiled = .ok text := by
  rcases agrees with rfl | ⟨_, error, failed⟩
  · exact written
  · rw [failed] at written
    cases written

theorem agrees_argument {slot : Slot}
    (strict : lenient ∨ ∃ value, context.bindings.get? slot.key = some value) :
    Agrees lenient (context.print slot)
      (Instruction.execute context.host (.field slot.key)) := by
  unfold FormatContext.print FormatContext.resolve
  simp only [Instruction.execute, FormatContext.host]
  cases bound : context.bindings.get? slot.key with
  | none =>
    have allowed := strict.resolve_right (by simp [bound])
    exact .inr ⟨allowed, _, rfl⟩
  | some value =>
    left
    simp only [printField, ok_bind]
    cases printValue slot.key value <;> rfl

theorem agrees_dateTime (readable : context.environment.locales.Rereads context.locale)
    {slot : Slot} {kind : DateTimeKind} {style : DateTimeStyle}
    (strict : lenient ∨ ∃ value, context.bindings.get? slot.key = some value) :
    Agrees lenient (context.printInstant slot (kind.request style))
      (Instruction.execute context.host
        (.call (dateTimeCall context.locale.tag slot kind style))) := by
  unfold FormatContext.printInstant FormatContext.resolve
  rw [Instruction.execute, callText_dateTimeCall]
  simp only [FormatContext.host]
  cases bound : context.bindings.get? slot.key with
  | none =>
    have allowed := strict.resolve_right (by simp [bound])
    exact .inr ⟨allowed, _, rfl⟩
  | some value =>
    left
    simp only [Environment.printInstant, ok_bind]
    cases value.instant? with
    | none => rfl
    | some instant =>
      simp only [readable.readLocale, ok_bind]
      cases context.environment.dates context.locale context.environment.timeZone
        (kind.request style) instant <;> rfl

theorem agrees_pound {number : PoundNumber} {field : PoundField}
    (of : PoundNumber.Of context (some number) (some field)) :
    Agrees lenient (printPound (some number))
      (Instruction.execute context.host (.call field.call)) := by
  cases of with
  | some _ bound reduces =>
    left
    rw [Instruction.execute, callText_pound]
    simp only [FormatContext.host, bound, printNumber, Option.getD_some, reduceValue, reduces,
      ok_bind, printPound]
    cases printValue field.field _ <;> rfl

theorem find?_named (clauses : List (Clause String Node)) (key : String) :
    (clauses.filter (·.selector != otherKeyword)).find? (key == ·.selector) =
      if key = otherKeyword then none else clauses.find? (·.selector == key) := by
  have turned : (fun clause : Clause String Node => key == clause.selector) = (·.selector == key) :=
    funext fun _ => BEq.comm
  rw [turned, find?_filter_selector (· != otherKeyword)]
  by_cases isOther : key = otherKeyword <;> simp [isOther]

-- The chosen clause, or else the clause `other`, where what was run is the body of the same one. A
-- choice of `other` itself is run as the fallback.
theorem agrees_chosen {σ : Type} {number : Option PoundNumber}
    {pound : Option PoundField} {clauses : List (Clause σ Node)}
    {isChosen isOther : Clause σ Node -> Bool} {other : Clause σ Node}
    {fallback : List Instruction} {choosesOther : Prop} [Decidable choosesOther]
    {ran : Except FormatError String}
    (found : clauses.find? isOther = some other)
    (fallbackCompiled : Node.compileAll context.locale.tag pound other.body = .ok fallback)
    (same : choosesOther -> isChosen = isOther)
    (runs : match if choosesOther then none else clauses.find? isChosen with
      | none => ran = Instruction.executeAll context.host fallback
      | some clause => ∃ body, Node.compileAll context.locale.tag pound clause.body = .ok body ∧
          ran = Instruction.executeAll context.host body)
    (bodies : BodiesAgree lenient context number pound clauses) :
    ∃ clause, (clauses.find? isChosen <|> clauses.find? isOther) = some clause ∧
      Agrees lenient (Node.formatAll context number clause.body) ran := by
  have otherAgrees := bodies other (List.mem_of_find?_eq_some found) fallback fallbackCompiled
  by_cases isOtherKey : choosesOther
  · simp only [if_pos isOtherKey] at runs
    rw [same isOtherKey, found, runs]
    exact ⟨other, rfl, otherAgrees⟩
  · simp only [if_neg isOtherKey] at runs
    cases chosen : clauses.find? isChosen with
    | none =>
      simp only [chosen] at runs
      rw [found, runs]
      exact ⟨other, rfl, otherAgrees⟩
    | some clause =>
      simp only [chosen] at runs
      obtain ⟨body, bodyCompiled, rfl⟩ := runs
      exact ⟨clause, rfl, bodies clause (List.mem_of_find?_eq_some chosen) body bodyCompiled⟩

theorem callBool_host_select {slot : Slot} {value : Value}
    (bound : context.bindings.get? slot.key = some value) (keyword : String) :
    context.host.callBool (selectCall slot keyword) =
      (context.print slot).map (· == keyword) := by
  rw [callBool_selectCall, testSelect, FormatContext.print, FormatContext.resolve]
  simp only [FormatContext.host, bound, printField, ok_bind]

theorem agrees_select {slot : Slot} {clauses : List (Clause String Node)}
    {number : Option PoundNumber} {pound : Option PoundField} {instructions : List Instruction}
    (compiled : (Node.select slot clauses).compile context.locale.tag pound = .ok instructions)
    (strict : lenient ∨ (Node.select slot clauses).HasAlternative ∧
      ∃ value, context.bindings.get? slot.key = some value)
    (bodies : BodiesAgree lenient context none none clauses) :
    Agrees lenient ((Node.select slot clauses).format context number)
      (Instruction.executeAll context.host instructions) := by
  obtain ⟨other, fallback, branches, found, fallbackCompiled, pairs, rfl⟩ :=
    Node.compile_select_ok compiled
  rw [Node.format_select]
  cases printed : context.print slot with
  | error error =>
    rcases strict with allowed | ⟨⟨clause, member, named⟩, value, bound⟩
    · exact .inr ⟨allowed, error, rfl⟩
    left
    -- Some branch is tested, and its test fails on the value just as formatting does.
    have kept : clause ∈ clauses.filter (·.selector != otherKeyword) :=
      List.mem_filter.mpr ⟨member, by simpa using named⟩
    refine executeAll_chain_error pairs (List.ne_nil_of_mem kept) ?_ fallback
    intro tested _
    rw [callBool_host_select bound, printed]
    rfl
  | ok key =>
    have ran := executeAll_chain (key == ·) pairs (fun clause _ => by
      cases bound : context.bindings.get? slot.key with
      | none => simp [FormatContext.print, FormatContext.resolve, bound] at printed
      | some value =>
        rw [callBool_host_select bound, printed]
        rfl) fallback
    rw [find?_named] at ran
    obtain ⟨clause, chosen, agrees⟩ :=
      agrees_chosen found fallbackCompiled (fun isOther => by rw [isOther]) ran bodies
    simp only [ok_bind, chosen]
    exact agrees

theorem find?_exact (clauses : List (Clause Selector Node)) (value : Value) :
    (clauses.filter (·.selector.number?.isSome)).find? (Selector.names value ·.selector) =
      clauses.find? (Selector.names value ·.selector) := by
  rw [List.find?_filter]
  congr 1
  funext clause
  rw [Bool.eq_iff_iff]
  cases clause.selector <;> simp [Selector.names, Selector.number?]

theorem find?_category (clauses : List (Clause Selector Node)) (key : String) :
    (clauses.filter (·.selector.keyword?.any (· != otherKeyword))).find?
        (·.selector == .keyword key) =
      if key = otherKeyword then none else clauses.find? (·.selector == .keyword key) := by
  rw [find?_filter_selector fun selector : Selector => selector.keyword?.any (· != otherKeyword)]
  by_cases isOther : key = otherKeyword <;> simp [isOther, Selector.keyword?]

section Conditions

variable {slot : Slot} {kind : PluralKind} {offset : Int} {value : Value} {selector : Selector}

theorem callBool_host_notNumeric
    (readable : context.environment.locales.Rereads context.locale)
    (bound : context.bindings.get? slot.key = some value) (irreducible : value.minus? offset = none) :
    context.host.callBool (pluralCall context.locale.tag slot kind offset selector) =
      .error (.expectedNumeric slot.key value.kind) := by
  rw [callBool_pluralCall, Environment.testPlural]
  simp only [FormatContext.host, bound, Option.getD_some]
  split
  · rw [minus?_eq_none_iff.mp irreducible]
  · simp [readable.readLocale, reduceValue, irreducible]

theorem callBool_host_exactly {reduced : Value}
    (bound : context.bindings.get? slot.key = some value) (reduces : value.minus? offset = some reduced)
    (exact : selector.number?.isSome = true) :
    context.host.callBool (pluralCall context.locale.tag slot kind offset selector) =
      .ok (selector.names value) := by
  rw [callBool_pluralCall, Environment.testPlural]
  simp only [FormatContext.host, bound, Option.getD_some]
  cases selector with
  | keyword word => simp [Selector.number?] at exact
  | exactly number =>
    cases equal : value.equals? number with
    | none => simp [minus?_eq_none_iff.mpr equal] at reduces
    | some holds => simp [Selector.keyword?, Selector.number?, Selector.names, equal]

theorem callBool_host_keyword {reduced : Value}
    (readable : context.environment.locales.Rereads context.locale)
    (bound : context.bindings.get? slot.key = some value) (reduces : value.minus? offset = some reduced)
    (named : selector.keyword?.isSome = true) (nonempty : selector ≠ .keyword "") :
    context.host.callBool (pluralCall context.locale.tag slot kind offset selector) =
      (context.category slot.key kind reduced).map fun category =>
        selector == .keyword category.keyword := by
  cases selector with
  | exactly number => simp [Selector.keyword?] at named
  | keyword word =>
    have asked : context.host.category context.locale.tag slot.key kind offset =
        context.category slot.key kind reduced := by
      simp only [Host.category, FormatContext.host, bound, Option.getD_some,
        readable.readLocale, reduceValue, reduces, ok_bind, FormatContext.category]
    rw [callBool_pluralCall_keyword (by simpa using nonempty), asked]

end Conditions

theorem agrees_category {slot : Slot} {kind : PluralKind} {offset : Int} {value reduced : Value}
    {clauses : List (Clause Selector Node)} {named : List Branch} {other : Clause Selector Node}
    {fallback : List Instruction}
    (readable : context.environment.locales.Rereads context.locale)
    (bound : context.bindings.get? slot.key = some value)
    (reduces : value.minus? offset = some reduced)
    (keywords : ∀ clause ∈ clauses, clause.selector ≠ .keyword "")
    (strict : lenient ∨
      ∃ clause ∈ clauses, ∃ word, clause.selector = .keyword word ∧ word ≠ otherKeyword)
    (found : clauses.find? (·.selector == .keyword otherKeyword) = some other)
    (fallbackCompiled :
      Node.compileAll context.locale.tag (some { field := slot.key, offset }) other.body =
        .ok fallback)
    (pairs : List.Forall₂
      (Branch.Of context.locale.tag (some { field := slot.key, offset })
        (pluralCall context.locale.tag slot kind offset))
      (clauses.filter (·.selector.keyword?.any (· != otherKeyword))) named)
    (bodies : BodiesAgree lenient context
      (some { name := slot.key, value := reduced }) (some { field := slot.key, offset }) clauses) :
    Agrees lenient
      (do
        let category <- context.category slot.key kind reduced
        match clauses.find? (·.selector == .keyword category.keyword) <|>
            clauses.find? (·.selector == .keyword otherKeyword) with
        | some clause =>
            Node.formatAll context (some { name := slot.key, value := reduced }) clause.body
        | none => .error (.missingPluralOther slot.key))
      (Instruction.executeAll context.host (chain named fallback)) := by
  have tests : ∀ clause ∈ clauses.filter (·.selector.keyword?.any (· != otherKeyword)),
      context.host.callBool (pluralCall context.locale.tag slot kind offset clause.selector) =
        (context.category slot.key kind reduced).map fun category =>
          clause.selector == .keyword category.keyword := by
    intro clause kept
    obtain ⟨member, isNamed⟩ := List.mem_filter.mp kept
    exact callBool_host_keyword readable bound reduces (Option.isSome_of_any isNamed)
      (keywords clause member)
  cases resolved : context.category slot.key kind reduced with
  | error error =>
    rcases strict with allowed | ⟨clause, member, word, isWord, isNamed⟩
    · exact .inr ⟨allowed, error, rfl⟩
    left
    -- Formatting asks for the category once, the program in each test, here in the first.
    have kept : clause ∈ clauses.filter (·.selector.keyword?.any (· != otherKeyword)) :=
      List.mem_filter.mpr ⟨member, by simpa [isWord, Selector.keyword?] using isNamed⟩
    refine executeAll_chain_error pairs (List.ne_nil_of_mem kept) ?_ fallback
    intro tested member
    rw [tests tested member, resolved]
    rfl
  | ok category =>
    have ran := executeAll_chain (· == .keyword category.keyword) pairs (fun clause kept => by
      rw [tests clause kept, resolved]
      rfl) fallback
    rw [find?_category] at ran
    obtain ⟨clause, chosen, agrees⟩ :=
      agrees_chosen found fallbackCompiled (fun isOther => by rw [isOther]) ran bodies
    simp only [ok_bind, chosen]
    exact agrees

theorem agrees_plural {slot : Slot} {kind : PluralKind} {offset : Int}
    {clauses : List (Clause Selector Node)} {number : Option PoundNumber}
    {pound : Option PoundField} {instructions : List Instruction}
    (readable : context.environment.locales.Rereads context.locale)
    (compiled : (Node.plural slot kind offset clauses).compile context.locale.tag pound =
      .ok instructions)
    (keywords : (Node.plural slot kind offset clauses).KeywordsNonempty)
    (strict : lenient ∨ (Node.plural slot kind offset clauses).HasAlternative ∧
      ∃ value, context.bindings.get? slot.key = some value)
    (bodies : ∀ inner,
      PoundNumber.Of context (some inner) (some { field := slot.key, offset }) ->
        BodiesAgree lenient context (some inner)
          (some { field := slot.key, offset }) clauses) :
    Agrees lenient ((Node.plural slot kind offset clauses).format context number)
      (Instruction.executeAll context.host instructions) := by
  obtain ⟨other, fallback, exact, named, found, fallbackCompiled, exactPairs, namedPairs, rfl⟩ :=
    Node.compile_plural_ok compiled
  rw [Node.format_plural, FormatContext.resolve]
  cases bound : context.bindings.get? slot.key with
  | none =>
    have allowed := strict.resolve_right (by simp [bound])
    exact .inr ⟨allowed, _, rfl⟩
  | some value =>
    simp only [ok_bind, reduceValue]
    cases reduces : value.minus? offset with
    | none =>
      rcases strict with allowed | ⟨⟨clause, member, word, isWord, isNamed⟩, _⟩
      · exact .inr ⟨allowed, _, rfl⟩
      left
      have kept : clause ∈ clauses.filter (·.selector.keyword?.any (· != otherKeyword)) :=
        List.mem_filter.mpr ⟨member, by simpa [isWord, Selector.keyword?] using isNamed⟩
      -- Whichever test comes first, exact or named, it finds no number.
      rw [← chain_append]
      refine executeAll_chain_error (List.rel_append exactPairs namedPairs)
        (List.append_ne_nil_of_right_ne_nil _ (List.ne_nil_of_mem kept)) ?_ fallback
      intro tested _
      exact callBool_host_notNumeric readable bound reduces
    | some reduced =>
      simp only [ok_bind]
      have agrees := bodies { name := slot.key, value := reduced }
        (.some { field := slot.key, offset } bound reduces)
      have tests : ∀ clause ∈ clauses.filter (·.selector.number?.isSome),
          context.host.callBool
              (pluralCall context.locale.tag slot kind offset clause.selector) =
            .ok (clause.selector.names value) := by
        intro clause kept
        have isExact := (List.mem_filter.mp kept).2
        exact callBool_host_exactly bound reduces isExact
      have ran := executeAll_chain (Selector.names value) exactPairs tests (chain named fallback)
      rw [find?_exact] at ran
      cases chosen : clauses.find? (Selector.names value ·.selector) with
      | some clause =>
        simp only [chosen] at ran
        obtain ⟨body, bodyCompiled, ran⟩ := ran
        simpa [ran] using agrees clause (List.mem_of_find?_eq_some chosen) body bodyCompiled
      | none =>
        simp only [chosen] at ran
        rw [ran]
        exact agrees_category readable bound reduces keywords (strict.imp_right And.left) found
          fallbackCompiled namedPairs agrees

theorem agrees_cons {number : Option PoundNumber} {pound : Option PoundField} {node : Node}
    {rest : List Node} {instructions : List Instruction}
    (compiled : Node.compileAll context.locale.tag pound (node :: rest) = .ok instructions)
    (first : ∀ front, node.compile context.locale.tag pound = .ok front ->
      Agrees lenient (node.format context number) (Instruction.executeAll context.host front))
    (later : ∀ back, Node.compileAll context.locale.tag pound rest = .ok back ->
      Agrees lenient (Node.formatAll context number rest)
        (Instruction.executeAll context.host back)) :
    Agrees lenient (Node.formatAll context number (node :: rest))
      (Instruction.executeAll context.host instructions) := by
  obtain ⟨front, back, frontCompiled, backCompiled, rfl⟩ := compileAll_cons_ok compiled
  rw [Node.formatAll, executeAll_append]
  exact (first front frontCompiled).append (later back backCompiled)

theorem agrees_formatAll (readable : context.environment.locales.Rereads context.locale)
    (nodes : List Node) :
    ∀ (number : Option PoundNumber) (pound : Option PoundField) (instructions : List Instruction),
      PoundNumber.Of context number pound ->
      Node.compileAll context.locale.tag pound nodes = .ok instructions ->
      (∀ node ∈ Node.occurringAll nodes, node.Comparable lenient context.bindings) ->
      Agrees lenient (Node.formatAll context number nodes)
        (Instruction.executeAll context.host instructions) := by
  induction nodes using Node.induction with
  | nil =>
    intro number pound instructions _ compiled _
    cases compiled
    exact .inl rfl
  | text content rest ih =>
    intro number pound instructions of compiled comparable
    refine agrees_cons compiled ?_ fun back backCompiled => ih number pound back of backCompiled
      (Node.forall_occurringAll_cons.mp comparable).2
    intro front frontCompiled
    cases frontCompiled
    exact .inl (by simp [Instruction.execute, Node.format])
  | argument slot rest ih =>
    intro number pound instructions of compiled comparable
    obtain ⟨here, inRest⟩ := Node.forall_occurringAll_cons.mp comparable
    refine agrees_cons compiled ?_ fun back backCompiled => ih number pound back of backCompiled inRest
    intro front frontCompiled
    cases frontCompiled
    have strict := (here _ (Node.mem_occurring_self _)).strict
    rw [Node.format, executeAll_singleton]
    exact agrees_argument (strict.imp_right fun both => both.2 slot rfl)
  | dateTime slot kind style rest ih =>
    intro number pound instructions of compiled comparable
    obtain ⟨here, inRest⟩ := Node.forall_occurringAll_cons.mp comparable
    refine agrees_cons compiled ?_ fun back backCompiled => ih number pound back of backCompiled inRest
    intro front frontCompiled
    cases frontCompiled
    have strict := (here _ (Node.mem_occurring_self _)).strict
    rw [Node.format, executeAll_singleton]
    exact agrees_dateTime readable (strict.imp_right fun both => both.2 slot rfl)
  | select slot clauses rest bodies ih =>
    intro number pound instructions of compiled comparable
    obtain ⟨here, inRest⟩ := Node.forall_occurringAll_cons.mp comparable
    obtain ⟨self, inClauses⟩ := Node.forall_occurring_select.mp here
    refine agrees_cons compiled ?_ fun back backCompiled => ih number pound back of backCompiled inRest
    intro front frontCompiled
    refine agrees_select frontCompiled
      (self.strict.imp_right fun both => ⟨both.1, both.2 slot rfl⟩) ?_
    intro clause member body bodyCompiled
    exact bodies clause member none none body .none bodyCompiled (inClauses clause member)
  | plural slot kind offset clauses rest bodies ih =>
    intro number pound instructions of compiled comparable
    obtain ⟨here, inRest⟩ := Node.forall_occurringAll_cons.mp comparable
    obtain ⟨self, inClauses⟩ := Node.forall_occurring_plural.mp here
    refine agrees_cons compiled ?_ fun back backCompiled => ih number pound back of backCompiled inRest
    intro front frontCompiled
    refine agrees_plural readable frontCompiled self.keywords
      (self.strict.imp_right fun both => ⟨both.1, both.2 slot rfl⟩) ?_
    intro inner innerOf clause member body bodyCompiled
    exact bodies clause member (some inner) _ body innerOf bodyCompiled (inClauses clause member)
  | pound rest ih =>
    intro number pound instructions of compiled comparable
    refine agrees_cons compiled ?_ fun back backCompiled => ih number pound back of backCompiled
      (Node.forall_occurringAll_cons.mp comparable).2
    intro front frontCompiled
    cases of with
    | none => simp [Node.compile] at frontCompiled
    | some field bound reduces =>
      cases frontCompiled
      rw [Node.format, executeAll_singleton]
      exact agrees_pound (.some field bound reduces)

theorem Message.agrees {message : Message} {program : Program}
    (readable : context.environment.locales.Rereads context.locale)
    (compiled : message.compile context.locale = .ok program)
    (comparable : ∀ node ∈ message.occurring, node.Comparable lenient context.bindings) :
    Agrees lenient (message.format context) (program.execute context.host) :=
  agrees_formatAll readable message.nodes none none program.instructions .none
    (Message.compileAll_of_compile compiled) comparable

end

theorem Message.execute_of_format {context : FormatContext} {message : Message} {program : Program}
    (readable : context.environment.locales.Rereads context.locale)
    (keywords : ∀ node ∈ message.occurring, node.KeywordsNonempty)
    (compiled : message.compile context.locale = .ok program) :
    (∀ text, message.format context = .ok text -> program.execute context.host = .ok text) ∧
      ∀ error, program.execute context.host = .error error ->
        ∃ reason, message.format context = .error reason := by
  have agrees : Agrees True (message.format context) (program.execute context.host) :=
    Message.agrees readable compiled fun node member => ⟨keywords node member, .inl trivial⟩
  constructor
  · intro text formatted
    rcases agrees with same | ⟨_, error, failed⟩
    · rw [same, formatted]
    · rw [failed] at formatted
      cases formatted
  · intro error failed
    rcases agrees with same | ⟨_, reason, formatFailed⟩
    · exact ⟨error, same ▸ failed⟩
    · exact ⟨reason, formatFailed⟩

-- `{count, plural, offset:1 =0 {none but {last}} one {# guest} other {# guests of {host, select,
-- nobody {no one} other {#}}}}`.
def guestMessage : Message :=
  { nodes := [
      .text "",
      .plural (.name "count") .cardinal 1 [
        { selector := .exactly 0, body := [.text "none but ", .argument (.name "last"), .text ""] },
        { selector := .keyword "one", body := [.text "", .pound, .text " guest"] },
        { selector := .keyword "other"
          body := [
            .text "", .pound, .text " guests of ",
            .select (.name "host") [
              { selector := "nobody", body := [.text "no one"] },
              { selector := "other", body := [.text "#"] }],
            .text ""] }],
      .text ""] }

def guestContext (bindings : List (String × Value)) : FormatContext :=
  { bindings := Bindings.ofList bindings, locale := Locale.english
    environment := Environment.standard }

theorem guestContext_rereads (bindings : List (String × Value)) :
    (guestContext bindings).environment.locales.Rereads (guestContext bindings).locale :=
  Locale.rereads_of_parse (by decide : Locale.parse "en" = .ok Locale.english)

def guestCount (count : Int) : Value :=
  .number (.integer (.wrap { signed := false, size := .bits8 } count))

def guestArrival : FormatContext :=
  guestContext [("count", guestCount 4), ("host", .text "Ada")]

theorem execute_of_compiled {message : Message} {locale : Locale} {program : Program} {host : Host}
    {result : Except FormatError String} (compiled : message.compile locale = .ok program)
    (ran : (message.compile locale).toOption.map (·.execute host) = some result) :
    program.execute host = result := by
  rw [compiled] at ran
  exact Option.some.inj ran

theorem Message.execute_of_format_guests :
    ∃ program, guestMessage.compile guestArrival.locale = .ok program ∧
      program.execute guestArrival.host = .ok "3 guests of #" := by
  obtain ⟨program, compiled⟩ :
      ∃ program, guestMessage.compile guestArrival.locale = .ok program := ⟨_, rfl⟩
  refine ⟨program, compiled, ?_⟩
  have readable : guestArrival.environment.locales.Rereads guestArrival.locale :=
    guestContext_rereads _
  have keywords : ∀ node ∈ guestMessage.occurring, node.KeywordsNonempty := by
    simp [guestMessage, Message.occurring, Node.occurring, Node.occurringAll, occurringPlural,
      occurringSelect, Node.KeywordsNonempty]
  have formatted : guestMessage.format guestArrival = .ok "3 guests of #" := rfl
  exact (Message.execute_of_format readable keywords compiled).1 _ formatted

theorem Message.execute_eq_format {context : FormatContext} {message : Message} {program : Program}
    (readable : context.environment.locales.Rereads context.locale)
    (keywords : ∀ node ∈ message.occurring, node.KeywordsNonempty)
    (alternatives : ∀ node ∈ message.occurring, node.HasAlternative)
    (bound : ∀ node ∈ message.occurring, node.BoundIn context.bindings)
    (compiled : message.compile context.locale = .ok program) :
    program.execute context.host = message.format context := by
  have agrees : Agrees False (message.format context) (program.execute context.host) :=
    Message.agrees readable compiled fun node member =>
      ⟨keywords node member, .inr ⟨alternatives node member, bound node member⟩⟩
  exact agrees.resolve_right fun tolerated => tolerated.1

def guestsCounted (count : Value) : FormatContext :=
  guestContext [("count", count), ("host", .text "Ada"), ("last", .text "me")]

def guestTruth : FormatContext :=
  guestsCounted (.truth true)

theorem Message.execute_eq_format_truth :
    ∃ program, guestMessage.compile guestTruth.locale = .ok program ∧
      program.execute guestTruth.host = .error (.expectedNumeric "count" .bool) ∧
      program.execute (guestsCounted (guestCount 4)).host = .ok "3 guests of #" := by
  obtain ⟨program, compiled⟩ :
      ∃ program, guestMessage.compile guestTruth.locale = .ok program := ⟨_, rfl⟩
  have keywords : ∀ node ∈ guestMessage.occurring, node.KeywordsNonempty := by
    simp [guestMessage, Message.occurring, Node.occurring, Node.occurringAll, occurringPlural,
      occurringSelect, Node.KeywordsNonempty]
  have alternatives : ∀ node ∈ guestMessage.occurring, node.HasAlternative := by
    simp [guestMessage, Message.occurring, Node.occurring, Node.occurringAll, occurringPlural,
      occurringSelect, Node.HasAlternative, otherKeyword]
  have bound : ∀ count, ∀ node ∈ guestMessage.occurring,
      node.BoundIn (guestsCounted count).bindings := by
    intro count
    simp [guestMessage, Message.occurring, Node.occurring, Node.occurringAll, occurringPlural,
      occurringSelect, Node.BoundIn, Node.slot?]
    exact ⟨⟨_, rfl⟩, ⟨_, rfl⟩, ⟨_, rfl⟩⟩
  have same : ∀ count, program.execute (guestsCounted count).host =
      guestMessage.format (guestsCounted count) := fun count =>
    Message.execute_eq_format (guestContext_rereads _) keywords alternatives (bound count) compiled
  have refused : guestMessage.format guestTruth = .error (.expectedNumeric "count" .bool) := rfl
  have written : guestMessage.format (guestsCounted (guestCount 4)) = .ok "3 guests of #" := rfl
  exact ⟨program, compiled, (same _).trans refused, (same _).trans written⟩

end MessagePattern

import MessagePattern.Proofs.Message.Clauses
import MessagePattern.Proofs.Message.Gaps
import MessagePattern.Proofs.Value

set_option autoImplicit false

namespace MessagePattern

inductive Place.Fails (context : FormatContext) : Place -> FormatError -> Prop
  | gap {place : Place} {gap : Gap} (lacks : place.Lacks gap) :
      Fails context place gap.formatError
  | unbound {place : Place} {slot : Slot} (reads : place.node.slot? = some slot)
      (missing : context.bindings.get? slot.key = none) :
      Fails context place
        (.unknownArgument slot.key (suggestions slot.key context.bindings.names))
  | argument {inPlural : Bool} {slot : Slot} {value : Value}
      (bound : context.bindings.get? slot.key = some value) (unwritten : value.render? = none) :
      Fails context ⟨inPlural, .argument slot⟩ (.unsupportedArgumentType slot.key value.kind)
  | select {inPlural : Bool} {slot : Slot} {clauses : List (Clause String Node)} {value : Value}
      (bound : context.bindings.get? slot.key = some value) (unwritten : value.render? = none) :
      Fails context ⟨inPlural, .select slot clauses⟩ (.unsupportedArgumentType slot.key value.kind)
  | instant {inPlural : Bool} {slot : Slot} {kind : DateTimeKind} {style : DateTimeStyle}
      {value : Value} (bound : context.bindings.get? slot.key = some value)
      (timeless : value.instant? = none) :
      Fails context ⟨inPlural, .dateTime slot kind style⟩ (.expectedInstant slot.key value.kind)
  | dateTime {inPlural : Bool} {slot : Slot} {kind : DateTimeKind} {style : DateTimeStyle}
      {value : Value} {moment : Instant} {reason : DateTimeError}
      (bound : context.bindings.get? slot.key = some value) (timed : value.instant? = some moment)
      (failed : context.environment.dates context.locale context.environment.timeZone
        (kind.request style) moment = .error reason) :
      Fails context ⟨inPlural, .dateTime slot kind style⟩ (.dateTime slot.key reason)
  | number {inPlural : Bool} {slot : Slot} {kind : PluralKind} {offset : Int}
      {clauses : List (Clause Selector Node)} {value : Value}
      (bound : context.bindings.get? slot.key = some value)
      (irreducible : value.minus? offset = none) :
      Fails context ⟨inPlural, .plural slot kind offset clauses⟩
        (.expectedNumeric slot.key value.kind)
  | category {inPlural : Bool} {slot : Slot} {kind : PluralKind} {offset : Int}
      {clauses : List (Clause Selector Node)} {value reduced : Value} {reason : PluralError}
      (bound : context.bindings.get? slot.key = some value)
      (reduces : value.minus? offset = some reduced)
      (failed : context.environment.plurals.category context.locale kind reduced = .error reason) :
      Fails context ⟨inPlural, .plural slot kind offset clauses⟩ (.plural slot.key reason)

theorem Place.Fails.lacks {context : FormatContext} {place : Place} {error : FormatError}
    {gap : Gap} (fails : place.Fails context error) (same : error = gap.formatError) :
    place.Lacks gap := by
  cases fails with
  | gap lacks => exact Gap.formatError_injective same ▸ lacks
  | _ => cases gap <;> cases same

section

variable {context : FormatContext}

theorem resolve_eq_ok {slot : Slot} {value : Value} :
    context.resolve slot = .ok value ↔ context.bindings.get? slot.key = some value := by
  cases bound : context.bindings.get? slot.key <;> simp [FormatContext.resolve, bound]

theorem resolve_eq_error {slot : Slot} {error : FormatError} :
    context.resolve slot = .error error ↔
      context.bindings.get? slot.key = none ∧
        error = .unknownArgument slot.key (suggestions slot.key context.bindings.names) := by
  cases bound : context.bindings.get? slot.key <;>
    simp [FormatContext.resolve, bound, eq_comm]

theorem printValue_eq_error {name : String} {value : Value} {error : FormatError} :
    printValue name value = .error error ↔
      value.render? = none ∧ error = .unsupportedArgumentType name value.kind := by
  cases written : value.render? <;> simp [printValue, written, eq_comm]

theorem reduceValue_eq_ok {name : String} {value reduced : Value} {offset : Int} :
    reduceValue name value offset = .ok reduced ↔ value.minus? offset = some reduced := by
  cases reduces : value.minus? offset <;> simp [reduceValue, reduces]

theorem reduceValue_eq_error {name : String} {value : Value} {offset : Int} {error : FormatError} :
    reduceValue name value offset = .error error ↔
      value.minus? offset = none ∧ error = .expectedNumeric name value.kind := by
  cases reduces : value.minus? offset <;> simp [reduceValue, reduces, eq_comm]

theorem print_error {slot : Slot} {error : FormatError} (failed : context.print slot = .error error) :
    (context.bindings.get? slot.key = none ∧
        error = .unknownArgument slot.key (suggestions slot.key context.bindings.names)) ∨
      ∃ value, context.bindings.get? slot.key = some value ∧ value.render? = none ∧
        error = .unsupportedArgumentType slot.key value.kind := by
  rcases bind_eq_error.mp failed with unresolved | ⟨value, resolved, unprinted⟩
  · exact .inl (resolve_eq_error.mp unresolved)
  · obtain ⟨unwritten, same⟩ := printValue_eq_error.mp unprinted
    exact .inr ⟨value, resolve_eq_ok.mp resolved, unwritten, same⟩

theorem Node.format_of_unresolved {node : Node} {slot : Slot} {number : Option PoundNumber}
    {error : FormatError} (reads : node.slot? = some slot)
    (unresolved : context.resolve slot = .error error) :
    node.format context number = .error error := by
  cases node with
  | text content | pound => cases reads
  | argument other =>
    cases reads
    rw [Node.format, FormatContext.print, unresolved, error_bind]
  | dateTime other kind style =>
    cases reads
    rw [Node.format, FormatContext.printInstant, unresolved, error_bind]
  | select other clauses =>
    cases reads
    rw [Node.format, FormatContext.print, unresolved, error_bind, error_bind]
  | plural other kind offset clauses =>
    cases reads
    rw [Node.format, unresolved, error_bind]

theorem formatAll_ne_ok {nodes : List Node} {node : Node} {number : Option PoundNumber}
    {error : FormatError} (member : node ∈ nodes)
    (failed : node.format context number = .error error) (text : String) :
    Node.formatAll context number nodes ≠ .ok text := by
  obtain ⟨front, rest, rfl⟩ := List.append_of_mem member
  intro written
  rw [formatAll_append] at written
  obtain ⟨_, _, written⟩ := bind_eq_ok.mp written
  rw [Node.formatAll, failed] at written
  cases written

theorem fails_argument {inPlural : Bool} {slot : Slot} {error : FormatError}
    (failed : context.print slot = .error error) :
    Place.Fails context ⟨inPlural, .argument slot⟩ error := by
  rcases print_error failed with ⟨missing, rfl⟩ | ⟨value, bound, unwritten, rfl⟩
  · exact .unbound rfl missing
  · exact .argument bound unwritten

theorem fails_dateTime {inPlural : Bool} {slot : Slot} {kind : DateTimeKind}
    {style : DateTimeStyle} {error : FormatError}
    (failed : context.printInstant slot (kind.request style) = .error error) :
    Place.Fails context ⟨inPlural, .dateTime slot kind style⟩ error := by
  rcases bind_eq_error.mp failed with unresolved | ⟨value, resolved, unprinted⟩
  · obtain ⟨missing, rfl⟩ := resolve_eq_error.mp unresolved
    exact .unbound rfl missing
  have bound := resolve_eq_ok.mp resolved
  cases time : value.instant? with
  | none =>
    simp only [time] at unprinted
    cases unprinted
    exact .instant bound time
  | some moment =>
    simp only [time] at unprinted
    obtain ⟨reason, dated, rfl⟩ := mapError_eq_error.mp unprinted
    exact .dateTime bound time dated

theorem fails_select {inPlural : Bool} {slot : Slot} {clauses : List (Clause String Node)}
    {number : Option PoundNumber} {error : FormatError}
    (failed : (Node.select slot clauses).format context number = .error error)
    (bodies : ∀ clause ∈ clauses, Node.formatAll context none clause.body = .error error ->
      LiveWith (·.Fails context error) false clause.body) :
    LiveWith (·.Fails context error) inPlural [.select slot clauses] := by
  rw [Node.format_select] at failed
  rcases bind_eq_error.mp failed with unprinted | ⟨key, _, failed⟩
  · rcases print_error unprinted with ⟨missing, rfl⟩ | ⟨value, bound, unwritten, rfl⟩
    · exact .here (.unbound rfl missing)
    · exact .here (.select bound unwritten)
  cases chosen : clauses.find? (·.selector == key) <|>
      clauses.find? (·.selector == otherKeyword) with
  | some clause =>
    simp only [chosen] at failed
    have live := mem_liveClauses_of_chosen chosen
    exact .select live (bodies clause (mem_of_mem_liveClauses live) failed)
  | none =>
    simp only [chosen] at failed
    cases failed
    have missing := (Option.or_eq_none_iff.mp (Option.orElse_eq_or.symm.trans chosen)).2
    exact .here (.gap (.selectOther missing))

theorem mem_liveClauses_of_names {value : Value} {clauses : List (Clause Selector Node)}
    {clause : Clause Selector Node}
    (chosen : clauses.find? (Selector.names value ·.selector) = some clause) :
    clause ∈ liveClauses (· == .keyword otherKeyword) clauses := by
  have names := List.find?_some chosen
  refine mem_liveClauses.mpr (.inl ⟨List.mem_of_find?_eq_some chosen, ?_⟩)
  cases exact : clause.selector with
  | keyword word => simp [exact, Selector.names, Selector.number?] at names
  | exactly number => rfl

theorem fails_plural {inPlural : Bool} {slot : Slot} {kind : PluralKind} {offset : Int}
    {clauses : List (Clause Selector Node)} {number : Option PoundNumber} {error : FormatError}
    (failed : (Node.plural slot kind offset clauses).format context number = .error error)
    (bodies : ∀ clause ∈ clauses, ∀ inner : PoundNumber, inner.value.Counts ->
      Node.formatAll context (some inner) clause.body = .error error ->
        LiveWith (·.Fails context error) true clause.body) :
    LiveWith (·.Fails context error) inPlural [.plural slot kind offset clauses] := by
  rw [Node.format_plural] at failed
  rcases bind_eq_error.mp failed with unresolved | ⟨value, resolved, failed⟩
  · obtain ⟨missing, rfl⟩ := resolve_eq_error.mp unresolved
    exact .here (.unbound rfl missing)
  have bound := resolve_eq_ok.mp resolved
  rcases bind_eq_error.mp failed with unreduced | ⟨reduced, left, failed⟩
  · obtain ⟨irreducible, rfl⟩ := reduceValue_eq_error.mp unreduced
    exact .here (.number bound irreducible)
  have reduces := reduceValue_eq_ok.mp left
  have counts := Value.counts_of_minus? reduces
  cases exact : clauses.find? (Selector.names value ·.selector) with
  | some clause =>
    simp only [exact] at failed
    have live := mem_liveClauses_of_names exact
    exact .plural live (bodies clause (mem_of_mem_liveClauses live) _ counts failed)
  | none =>
    simp only [exact] at failed
    rcases bind_eq_error.mp failed with uncategorized | ⟨category, _, failed⟩
    · obtain ⟨reason, unanswered, rfl⟩ := mapError_eq_error.mp uncategorized
      exact .here (.category bound reduces unanswered)
    cases chosen : clauses.find? (·.selector == .keyword category.keyword) <|>
        clauses.find? (·.selector == .keyword otherKeyword) with
    | some clause =>
      simp only [chosen] at failed
      have live := mem_liveClauses_of_chosen chosen
      exact .plural live (bodies clause (mem_of_mem_liveClauses live) _ counts failed)
    | none =>
      simp only [chosen] at failed
      cases failed
      have missing := (Option.or_eq_none_iff.mp (Option.orElse_eq_or.symm.trans chosen)).2
      exact .here (.gap (.pluralOther missing))

theorem fails_of_formatAll (nodes : List Node) :
    ∀ (number : Option PoundNumber) (error : FormatError),
      (∀ inner ∈ number, inner.value.Counts) ->
      Node.formatAll context number nodes = .error error ->
      LiveWith (·.Fails context error) number.isSome nodes := by
  induction nodes using Node.induction_single with
  | nil =>
    intro number error _ failed
    cases failed
  | cons node rest single ih =>
    intro number error counts failed
    rw [Node.formatAll] at failed
    rcases bind_eq_error.mp failed with failed | ⟨text, _, failed⟩
    · exact (single number error counts (by rwa [formatAll_singleton])).mono (by simp)
    rcases bind_eq_error.mp failed with failed | ⟨texts, _, failed⟩
    · exact (ih number error counts failed).mono (by simp)
    · cases failed
  | text content =>
    intro number error _ failed
    rw [formatAll_singleton, Node.format] at failed
    cases failed
  | argument slot =>
    intro number error _ failed
    rw [formatAll_singleton, Node.format] at failed
    exact .here (fails_argument failed)
  | dateTime slot kind style =>
    intro number error _ failed
    rw [formatAll_singleton, Node.format] at failed
    exact .here (fails_dateTime failed)
  | select slot clauses bodies =>
    intro number error _ failed
    rw [formatAll_singleton] at failed
    exact fails_select failed fun clause member =>
      bodies clause member none error (by simp)
  | plural slot kind offset clauses bodies =>
    intro number error _ failed
    rw [formatAll_singleton] at failed
    exact fails_plural failed fun clause member inner counts =>
      bodies clause member (some inner) error (by simpa using counts)
  | pound =>
    intro number error counts failed
    rw [formatAll_singleton, Node.format] at failed
    cases number with
    | none =>
      cases failed
      exact .here (.gap .poundNumber)
    | some inner =>
      -- A number that a plural leaves can be written.
      obtain ⟨text, written⟩ := (counts inner rfl).plain.render?
      have unwritten := (printValue_eq_error.mp failed).1
      simp [written] at unwritten

theorem Message.fails_of_format {message : Message} {error : FormatError}
    (failed : message.format context = .error error) :
    ∃ place, message.Live place ∧ place.Fails context error :=
  fails_of_formatAll message.nodes none error (by simp) failed

end

end MessagePattern

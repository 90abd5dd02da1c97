import MessagePattern.Proofs.Message.Live
import MessagePattern.Proofs.Message.Suggestion
import MessagePattern.Proofs.Program.Reading

set_option autoImplicit false

namespace MessagePattern

def FormatError.withoutSuggestions : FormatError -> FormatError
  | .unknownArgument name _ => .unknownArgument name []
  | error => error

def Message.AgreedOn (message : Message) (bindings other : Bindings) : Prop :=
  ∀ node ∈ message.occurring, ∀ slot, node.slot? = some slot ->
    other.get? slot.key = bindings.get? slot.key

section Formatting

variable {context : FormatContext} {other : Bindings} {view : FormatError -> FormatError}

-- Whether a slot resolves to the same in other bindings, where errors are only seen in some view.
def FormatContext.ResolvesAlike (context : FormatContext) (other : Bindings)
    (view : FormatError -> FormatError) (slot : Slot) : Prop :=
  (FormatContext.resolve { context with bindings := other } slot).mapError view =
    (context.resolve slot).mapError view

theorem print_alike {slot : Slot} (alike : context.ResolvesAlike other view slot) :
    (FormatContext.print { context with bindings := other } slot).mapError view =
      (context.print slot).mapError view :=
  mapError_bind_congr alike fun _ => rfl

theorem format_select_alike {slot : Slot} {clauses : List (Clause String Node)}
    {number : Option PoundNumber} (alike : context.ResolvesAlike other view slot)
    (bodies : ∀ clause ∈ clauses,
      (Node.formatAll { context with bindings := other } none clause.body).mapError view =
        (Node.formatAll context none clause.body).mapError view) :
    ((Node.select slot clauses).format { context with bindings := other } number).mapError view =
      ((Node.select slot clauses).format context number).mapError view := by
  rw [Node.format_select, Node.format_select]
  refine mapError_bind_congr (print_alike alike) fun key => ?_
  cases chosen : clauses.find? (·.selector == key) <|>
      clauses.find? (·.selector == otherKeyword) with
  | none => rfl
  | some clause => exact bodies clause (mem_of_mem_liveClauses (mem_liveClauses_of_chosen chosen))

theorem format_plural_alike {slot : Slot} {kind : PluralKind} {offset : Int}
    {clauses : List (Clause Selector Node)} {number : Option PoundNumber}
    (alike : context.ResolvesAlike other view slot)
    (bodies : ∀ clause ∈ clauses, ∀ inner,
      (Node.formatAll { context with bindings := other } (some inner) clause.body).mapError view =
        (Node.formatAll context (some inner) clause.body).mapError view) :
    ((Node.plural slot kind offset clauses).format { context with bindings := other }
        number).mapError view =
      ((Node.plural slot kind offset clauses).format context number).mapError view := by
  rw [Node.format_plural, Node.format_plural]
  refine mapError_bind_congr alike fun value => ?_
  refine mapError_bind_congr rfl fun reduced => ?_
  cases exact : clauses.find? (Selector.names value ·.selector) with
  | some clause => exact bodies clause (List.mem_of_find?_eq_some exact) _
  | none =>
    refine mapError_bind_congr rfl fun category => ?_
    cases chosen : clauses.find? (·.selector == .keyword category.keyword) <|>
        clauses.find? (·.selector == .keyword otherKeyword) with
    | none => rfl
    | some clause =>
      exact bodies clause (mem_of_mem_liveClauses (mem_liveClauses_of_chosen chosen)) _

theorem formatAll_alike (nodes : List Node) :
    ∀ number : Option PoundNumber,
      (∀ node ∈ Node.occurringAll nodes, ∀ slot, node.slot? = some slot ->
        context.ResolvesAlike other view slot) ->
      (Node.formatAll { context with bindings := other } number nodes).mapError view =
        (Node.formatAll context number nodes).mapError view := by
  induction nodes using Node.induction_single with
  | nil => exact fun _ _ => rfl
  | cons node rest single ih =>
    intro number alike
    obtain ⟨here, inRest⟩ := Node.forall_occurringAll_cons.mp alike
    have sameHere := single number (by simpa using here)
    rw [formatAll_singleton, formatAll_singleton] at sameHere
    rw [Node.formatAll, Node.formatAll]
    refine mapError_bind_congr sameHere fun text => ?_
    exact mapError_bind_congr (ih number inRest) fun texts => rfl
  | text content => exact fun _ _ => rfl
  | pound => exact fun _ _ => rfl
  | argument slot =>
    intro number alike
    rw [formatAll_singleton, formatAll_singleton, Node.format, Node.format]
    exact print_alike (alike (.argument slot) (by simp) slot rfl)
  | dateTime slot kind style =>
    intro number alike
    rw [formatAll_singleton, formatAll_singleton, Node.format, Node.format]
    exact mapError_bind_congr (alike (.dateTime slot kind style) (by simp) slot rfl) fun _ => rfl
  | select slot clauses bodies =>
    intro number alike
    rw [formatAll_singleton, formatAll_singleton]
    obtain ⟨self, inClauses⟩ :=
      Node.forall_occurring_select.mp (Node.forall_occurringAll_cons.mp alike).1
    exact format_select_alike (self slot rfl) fun clause member =>
      bodies clause member none (inClauses clause member)
  | plural slot kind offset clauses bodies =>
    intro number alike
    rw [formatAll_singleton, formatAll_singleton]
    obtain ⟨self, inClauses⟩ :=
      Node.forall_occurring_plural.mp (Node.forall_occurringAll_cons.mp alike).1
    exact format_plural_alike (self slot rfl) fun clause member inner =>
      bodies clause member (some inner) (inClauses clause member)

theorem resolvesAlike_of_agreed {slot : Slot}
    (agreed : other.get? slot.key = context.bindings.get? slot.key) :
    context.ResolvesAlike other FormatError.withoutSuggestions slot := by
  simp only [FormatContext.ResolvesAlike, FormatContext.resolve, agreed]
  cases context.bindings.get? slot.key <;> rfl

theorem Bindings.names_perm {first second : Bindings}
    (same : ∀ name, first.get? name = second.get? name) : first.names.Perm second.names := by
  refine (List.perm_ext_iff_of_nodup first.distinct second.distinct).mpr fun name => ?_
  change name ∈ first.names ↔ name ∈ second.names
  rw [Bindings.mem_names_iff, Bindings.mem_names_iff, same]

theorem resolvesAlike_of_same (same : ∀ name, other.get? name = context.bindings.get? name)
    (slot : Slot) : context.ResolvesAlike other id slot := by
  simp only [FormatContext.ResolvesAlike, FormatContext.resolve, same,
    suggestions_perm slot.key (Bindings.names_perm same)]

end Formatting

/-- What a message is formatted to, or its program writes, depends only on the bindings of the
arguments that occur in it, but for the suggestions in an error. These depend on no order of the
bindings. -/
theorem Message.result_of_agreed {message : Message} {context : FormatContext} {other : Bindings}
    (agreed : message.AgreedOn context.bindings other) :
    (message.format { context with bindings := other }).mapError FormatError.withoutSuggestions =
      (message.format context).mapError FormatError.withoutSuggestions ∧
    (∀ locale program, message.compile locale = .ok program -> ∀ escape,
      program.execute { context.host with bindings := other, escape } =
        program.execute { context.host with escape }) ∧
    ((∀ name, other.get? name = context.bindings.get? name) ->
      message.format { context with bindings := other } = message.format context) := by
  refine ⟨?formatted, ?executed, ?reordered⟩
  case formatted =>
    refine formatAll_alike message.nodes none fun node occurs slot reads => ?_
    exact resolvesAlike_of_agreed (agreed node occurs slot reads)
  case executed =>
    intro locale program compiled escape
    exact @Message.execute_congr { context.host with escape } other locale message program compiled
      fun node occurs => readsSame_of_agreed (agreed node occurs)
  case reordered =>
    intro same
    have alike := formatAll_alike message.nodes none fun _ _ slot _ =>
      resolvesAlike_of_same same slot
    rwa [mapError_id, mapError_id] at alike

def namelessGuests (names : List String) : FormatContext :=
  guestContext (("count", guestCount 0) :: names.map fun name => (name, .text "Ada"))

theorem namelessGuests_agreed : guestMessage.AgreedOn
    (namelessGuests ["least", "lost"]).bindings (namelessGuests ["past"]).bindings := by
  simp [guestMessage, Message.AgreedOn, Message.occurring, Node.slot?, Slot.key, namelessGuests,
    guestContext, Bindings.ofList, Bindings.get?_insert]

theorem namelessGuests_same (name : String) :
    (namelessGuests ["lost", "least"]).bindings.get? name =
      (namelessGuests ["least", "lost"]).bindings.get? name := by
  simp only [namelessGuests, guestContext, Bindings.ofList, List.map_cons, List.map_nil,
    List.foldl_cons, List.foldl_nil, Bindings.get?_insert]
  grind

theorem Message.result_of_agreed_nameless :
    ∃ program, guestMessage.compile Locale.english = .ok program ∧
      guestMessage.format (namelessGuests ["least", "lost"]) =
        .error (.unknownArgument "last" ["least", "lost"]) ∧
      (guestMessage.format (namelessGuests ["past"])).mapError FormatError.withoutSuggestions =
        .error (.unknownArgument "last" []) ∧
      guestMessage.format (namelessGuests ["lost", "least"]) =
        .error (.unknownArgument "last" ["least", "lost"]) ∧
      ∀ escape, program.execute { (namelessGuests ["past"]).host with escape } =
        program.execute { (namelessGuests ["least", "lost"]).host with escape } := by
  obtain ⟨program, compiled⟩ :
      ∃ program, guestMessage.compile Locale.english = .ok program := ⟨_, rfl⟩
  have suggested : suggestions "last" ["lost", "least", "count"] = ["least", "lost"] :=
    @suggestions_of_sorted _ _ [⟨1, "least"⟩, ⟨1, "lost"⟩] (by decide +kernel) (by decide +kernel)
  have formatted : guestMessage.format (namelessGuests ["least", "lost"]) =
      .error (.unknownArgument "last" ["least", "lost"]) := by
    have asked : guestMessage.format (namelessGuests ["least", "lost"]) =
        .error (.unknownArgument "last" (suggestions "last" ["lost", "least", "count"])) := rfl
    rw [asked, suggested]
  obtain ⟨unlikely, executed, -⟩ := Message.result_of_agreed namelessGuests_agreed
  have agreed : guestMessage.AgreedOn (namelessGuests ["least", "lost"]).bindings
      (namelessGuests ["lost", "least"]).bindings :=
    fun _ _ slot _ => namelessGuests_same slot.key
  have reordered := (Message.result_of_agreed agreed).2.2 namelessGuests_same
  refine ⟨program, compiled, formatted, ?_, reordered.trans formatted, ?_⟩
  · exact unlikely.trans (by rw [formatted]; rfl)
  · exact executed Locale.english program compiled

end MessagePattern

import MessagePattern.Proofs.Message.Gaps
import MessagePattern.Proofs.Program.Branches

set_option autoImplicit false

namespace MessagePattern

theorem compileSelect_error {tag : String} {slot : Slot} {clauses : List (Clause String Node)}
    {error : CompileError} (failed : compileSelect tag slot clauses = .error error) :
    ∃ clause ∈ clauses, (clause.selector == otherKeyword) = false ∧
      Node.compileAll tag none clause.body = .error error := by
  induction clauses with
  | nil => cases failed
  | cons clause rest ih =>
    rw [compileSelect] at failed
    split at failed
    next => exact List.exists_mem_cons_of_exists (ih failed)
    next named =>
      rcases bind_eq_error.mp failed with inBody | ⟨body, _, failed⟩
      · exact ⟨clause, by simp, by simpa using named, inBody⟩
      rcases bind_eq_error.mp failed with inRest | ⟨branches, _, failed⟩
      · exact List.exists_mem_cons_of_exists (ih inRest)
      · cases failed

theorem compilePlural_error {tag : String} {pound : PoundField} {condition : Selector -> Call}
    {accepts : Selector -> Bool} {clauses : List (Clause Selector Node)} {error : CompileError}
    (failed : compilePlural tag pound condition accepts clauses = .error error) :
    ∃ clause ∈ clauses, accepts clause.selector = true ∧
      Node.compileAll tag (some pound) clause.body = .error error := by
  induction clauses with
  | nil => cases failed
  | cons clause rest ih =>
    rw [compilePlural] at failed
    split at failed
    next accepted =>
      rcases bind_eq_error.mp failed with inBody | ⟨body, _, failed⟩
      · exact ⟨clause, by simp, accepted, inBody⟩
      rcases bind_eq_error.mp failed with inRest | ⟨branches, _, failed⟩
      · exact List.exists_mem_cons_of_exists (ih inRest)
      · cases failed
    next => exact List.exists_mem_cons_of_exists (ih failed)

def Place.CompileFails (place : Place) (error : CompileError) : Prop :=
  ∃ gap, place.Lacks gap ∧ error = gap.compileError

variable {tag : String}

theorem compileFails_select {inPlural : Bool} {slot : Slot} {clauses : List (Clause String Node)}
    {pound : Option PoundField} {error : CompileError}
    (failed : (Node.select slot clauses).compile tag pound = .error error)
    (bodies : ∀ clause ∈ clauses, Node.compileAll tag none clause.body = .error error ->
      LiveWith (·.CompileFails error) false clause.body) :
    LiveWith (·.CompileFails error) inPlural [.select slot clauses] := by
  rw [Node.compile, compileSelectOther_eq] at failed
  cases found : clauses.find? (·.selector == otherKeyword) with
  | none =>
    simp only [found, Option.map_none] at failed
    cases failed
    exact .here ⟨_, .selectOther found, rfl⟩
  | some other =>
    simp only [found, Option.map_some] at failed
    rcases bind_eq_error.mp failed with inBranches | ⟨branches, _, failed⟩
    · obtain ⟨clause, member, named, inBody⟩ := compileSelect_error inBranches
      exact .select (mem_liveClauses.mpr (.inl ⟨member, named⟩)) (bodies clause member inBody)
    rcases bind_eq_error.mp failed with inOther | ⟨fallback, _, failed⟩
    · exact .select (mem_liveClauses.mpr (.inr found))
        (bodies other (List.mem_of_find?_eq_some found) inOther)
    · cases failed

theorem compileFails_plural {inPlural : Bool} {slot : Slot} {kind : PluralKind} {offset : Int}
    {clauses : List (Clause Selector Node)} {pound : Option PoundField} {error : CompileError}
    (failed : (Node.plural slot kind offset clauses).compile tag pound = .error error)
    (bodies : ∀ clause ∈ clauses, ∀ inner : PoundField,
      Node.compileAll tag (some inner) clause.body = .error error ->
        LiveWith (·.CompileFails error) true clause.body) :
    LiveWith (·.CompileFails error) inPlural [.plural slot kind offset clauses] := by
  -- Neither an exact selector nor a keyword that has a branch of its own is `other`.
  have inBranch {accepts : Selector -> Bool} {condition : Selector -> Call} {inner : PoundField}
      (named : accepts (.keyword otherKeyword) = false)
      (inBranches : compilePlural tag inner condition accepts clauses = .error error) :
      LiveWith (·.CompileFails error) inPlural [.plural slot kind offset clauses] := by
    obtain ⟨clause, member, accepted, inBody⟩ := compilePlural_error inBranches
    have notOther : (clause.selector == .keyword otherKeyword) = false := by
      rw [beq_eq_false_iff_ne]
      intro isOther
      simp [isOther, named] at accepted
    exact .plural (mem_liveClauses.mpr (.inl ⟨member, notOther⟩)) (bodies clause member _ inBody)
  rw [Node.compile, compilePluralOther_eq] at failed
  cases found : clauses.find? (·.selector == .keyword otherKeyword) with
  | none =>
    simp only [found, Option.map_none] at failed
    cases failed
    exact .here ⟨_, .pluralOther found, rfl⟩
  | some other =>
    simp only [found, Option.map_some] at failed
    rcases bind_eq_error.mp failed with inExact | ⟨exact, _, failed⟩
    · exact inBranch rfl inExact
    rcases bind_eq_error.mp failed with inNamed | ⟨named, _, failed⟩
    · exact inBranch rfl inNamed
    rcases bind_eq_error.mp failed with inOther | ⟨fallback, _, failed⟩
    · exact .plural (mem_liveClauses.mpr (.inr found))
        (bodies other (List.mem_of_find?_eq_some found) _ inOther)
    · cases failed

theorem compileFails_of_compileAll (nodes : List Node) :
    ∀ (pound : Option PoundField) (error : CompileError),
      Node.compileAll tag pound nodes = .error error ->
        LiveWith (·.CompileFails error) pound.isSome nodes := by
  induction nodes using Node.induction_single with
  | nil =>
    intro pound error failed
    cases failed
  | cons node rest single ih =>
    intro pound error failed
    rw [Node.compileAll] at failed
    rcases bind_eq_error.mp failed with failed | ⟨front, _, failed⟩
    · exact (single pound error (by rwa [compileAll_singleton])).mono (by simp)
    rcases bind_eq_error.mp failed with failed | ⟨back, _, failed⟩
    · exact (ih pound error failed).mono (by simp)
    · cases failed
  | text content =>
    intro pound error failed
    rw [compileAll_singleton] at failed
    cases failed
  | argument slot =>
    intro pound error failed
    rw [compileAll_singleton] at failed
    cases failed
  | dateTime slot kind style =>
    intro pound error failed
    rw [compileAll_singleton] at failed
    cases failed
  | select slot clauses bodies =>
    intro pound error failed
    rw [compileAll_singleton] at failed
    exact compileFails_select failed fun clause member => bodies clause member none error
  | plural slot kind offset clauses bodies =>
    intro pound error failed
    rw [compileAll_singleton] at failed
    exact compileFails_plural failed fun clause member inner =>
      bodies clause member (some inner) error
  | pound =>
    intro pound error failed
    rw [compileAll_singleton] at failed
    cases pound with
    | none =>
      cases failed
      exact .here ⟨_, .poundNumber, rfl⟩
    | some field => cases failed

theorem compile_of_mem {pound : Option PoundField} {nodes : List Node} {node : Node}
    {instructions : List Instruction}
    (compiled : Node.compileAll tag pound nodes = .ok instructions) (member : node ∈ nodes) :
    ∃ front, node.compile tag pound = .ok front := by
  induction nodes generalizing instructions with
  | nil => cases member
  | cons first rest ih =>
    obtain ⟨front, back, frontCompiled, backCompiled, -⟩ := compileAll_cons_ok compiled
    rcases List.mem_cons.mp member with rfl | later
    · exact ⟨front, frontCompiled⟩
    · exact ih backCompiled later

theorem compileAll_of_liveSelect {pound : Option PoundField} {slot : Slot}
    {clauses : List (Clause String Node)} {clause : Clause String Node}
    {instructions : List Instruction}
    (compiled : (Node.select slot clauses).compile tag pound = .ok instructions)
    (live : clause ∈ liveClauses (· == otherKeyword) clauses) :
    ∃ body, Node.compileAll tag none clause.body = .ok body := by
  obtain ⟨other, fallback, branches, found, fallbackCompiled, pairs, _⟩ :=
    Node.compile_select_ok compiled
  rcases mem_liveClauses.mp live with ⟨member, named⟩ | isOther
  · have kept : clause ∈ clauses.filter (·.selector != otherKeyword) :=
      List.mem_filter.mpr ⟨member, by simpa using named⟩
    obtain ⟨branch, _, of⟩ := exists_of_mem_left pairs kept
    exact ⟨branch.body, of.body⟩
  · obtain rfl : other = clause := Option.some.inj (found.symm.trans isOther)
    exact ⟨fallback, fallbackCompiled⟩

theorem compileAll_of_livePlural {pound : Option PoundField} {slot : Slot} {kind : PluralKind}
    {offset : Int} {clauses : List (Clause Selector Node)} {clause : Clause Selector Node}
    {instructions : List Instruction}
    (compiled : (Node.plural slot kind offset clauses).compile tag pound = .ok instructions)
    (live : clause ∈ liveClauses (· == .keyword otherKeyword) clauses) :
    ∃ body, Node.compileAll tag (some { field := slot.key, offset }) clause.body = .ok body := by
  obtain ⟨other, fallback, exact, named, found, fallbackCompiled, exactPairs, namedPairs, _⟩ :=
    Node.compile_plural_ok compiled
  rcases mem_liveClauses.mp live with ⟨member, notOther⟩ | isOther
  · cases selected : clause.selector with
    | exactly number =>
      have kept : clause ∈ clauses.filter (·.selector.number?.isSome) :=
        List.mem_filter.mpr ⟨member, by simp [selected, Selector.number?]⟩
      obtain ⟨branch, _, of⟩ := exists_of_mem_left exactPairs kept
      exact ⟨branch.body, of.body⟩
    | keyword word =>
      have kept : clause ∈ clauses.filter (·.selector.keyword?.any (· != otherKeyword)) :=
        List.mem_filter.mpr ⟨member, by simpa [selected, Selector.keyword?] using notOther⟩
      obtain ⟨branch, _, of⟩ := exists_of_mem_left namedPairs kept
      exact ⟨branch.body, of.body⟩
  · obtain rfl : other = clause := Option.some.inj (found.symm.trans isOther)
    exact ⟨fallback, fallbackCompiled⟩

theorem complete_of_compile {pound : Option PoundField} {node : Node}
    {instructions : List Instruction} (compiled : node.compile tag pound = .ok instructions) :
    Place.Complete ⟨pound.isSome, node⟩ := by
  cases node with
  | select slot clauses =>
    obtain ⟨other, _, _, found, _⟩ := Node.compile_select_ok compiled
    exact ⟨other, List.mem_of_find?_eq_some found, by simpa using List.find?_some found⟩
  | plural slot kind offset clauses =>
    obtain ⟨other, _, _, _, found, _⟩ := Node.compile_plural_ok compiled
    exact ⟨other, List.mem_of_find?_eq_some found, by simpa using List.find?_some found⟩
  | pound =>
    cases pound with
    | none => cases compiled
    | some field => rfl
  | _ => trivial

theorem Live.complete {inPlural : Bool} {nodes : List Node} {place : Place}
    (live : Live inPlural nodes place) :
    ∀ {pound : Option PoundField} {instructions : List Instruction}, pound.isSome = inPlural ->
      Node.compileAll tag pound nodes = .ok instructions -> place.Complete := by
  induction live with
  | here member =>
    rintro pound instructions rfl compiled
    obtain ⟨front, frontCompiled⟩ := compile_of_mem compiled member
    exact complete_of_compile frontCompiled
  | select member live _ ih =>
    rintro pound instructions rfl compiled
    obtain ⟨front, frontCompiled⟩ := compile_of_mem compiled member
    obtain ⟨body, bodyCompiled⟩ := compileAll_of_liveSelect frontCompiled live
    exact ih rfl bodyCompiled
  | plural member live _ ih =>
    rintro pound instructions rfl compiled
    obtain ⟨front, frontCompiled⟩ := compile_of_mem compiled member
    obtain ⟨body, bodyCompiled⟩ := compileAll_of_livePlural frontCompiled live
    exact ih rfl bodyCompiled

section

variable {locale : Locale} {message : Message}

theorem Message.compileFails_of_compile {error : CompileError}
    (failed : message.compile locale = .error error) :
    ∃ place, message.Live place ∧ place.CompileFails error := by
  rcases bind_eq_error.mp failed with failed | ⟨instructions, _, failed⟩
  · exact compileFails_of_compileAll message.nodes none error failed
  · cases failed

theorem Message.complete_of_compile {program : Program}
    (compiled : message.compile locale = .ok program) {place : Place} (live : message.Live place) :
    place.Complete :=
  Live.complete live rfl (Message.compileAll_of_compile compiled)

end

end MessagePattern

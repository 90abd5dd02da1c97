import MessagePattern.Proofs.Message.Occurrence
import MessagePattern.Proofs.Program.Branches
import MessagePattern.Proofs.Program.Instructions

set_option autoImplicit false

namespace MessagePattern

-- The instructions that may be emitted for some nodes. Nothing is said of the bodies of branches.
inductive Instruction.From (tag : String) (nodes : List Node) : Instruction -> Prop
  | text (content : String) : From tag nodes (.text content)
  | field {slot : Slot} (occurs : .argument slot ∈ nodes) : From tag nodes (.field slot.key)
  | dateTime {slot : Slot} {kind : DateTimeKind} {style : DateTimeStyle}
      (occurs : .dateTime slot kind style ∈ nodes) :
      From tag nodes (.call (dateTimeCall tag slot kind style))
  | pound {slot : Slot} {kind : PluralKind} {offset : Int} {clauses : List (Clause Selector Node)}
      (occurs : .plural slot kind offset clauses ∈ nodes) :
      From tag nodes (.call (PoundField.call { field := slot.key, offset }))
  | select {slot : Slot} {clauses : List (Clause String Node)} {clause : Clause String Node}
      {consequence alternative : List Instruction} (occurs : .select slot clauses ∈ nodes)
      (member : clause ∈ clauses) :
      From tag nodes (.ifElse (selectCall slot clause.selector) consequence alternative)
  | plural {slot : Slot} {kind : PluralKind} {offset : Int} {clauses : List (Clause Selector Node)}
      {clause : Clause Selector Node} {consequence alternative : List Instruction}
      (occurs : .plural slot kind offset clauses ∈ nodes) (member : clause ∈ clauses) :
      From tag nodes
        (.ifElse (pluralCall tag slot kind offset clause.selector) consequence alternative)

def PoundField.From (nodes : List Node) (pound : PoundField) : Prop :=
  ∃ slot kind offset clauses, Node.plural slot kind offset clauses ∈ nodes ∧
    pound = { field := slot.key, offset }

section

variable {holds : Instruction -> Prop}

theorem everywhere_chain {branches : List Branch} {fallback : List Instruction}
    (tests : ∀ branch ∈ branches, ∀ alternative,
      holds (.ifElse branch.condition branch.body alternative))
    (bodies : ∀ branch ∈ branches, Everywhere holds branch.body)
    (last : Everywhere holds fallback) : Everywhere holds (chain branches fallback) := by
  induction branches with
  | nil => exact last
  | cons branch rest ih =>
    obtain ⟨test, otherTests⟩ := List.forall_mem_cons.mp tests
    obtain ⟨body, otherBodies⟩ := List.forall_mem_cons.mp bodies
    exact everywhere_ifElse.mpr ⟨test _, body, ih otherTests otherBodies⟩

theorem everywhere_branches {σ : Type} {tag : String} {pound : Option PoundField}
    {condition : σ -> Call} {clauses : List (Clause σ Node)} {branches : List Branch}
    {fallback : List Instruction}
    (pairs : List.Forall₂ (Branch.Of tag pound condition) clauses branches)
    (tests : ∀ clause ∈ clauses, ∀ consequence alternative,
      holds (.ifElse (condition clause.selector) consequence alternative))
    (bodies : ∀ clause ∈ clauses, ∀ body, Node.compileAll tag pound clause.body = .ok body ->
      Everywhere holds body)
    (last : Everywhere holds fallback) : Everywhere holds (chain branches fallback) := by
  refine everywhere_chain ?_ ?_ last
  · intro branch member alternative
    obtain ⟨clause, isClause, of⟩ := exists_of_mem_right pairs member
    rw [of.condition]
    exact tests clause isClause _ _
  · intro branch member
    obtain ⟨clause, isClause, of⟩ := exists_of_mem_right pairs member
    exact bodies clause isClause _ of.body

end

variable {tag : String} {all : List Node}

theorem from_of_select {slot : Slot} {clauses : List (Clause String Node)}
    {pound : Option PoundField} {instructions : List Instruction}
    (occurs : .select slot clauses ∈ all)
    (compiled : (Node.select slot clauses).compile tag pound = .ok instructions)
    (bodies : ∀ clause ∈ clauses, ∀ body, Node.compileAll tag none clause.body = .ok body ->
      Everywhere (·.From tag all) body) :
    Everywhere (·.From tag all) instructions := by
  obtain ⟨other, fallback, branches, found, fallbackCompiled, pairs, rfl⟩ :=
    Node.compile_select_ok compiled
  refine everywhere_branches pairs ?_ ?_ ?_
  · exact fun clause kept _ _ => .select occurs (List.mem_filter.mp kept).1
  · exact fun clause kept => bodies clause (List.mem_filter.mp kept).1
  · exact bodies other (List.mem_of_find?_eq_some found) fallback fallbackCompiled

theorem from_of_plural {slot : Slot} {kind : PluralKind} {offset : Int}
    {clauses : List (Clause Selector Node)} {pound : Option PoundField}
    {instructions : List Instruction} (occurs : .plural slot kind offset clauses ∈ all)
    (compiled : (Node.plural slot kind offset clauses).compile tag pound = .ok instructions)
    (bodies : ∀ clause ∈ clauses, ∀ body,
      Node.compileAll tag (some { field := slot.key, offset }) clause.body = .ok body ->
        Everywhere (·.From tag all) body) :
    Everywhere (·.From tag all) instructions := by
  obtain ⟨other, fallback, exact, named, found, fallbackCompiled, exactPairs, namedPairs, rfl⟩ :=
    Node.compile_plural_ok compiled
  rw [← chain_append]
  refine everywhere_branches (List.rel_append exactPairs namedPairs) ?_ ?_ ?_
  · intro clause kept _ _
    rcases List.mem_append.mp kept with kept | kept
    · exact .plural occurs (List.mem_filter.mp kept).1
    · exact .plural occurs (List.mem_filter.mp kept).1
  · intro clause kept
    rcases List.mem_append.mp kept with kept | kept
    · exact bodies clause (List.mem_filter.mp kept).1
    · exact bodies clause (List.mem_filter.mp kept).1
  · exact bodies other (List.mem_of_find?_eq_some found) fallback fallbackCompiled

theorem from_of_compileAll (nodes : List Node) :
    ∀ (pound : Option PoundField) (instructions : List Instruction),
      Node.occurringAll nodes ⊆ all -> (∀ field ∈ pound, field.From all) ->
      Node.compileAll tag pound nodes = .ok instructions ->
      Everywhere (·.From tag all) instructions := by
  induction nodes using Node.induction_single with
  | nil =>
    intro pound instructions _ _ compiled
    cases compiled
    exact everywhere_nil
  | cons node rest single ih =>
    intro pound instructions within of compiled
    rw [Node.occurringAll, List.append_subset] at within
    obtain ⟨front, back, frontCompiled, backCompiled, rfl⟩ := compileAll_cons_ok compiled
    refine everywhere_append.mpr ⟨?_, ih pound back within.2 of backCompiled⟩
    exact single pound front (by simpa [Node.occurringAll] using within.1) of
      (by rwa [compileAll_singleton])
  | text content =>
    intro pound instructions _ _ compiled
    cases compiled
    exact everywhere_text.mpr (.text content)
  | argument slot =>
    intro pound instructions within _ compiled
    cases compiled
    have occurs : Node.argument slot ∈ all := within (by simp [Node.occurringAll, Node.occurring])
    exact everywhere_field.mpr (.field occurs)
  | dateTime slot kind style =>
    intro pound instructions within _ compiled
    cases compiled
    have occurs : Node.dateTime slot kind style ∈ all :=
      within (by simp [Node.occurringAll, Node.occurring])
    exact everywhere_call.mpr (.dateTime occurs)
  | select slot clauses bodies =>
    intro pound instructions within _ compiled
    rw [compileAll_singleton] at compiled
    simp only [Node.occurringAll, Node.occurring, List.append_nil, List.cons_subset] at within
    refine from_of_select within.1 compiled fun clause member body bodyCompiled => ?_
    refine bodies clause member none body ?_ (by simp) bodyCompiled
    exact fun node inside => within.2 (mem_occurringSelect.mpr ⟨clause, member, inside⟩)
  | plural slot kind offset clauses bodies =>
    intro pound instructions within _ compiled
    rw [compileAll_singleton] at compiled
    simp only [Node.occurringAll, Node.occurring, List.append_nil, List.cons_subset] at within
    refine from_of_plural within.1 compiled fun clause member body bodyCompiled => ?_
    refine bodies clause member _ body ?_ ?_ bodyCompiled
    · exact fun node inside => within.2 (mem_occurringPlural.mpr ⟨clause, member, inside⟩)
    · rintro field ⟨⟩
      exact ⟨slot, kind, offset, clauses, within.1, rfl⟩
  | pound =>
    intro pound instructions _ of compiled
    rw [compileAll_singleton] at compiled
    cases pound with
    | none => cases compiled
    | some field =>
      cases compiled
      obtain ⟨slot, kind, offset, clauses, occurs, rfl⟩ := of field rfl
      exact everywhere_call.mpr (.pound occurs)

theorem Message.from_of_compile {locale : Locale} {message : Message} {program : Program}
    (compiled : message.compile locale = .ok program) :
    Everywhere (·.From locale.tag message.occurring) program.instructions :=
  from_of_compileAll message.nodes none program.instructions (List.Subset.refl _) (by simp)
    (Message.compileAll_of_compile compiled)

end MessagePattern

import Mathlib.Data.List.Forall2
import MessagePattern.Proofs.Program.Calls

set_option autoImplicit false

namespace MessagePattern

@[simp] theorem compileAll_singleton (tag : String) (pound : Option PoundField) (node : Node) :
    Node.compileAll tag pound [node] = node.compile tag pound := by
  cases compiled : node.compile tag pound <;> simp [Node.compileAll, compiled]

theorem compileAll_append (tag : String) (pound : Option PoundField) (first second : List Node) :
    Node.compileAll tag pound (first ++ second) = (do
      let front <- Node.compileAll tag pound first
      let back <- Node.compileAll tag pound second
      return front ++ back) := by
  induction first with
  | nil => cases compiled : Node.compileAll tag pound second <;> simp [Node.compileAll, compiled]
  | cons node rest ih =>
    simp only [List.cons_append, Node.compileAll, ih, bind_assoc, pure_bind]
    simp [List.append_assoc]

theorem compileAll_cons_ok {tag : String} {pound : Option PoundField} {node : Node}
    {rest : List Node} {instructions : List Instruction}
    (compiled : Node.compileAll tag pound (node :: rest) = .ok instructions) :
    ∃ front back, node.compile tag pound = .ok front ∧
      Node.compileAll tag pound rest = .ok back ∧ instructions = front ++ back := by
  simp only [Node.compileAll, bind_eq_ok, pure_eq_ok, Except.ok.injEq] at compiled
  obtain ⟨front, frontCompiled, back, backCompiled, rfl⟩ := compiled
  exact ⟨front, back, frontCompiled, backCompiled, rfl⟩

theorem Message.compileAll_of_compile {locale : Locale} {message : Message} {program : Program}
    (compiled : message.compile locale = .ok program) :
    Node.compileAll locale.tag none message.nodes = .ok program.instructions := by
  simp only [Message.compile, bind_eq_ok, pure_eq_ok, Except.ok.injEq] at compiled
  obtain ⟨instructions, nodesCompiled, rfl⟩ := compiled
  exact nodesCompiled

theorem compileSelectOther_eq (tag : String) (clauses : List (Clause String Node)) :
    compileSelectOther tag clauses =
      (clauses.find? (·.selector == otherKeyword)).map (Node.compileAll tag none ·.body) := by
  induction clauses with
  | nil => rfl
  | cons clause rest ih =>
    rw [compileSelectOther, List.find?_cons, ih]
    cases clause.selector == otherKeyword <;> rfl

theorem compilePluralOther_eq (tag : String) (pound : PoundField)
    (clauses : List (Clause Selector Node)) :
    compilePluralOther tag pound clauses =
      (clauses.find? (·.selector == .keyword otherKeyword)).map
        (Node.compileAll tag (some pound) ·.body) := by
  induction clauses with
  | nil => rfl
  | cons clause rest ih =>
    rw [compilePluralOther, List.find?_cons, ih]
    cases clause.selector == .keyword otherKeyword <;> rfl

structure Branch.Of {σ : Type} (tag : String) (pound : Option PoundField) (condition : σ -> Call)
    (clause : Clause σ Node) (branch : Branch) : Prop where
  condition : branch.condition = condition clause.selector
  body : Node.compileAll tag pound clause.body = .ok branch.body

theorem exists_of_mem_left {α β : Type} {related : α -> β -> Prop} {first : List α}
    {second : List β} (pairs : List.Forall₂ related first second) {item : α}
    (member : item ∈ first) : ∃ partner ∈ second, related item partner := by
  induction pairs with
  | nil => cases member
  | cons pair _ ih =>
    rcases List.mem_cons.mp member with rfl | later
    · exact ⟨_, List.mem_cons_self, pair⟩
    · exact List.exists_mem_cons_of_exists (ih later)

theorem exists_of_mem_right {α β : Type} {related : α -> β -> Prop} {first : List α}
    {second : List β} (pairs : List.Forall₂ related first second) {item : β}
    (member : item ∈ second) : ∃ partner ∈ first, related partner item :=
  exists_of_mem_left pairs.flip member

theorem compileSelect_ok {tag : String} {slot : Slot} {clauses : List (Clause String Node)}
    {branches : List Branch} (compiled : compileSelect tag slot clauses = .ok branches) :
    List.Forall₂ (Branch.Of tag none (selectCall slot))
      (clauses.filter (·.selector != otherKeyword)) branches := by
  induction clauses generalizing branches with
  | nil =>
    cases compiled
    exact .nil
  | cons clause rest ih =>
    rw [compileSelect] at compiled
    by_cases other : clause.selector = otherKeyword
    · simp only [other, BEq.rfl, if_true] at compiled
      simpa [other] using ih compiled
    · simp only [beq_false_of_ne other, Bool.false_eq_true, if_false, bind_eq_ok,
        pure_eq_ok, Except.ok.injEq] at compiled
      obtain ⟨body, bodyCompiled, more, restCompiled, rfl⟩ := compiled
      rw [List.filter_cons_of_pos (by simpa using other)]
      exact .cons ⟨rfl, bodyCompiled⟩ (ih restCompiled)

theorem compilePlural_ok {tag : String} {pound : PoundField} {condition : Selector -> Call}
    {accepts : Selector -> Bool} {clauses : List (Clause Selector Node)} {branches : List Branch}
    (compiled : compilePlural tag pound condition accepts clauses = .ok branches) :
    List.Forall₂ (Branch.Of tag (some pound) condition) (clauses.filter (accepts ·.selector))
      branches := by
  induction clauses generalizing branches with
  | nil =>
    cases compiled
    exact .nil
  | cons clause rest ih =>
    rw [compilePlural] at compiled
    cases taken : accepts clause.selector with
    | false =>
      simp only [taken, Bool.false_eq_true, if_false] at compiled
      simpa [taken] using ih compiled
    | true =>
      simp only [taken, if_true, bind_eq_ok, pure_eq_ok, Except.ok.injEq] at compiled
      obtain ⟨body, bodyCompiled, more, restCompiled, rfl⟩ := compiled
      rw [List.filter_cons_of_pos (by exact taken)]
      exact .cons ⟨rfl, bodyCompiled⟩ (ih restCompiled)

theorem chain_append (first second : List Branch) (fallback : List Instruction) :
    chain (first ++ second) fallback = chain first (chain second fallback) := by
  induction first with
  | nil => rfl
  | cons branch rest ih => simp [chain, ih]

theorem Node.compile_select_ok {tag : String} {pound : Option PoundField} {slot : Slot}
    {clauses : List (Clause String Node)} {instructions : List Instruction}
    (compiled : (Node.select slot clauses).compile tag pound = .ok instructions) :
    ∃ other fallback branches,
      clauses.find? (·.selector == otherKeyword) = some other ∧
      Node.compileAll tag none other.body = .ok fallback ∧
      List.Forall₂ (Branch.Of tag none (selectCall slot))
        (clauses.filter (·.selector != otherKeyword)) branches ∧
      instructions = chain branches fallback := by
  rw [Node.compile, compileSelectOther_eq] at compiled
  cases found : clauses.find? (·.selector == otherKeyword) with
  | none => simp [found] at compiled
  | some other =>
    simp only [found, Option.map_some, bind_eq_ok, pure_eq_ok, Except.ok.injEq] at compiled
    obtain ⟨branches, branchesCompiled, fallback, fallbackCompiled, rfl⟩ := compiled
    exact ⟨other, fallback, branches, rfl, fallbackCompiled, compileSelect_ok branchesCompiled, rfl⟩

theorem Node.compile_plural_ok {tag : String} {pound : Option PoundField} {slot : Slot}
    {kind : PluralKind} {offset : Int} {clauses : List (Clause Selector Node)}
    {instructions : List Instruction}
    (compiled : (Node.plural slot kind offset clauses).compile tag pound = .ok instructions) :
    ∃ other fallback exact named,
      clauses.find? (·.selector == .keyword otherKeyword) = some other ∧
      Node.compileAll tag (some { field := slot.key, offset }) other.body = .ok fallback ∧
      List.Forall₂
        (Branch.Of tag (some { field := slot.key, offset }) (pluralCall tag slot kind offset))
        (clauses.filter (·.selector.number?.isSome)) exact ∧
      List.Forall₂
        (Branch.Of tag (some { field := slot.key, offset }) (pluralCall tag slot kind offset))
        (clauses.filter (·.selector.keyword?.any (· != otherKeyword))) named ∧
      instructions = chain exact (chain named fallback) := by
  rw [Node.compile, compilePluralOther_eq] at compiled
  cases found : clauses.find? (·.selector == .keyword otherKeyword) with
  | none => simp [found] at compiled
  | some other =>
    simp only [found, Option.map_some, bind_eq_ok, pure_eq_ok, Except.ok.injEq] at compiled
    obtain ⟨exact, exactCompiled, named, namedCompiled, fallback, fallbackCompiled, rfl⟩ := compiled
    exact ⟨other, fallback, exact, named, rfl, fallbackCompiled, compilePlural_ok exactCompiled,
      compilePlural_ok namedCompiled, chain_append exact named fallback⟩

section Running

variable {σ : Type} {tag : String} {pound : Option PoundField} {condition : σ -> Call}
  {clauses : List (Clause σ Node)} {branches : List Branch} {host : Host}

theorem executeAll_chain (accepts : σ -> Bool)
    (pairs : List.Forall₂ (Branch.Of tag pound condition) clauses branches)
    (tests : ∀ clause ∈ clauses,
      host.callBool (condition clause.selector) = .ok (accepts clause.selector))
    (fallback : List Instruction) :
    match clauses.find? (accepts ·.selector) with
    | none =>
        Instruction.executeAll host (chain branches fallback) =
          Instruction.executeAll host fallback
    | some clause =>
        ∃ body, Node.compileAll tag pound clause.body = .ok body ∧
          Instruction.executeAll host (chain branches fallback) =
            Instruction.executeAll host body := by
  induction pairs with
  | nil => rfl
  | cons pair _ ih =>
    rename_i clause branch rest more _
    have here := tests clause (by simp)
    have later := ih fun other member => tests other (by simp [member])
    rw [List.find?_cons, chain, executeAll_singleton, Instruction.execute, pair.condition, here]
    cases accepts clause.selector with
    | true => exact ⟨branch.body, pair.body, rfl⟩
    | false => exact later

theorem executeAll_chain_error
    (pairs : List.Forall₂ (Branch.Of tag pound condition) clauses branches)
    (present : clauses ≠ []) {error : FormatError}
    (failed : ∀ clause ∈ clauses, host.callBool (condition clause.selector) = .error error)
    (fallback : List Instruction) :
    Instruction.executeAll host (chain branches fallback) = .error error := by
  cases pairs with
  | nil => exact absurd rfl present
  | cons pair _ =>
    rw [chain, executeAll_singleton, Instruction.execute, pair.condition, failed _ (by simp)]

end Running

end MessagePattern

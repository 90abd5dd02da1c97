import MessagePattern.Message

set_option autoImplicit false

namespace MessagePattern

theorem Node.induction {motive : List Node -> Prop}
    (nil : motive [])
    (text : ∀ content rest, motive rest -> motive (.text content :: rest))
    (argument : ∀ slot rest, motive rest -> motive (.argument slot :: rest))
    (dateTime : ∀ slot kind style rest, motive rest -> motive (.dateTime slot kind style :: rest))
    (select : ∀ slot clauses rest, (∀ clause ∈ clauses, motive clause.body) -> motive rest ->
      motive (.select slot clauses :: rest))
    (plural : ∀ slot kind offset clauses rest, (∀ clause ∈ clauses, motive clause.body) ->
      motive rest -> motive (.plural slot kind offset clauses :: rest))
    (pound : ∀ rest, motive rest -> motive (.pound :: rest)) (nodes : List Node) :
    motive nodes := by
  -- A node may stand in front of any sequence, a clause holds the motive of its body.
  refine @Node.rec_5 (fun node => ∀ rest, motive rest -> motive (node :: rest))
    (fun clauses => ∀ clause ∈ clauses, motive clause.body)
    (fun clauses => ∀ clause ∈ clauses, motive clause.body)
    (fun clause => motive clause.body) (fun clause => motive clause.body) motive
    text argument dateTime ?_ ?_ pound ?_ ?_ ?_ ?_ ?_ ?_ nil ?_ nodes
  all_goals simp_all

theorem Node.induction_single {motive : List Node -> Prop}
    (nil : motive [])
    (cons : ∀ node rest, motive [node] -> motive rest -> motive (node :: rest))
    (text : ∀ content, motive [.text content])
    (argument : ∀ slot, motive [.argument slot])
    (dateTime : ∀ slot kind style, motive [.dateTime slot kind style])
    (select : ∀ slot clauses, (∀ clause ∈ clauses, motive clause.body) ->
      motive [.select slot clauses])
    (plural : ∀ slot kind offset clauses, (∀ clause ∈ clauses, motive clause.body) ->
      motive [.plural slot kind offset clauses])
    (pound : motive [.pound]) (nodes : List Node) : motive nodes := by
  induction nodes using Node.induction with
  | nil => exact nil
  | text content rest ih => exact cons _ rest (text content) ih
  | argument slot rest ih => exact cons _ rest (argument slot) ih
  | dateTime slot kind style rest ih => exact cons _ rest (dateTime slot kind style) ih
  | select slot clauses rest bodies ih => exact cons _ rest (select slot clauses bodies) ih
  | plural slot kind offset clauses rest bodies ih =>
    exact cons _ rest (plural slot kind offset clauses bodies) ih
  | pound rest ih => exact cons _ rest pound ih

mutual

def Node.occurring : Node -> List Node
  | .text content => [.text content]
  | .argument slot => [.argument slot]
  | .dateTime slot kind style => [.dateTime slot kind style]
  | .select slot clauses => .select slot clauses :: occurringSelect clauses
  | .plural slot kind offset clauses =>
      .plural slot kind offset clauses :: occurringPlural clauses
  | .pound => [.pound]

def Node.occurringAll : List Node -> List Node
  | [] => []
  | node :: rest => node.occurring ++ Node.occurringAll rest

def occurringSelect : List (Clause String Node) -> List Node
  | [] => []
  | ⟨_, body⟩ :: rest => Node.occurringAll body ++ occurringSelect rest

def occurringPlural : List (Clause Selector Node) -> List Node
  | [] => []
  | ⟨_, body⟩ :: rest => Node.occurringAll body ++ occurringPlural rest

end

attribute [simp] Node.occurring Node.occurringAll occurringSelect occurringPlural

def Message.occurring (message : Message) : List Node :=
  Node.occurringAll message.nodes

def Node.slot? : Node -> Option Slot
  | .argument slot | .dateTime slot _ _ | .select slot _ | .plural slot _ _ _ => some slot
  | .text _ | .pound => none

theorem Node.mem_occurring_self (node : Node) : node ∈ node.occurring := by
  cases node <;> simp [Node.occurring]

theorem mem_occurringSelect {node : Node} {clauses : List (Clause String Node)} :
    node ∈ occurringSelect clauses ↔ ∃ clause ∈ clauses, node ∈ Node.occurringAll clause.body := by
  induction clauses with
  | nil => simp [occurringSelect]
  | cons clause rest ih => simp [occurringSelect, ih]

theorem mem_occurringPlural {node : Node} {clauses : List (Clause Selector Node)} :
    node ∈ occurringPlural clauses ↔ ∃ clause ∈ clauses, node ∈ Node.occurringAll clause.body := by
  induction clauses with
  | nil => simp [occurringPlural]
  | cons clause rest ih => simp [occurringPlural, ih]

theorem mem_occurringAll {node : Node} {nodes : List Node} :
    node ∈ Node.occurringAll nodes ↔ ∃ top ∈ nodes, node ∈ top.occurring := by
  induction nodes with
  | nil => simp [Node.occurringAll]
  | cons first rest ih => simp [Node.occurringAll, ih]

section Everywhere

variable {holds : Node -> Prop}

theorem Node.forall_occurringAll_cons {first : Node} {rest : List Node} :
    (∀ node ∈ Node.occurringAll (first :: rest), holds node) ↔
      (∀ node ∈ first.occurring, holds node) ∧ ∀ node ∈ Node.occurringAll rest, holds node := by
  simp only [Node.occurringAll, List.forall_mem_append]

theorem Node.forall_occurringAll_middle {front rest : List Node} {middle : Node} :
    (∀ node ∈ Node.occurringAll (front ++ middle :: rest), holds node) ↔
      (∀ node ∈ Node.occurringAll front, holds node) ∧
        (∀ node ∈ middle.occurring, holds node) ∧ ∀ node ∈ Node.occurringAll rest, holds node := by
  induction front with
  | nil =>
    simp only [List.nil_append, Node.occurringAll, List.forall_mem_append, List.not_mem_nil,
      false_implies, implies_true, true_and]
  | cons first front ih =>
    rw [List.cons_append, Node.forall_occurringAll_cons, ih, Node.forall_occurringAll_cons, and_assoc]

theorem Node.forall_occurring_select {slot : Slot} {clauses : List (Clause String Node)} :
    (∀ node ∈ (Node.select slot clauses).occurring, holds node) ↔
      holds (.select slot clauses) ∧
        ∀ clause ∈ clauses, ∀ node ∈ Node.occurringAll clause.body, holds node := by
  simp only [Node.occurring, List.forall_mem_cons, mem_occurringSelect]
  constructor
  · rintro ⟨here, inside⟩
    exact ⟨here, fun clause member node found => inside node ⟨clause, member, found⟩⟩
  · rintro ⟨here, inside⟩
    exact ⟨here, fun node ⟨clause, member, found⟩ => inside clause member node found⟩

theorem Node.forall_occurring_plural {slot : Slot} {kind : PluralKind} {offset : Int}
    {clauses : List (Clause Selector Node)} :
    (∀ node ∈ (Node.plural slot kind offset clauses).occurring, holds node) ↔
      holds (.plural slot kind offset clauses) ∧
        ∀ clause ∈ clauses, ∀ node ∈ Node.occurringAll clause.body, holds node := by
  simp only [Node.occurring, List.forall_mem_cons, mem_occurringPlural]
  constructor
  · rintro ⟨here, inside⟩
    exact ⟨here, fun clause member node found => inside node ⟨clause, member, found⟩⟩
  · rintro ⟨here, inside⟩
    exact ⟨here, fun node ⟨clause, member, found⟩ => inside clause member node found⟩

end Everywhere

end MessagePattern

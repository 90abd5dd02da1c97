import MessagePattern.Proofs.Message.Occurrence

set_option autoImplicit false

namespace MessagePattern

-- The clauses of a choice that it can take: of those named `other` only the first.
def liveClauses {σ : Type} (isOther : σ -> Bool) (clauses : List (Clause σ Node)) :
    List (Clause σ Node) :=
  clauses.filter (!isOther ·.selector) ++ (clauses.find? (isOther ·.selector)).toList

structure Place where
  inPlural : Bool
  node : Node

inductive Live : Bool -> List Node -> Place -> Prop
  | here {inPlural : Bool} {nodes : List Node} {node : Node} (member : node ∈ nodes) :
      Live inPlural nodes ⟨inPlural, node⟩
  | select {inPlural : Bool} {nodes : List Node} {slot : Slot}
      {clauses : List (Clause String Node)} {clause : Clause String Node} {place : Place}
      (member : .select slot clauses ∈ nodes) (live : clause ∈ liveClauses (· == otherKeyword) clauses)
      (inside : Live false clause.body place) : Live inPlural nodes place
  | plural {inPlural : Bool} {nodes : List Node} {slot : Slot} {kind : PluralKind} {offset : Int}
      {clauses : List (Clause Selector Node)} {clause : Clause Selector Node} {place : Place}
      (member : .plural slot kind offset clauses ∈ nodes)
      (live : clause ∈ liveClauses (· == .keyword otherKeyword) clauses)
      (inside : Live true clause.body place) : Live inPlural nodes place

def Message.Live (message : Message) (place : Place) : Prop :=
  MessagePattern.Live false message.nodes place

def LiveWith (holds : Place -> Prop) (inPlural : Bool) (nodes : List Node) : Prop :=
  ∃ place, Live inPlural nodes place ∧ holds place

section Clauses

variable {σ : Type} {isOther : σ -> Bool} {clauses : List (Clause σ Node)} {clause : Clause σ Node}

theorem mem_liveClauses :
    clause ∈ liveClauses isOther clauses ↔
      clause ∈ clauses ∧ isOther clause.selector = false ∨
        clauses.find? (isOther ·.selector) = some clause := by
  simp [liveClauses]

theorem mem_of_mem_liveClauses (live : clause ∈ liveClauses isOther clauses) :
    clause ∈ clauses := by
  rcases mem_liveClauses.mp live with ⟨member, _⟩ | found
  · exact member
  · exact List.mem_of_find?_eq_some found

theorem mem_liveClauses_of_chosen [BEq σ] [LawfulBEq σ] {key other : σ}
    (chosen : (clauses.find? (·.selector == key) <|> clauses.find? (·.selector == other)) =
      some clause) : clause ∈ liveClauses (· == other) clauses := by
  rw [mem_liveClauses]
  cases found : clauses.find? (·.selector == key) with
  | none =>
    rw [found] at chosen
    exact .inr chosen
  | some first =>
    rw [found] at chosen
    obtain rfl := Option.some.inj chosen
    have named : first.selector = key := by simpa using List.find?_some found
    by_cases isOther : key = other
    · exact .inr (isOther ▸ found)
    · exact .inl ⟨List.mem_of_find?_eq_some found, by simpa [named] using isOther⟩

end Clauses

namespace LiveWith

variable {holds : Place -> Prop} {inPlural : Bool}

theorem here {node : Node} (holdsHere : holds ⟨inPlural, node⟩) :
    LiveWith holds inPlural [node] :=
  ⟨_, .here (List.mem_singleton.mpr rfl), holdsHere⟩

theorem select {slot : Slot} {clauses : List (Clause String Node)} {clause : Clause String Node}
    (live : clause ∈ liveClauses (· == otherKeyword) clauses)
    (inBody : LiveWith holds false clause.body) :
    LiveWith holds inPlural [.select slot clauses] := by
  obtain ⟨place, inside, holdsThere⟩ := inBody
  exact ⟨place, .select (List.mem_singleton.mpr rfl) live inside, holdsThere⟩

theorem plural {slot : Slot} {kind : PluralKind} {offset : Int}
    {clauses : List (Clause Selector Node)} {clause : Clause Selector Node}
    (live : clause ∈ liveClauses (· == .keyword otherKeyword) clauses)
    (inBody : LiveWith holds true clause.body) :
    LiveWith holds inPlural [.plural slot kind offset clauses] := by
  obtain ⟨place, inside, holdsThere⟩ := inBody
  exact ⟨place, .plural (List.mem_singleton.mpr rfl) live inside, holdsThere⟩

theorem mono {few nodes : List Node} (among : LiveWith holds inPlural few)
    (within : few ⊆ nodes) : LiveWith holds inPlural nodes := by
  obtain ⟨place, live, holdsThere⟩ := among
  refine ⟨place, ?_, holdsThere⟩
  cases live with
  | here member => exact .here (within member)
  | select member live inside => exact .select (within member) live inside
  | plural member live inside => exact .plural (within member) live inside

end LiveWith

theorem Live.occurs {inPlural : Bool} {nodes : List Node} {place : Place}
    (live : Live inPlural nodes place) : place.node ∈ Node.occurringAll nodes := by
  induction live with
  | here member => exact mem_occurringAll.mpr ⟨_, member, Node.mem_occurring_self _⟩
  | select member live _ ih =>
    refine mem_occurringAll.mpr ⟨_, member, List.mem_cons_of_mem _ ?_⟩
    exact mem_occurringSelect.mpr ⟨_, mem_of_mem_liveClauses live, ih⟩
  | plural member live _ ih =>
    refine mem_occurringAll.mpr ⟨_, member, List.mem_cons_of_mem _ ?_⟩
    exact mem_occurringPlural.mpr ⟨_, mem_of_mem_liveClauses live, ih⟩

end MessagePattern

import MessagePattern.Message.Format
import MessagePattern.Proofs.Outcome

set_option autoImplicit false

namespace MessagePattern

@[simp] theorem formatAll_singleton (context : FormatContext) (number : Option PoundNumber)
    (node : Node) :
    Node.formatAll context number [node] = node.format context number := by
  cases formatted : node.format context number <;> simp [Node.formatAll, formatted]

theorem formatAll_append (context : FormatContext) (number : Option PoundNumber)
    (first second : List Node) :
    Node.formatAll context number (first ++ second) = (do
      let front <- Node.formatAll context number first
      let back <- Node.formatAll context number second
      return front ++ back) := by
  induction first with
  | nil => cases written : Node.formatAll context number second <;> simp [Node.formatAll, written]
  | cons node rest ih =>
    rw [List.cons_append, Node.formatAll, Node.formatAll, ih]
    cases node.format context number with
    | error error => rfl
    | ok text =>
      cases Node.formatAll context number rest with
      | error error => rfl
      | ok texts =>
        cases Node.formatAll context number second <;> simp [String.append_assoc]

theorem formatSelect_eq (context : FormatContext) (accepts : String -> Bool)
    (clauses : List (Clause String Node)) :
    formatSelect context accepts clauses =
      (clauses.find? (accepts ·.selector)).map (Node.formatAll context none ·.body) := by
  induction clauses with
  | nil => rfl
  | cons clause rest ih =>
    rw [formatSelect, List.find?_cons, ih]
    cases accepts clause.selector <;> rfl

theorem formatPlural_eq (context : FormatContext) (number : PoundNumber)
    (accepts : Selector -> Bool) (clauses : List (Clause Selector Node)) :
    formatPlural context number accepts clauses =
      (clauses.find? (accepts ·.selector)).map
        (Node.formatAll context (some number) ·.body) := by
  induction clauses with
  | nil => rfl
  | cons clause rest ih =>
    rw [formatPlural, List.find?_cons, ih]
    cases accepts clause.selector <;> rfl

theorem find?_filter_selector {σ : Type} [BEq σ] [LawfulBEq σ] (keep : σ -> Bool)
    (clauses : List (Clause σ Node)) (key : σ) :
    (clauses.filter (keep ·.selector)).find? (·.selector == key) =
      if keep key then clauses.find? (·.selector == key) else none := by
  split
  next kept =>
    rw [List.find?_filter]
    congr 1
    funext clause
    by_cases same : clause.selector = key
    · simp [same, kept]
    · simp [same]
  next dropped =>
    rw [List.find?_eq_none]
    intro clause kept same
    have keepsKey := (List.mem_filter.mp kept).2
    rw [eq_of_beq same] at keepsKey
    exact dropped keepsKey

theorem Node.format_select (context : FormatContext) (pound : Option PoundNumber) (slot : Slot)
    (clauses : List (Clause String Node)) :
    (Node.select slot clauses).format context pound = (do
      let key <- context.print slot
      match clauses.find? (·.selector == key) <|>
          clauses.find? (·.selector == otherKeyword) with
      | some clause => Node.formatAll context none clause.body
      | none => .error (.missingSelectOther slot.key)) := by
  rw [Node.format]
  cases context.print slot with
  | error error => rfl
  | ok key =>
    simp only [formatSelect_eq, ok_bind]
    cases clauses.find? (·.selector == key) with
    | some clause => rfl
    | none => cases clauses.find? (·.selector == otherKeyword) <;> rfl

theorem Node.format_plural (context : FormatContext) (pound : Option PoundNumber) (slot : Slot)
    (kind : PluralKind) (offset : Int) (clauses : List (Clause Selector Node)) :
    (Node.plural slot kind offset clauses).format context pound = (do
      let value <- context.resolve slot
      let reduced <- reduceValue slot.key value offset
      let number : PoundNumber := { name := slot.key, value := reduced }
      match clauses.find? (Selector.names value ·.selector) with
      | some clause => Node.formatAll context (some number) clause.body
      | none => do
          let category <- context.category slot.key kind reduced
          match clauses.find? (·.selector == .keyword category.keyword) <|>
              clauses.find? (·.selector == .keyword otherKeyword) with
          | some clause => Node.formatAll context (some number) clause.body
          | none => .error (.missingPluralOther slot.key)) := by
  rw [Node.format]
  congr 1
  funext value
  congr 1
  funext reduced
  simp only [formatPlural_eq]
  cases clauses.find? (Selector.names value ·.selector) with
  | some clause => rfl
  | none =>
    simp only [Option.map_none]
    congr 1
    funext category
    cases clauses.find? (·.selector == .keyword category.keyword) with
    | some clause => rfl
    | none => cases clauses.find? (·.selector == .keyword otherKeyword) <;> rfl

end MessagePattern

import MessagePattern.Proofs.Message.Depth
import MessagePattern.Proofs.Message.Occurrence
import MessagePattern.Proofs.Pattern.Grammar

set_option autoImplicit false

namespace MessagePattern

def Slot.WellFormed : Slot -> Prop
  | .name text => IsWord text.toList
  | .index number => number ≤ Slot.maxIndex

def Selector.WellFormed : Selector -> Prop
  | .keyword word => IsWord word.toList
  | .exactly number => 0 ≤ number ∧ number ≤ Selector.maxNumber

def Node.IsText (node : Node) : Prop :=
  ∃ content, node = .text content

inductive Alternates : List Node -> Prop
  | text (content : String) : Alternates [.text content]
  | cons (content : String) {node : Node} {nodes : List Node} (notText : ¬ node.IsText)
      (alternates : Alternates nodes) : Alternates (.text content :: node :: nodes)

mutual

-- Whether a node may stand in a body, which for a pound has to be that of a plural clause.
def Node.WellFormed (plural : Bool) : Node -> Prop
  | .text _ => True
  | .argument slot => slot.WellFormed
  | .dateTime slot _ _ => slot.WellFormed
  | .select slot clauses => slot.WellFormed ∧ clauses ≠ [] ∧ selectWellFormed clauses
  | .plural slot _ offset clauses =>
      slot.WellFormed ∧ 0 ≤ offset ∧ offset ≤ Selector.maxNumber ∧ clauses ≠ [] ∧
        pluralWellFormed clauses
  | .pound => plural = true

def Node.allWellFormed (plural : Bool) : List Node -> Prop
  | [] => True
  | node :: rest => node.WellFormed plural ∧ Node.allWellFormed plural rest

def selectWellFormed : List (Clause String Node) -> Prop
  | [] => True
  | ⟨keyword, body⟩ :: rest =>
      IsWord keyword.toList ∧ Alternates body ∧ Node.allWellFormed false body ∧
        selectWellFormed rest

def pluralWellFormed : List (Clause Selector Node) -> Prop
  | [] => True
  | ⟨selector, body⟩ :: rest =>
      selector.WellFormed ∧ Alternates body ∧ Node.allWellFormed true body ∧
        pluralWellFormed rest

end

theorem allWellFormed_iff {plural : Bool} {nodes : List Node} :
    Node.allWellFormed plural nodes ↔ ∀ node ∈ nodes, node.WellFormed plural := by
  induction nodes with
  | nil => simp [Node.allWellFormed]
  | cons node rest ih => simp [Node.allWellFormed, ih]

theorem selectWellFormed_iff {clauses : List (Clause String Node)} :
    selectWellFormed clauses ↔ ∀ clause ∈ clauses,
      IsWord clause.selector.toList ∧ Alternates clause.body ∧
        Node.allWellFormed false clause.body := by
  induction clauses with
  | nil => simp [selectWellFormed]
  | cons clause rest ih => simp [selectWellFormed, ih, and_assoc]

theorem pluralWellFormed_iff {clauses : List (Clause Selector Node)} :
    pluralWellFormed clauses ↔ ∀ clause ∈ clauses,
      clause.selector.WellFormed ∧ Alternates clause.body ∧
        Node.allWellFormed true clause.body := by
  induction clauses with
  | nil => simp [pluralWellFormed]
  | cons clause rest ih => simp [pluralWellFormed, ih, and_assoc]

theorem wellFormed_of_occurs (nodes : List Node) :
    ∀ plural, Node.allWellFormed plural nodes ->
      ∀ node ∈ Node.occurringAll nodes, ∃ inPlural, node.WellFormed inPlural := by
  induction nodes using Node.induction with
  | nil => simp [Node.occurringAll]
  | text content rest ih | argument slot rest ih | dateTime slot kind style rest ih | pound rest ih =>
    rintro plural ⟨here, inRest⟩
    refine Node.forall_occurringAll_cons.mpr ⟨?_, ih plural inRest⟩
    intro node member
    obtain rfl := List.mem_singleton.mp member
    exact ⟨plural, here⟩
  | select slot clauses rest bodies ih =>
    rintro plural ⟨here, inRest⟩
    refine Node.forall_occurringAll_cons.mpr ⟨?_, ih plural inRest⟩
    refine Node.forall_occurring_select.mpr ⟨⟨plural, here⟩, ?_⟩
    intro clause member
    obtain ⟨_, _, clausesWellFormed⟩ := here
    exact bodies clause member false (selectWellFormed_iff.mp clausesWellFormed clause member).2.2
  | plural slot kind offset clauses rest bodies ih =>
    rintro plural ⟨here, inRest⟩
    refine Node.forall_occurringAll_cons.mpr ⟨?_, ih plural inRest⟩
    refine Node.forall_occurring_plural.mpr ⟨⟨plural, here⟩, ?_⟩
    intro clause member
    obtain ⟨_, _, _, _, clausesWellFormed⟩ := here
    exact bodies clause member true (pluralWellFormed_iff.mp clausesWellFormed clause member).2.2

theorem Node.WellFormed.slot {node : Node} {plural : Bool} {slot : Slot}
    (wellFormed : node.WellFormed plural) (reads : node.slot? = some slot) : slot.WellFormed := by
  cases node with
  | text content | pound => cases reads
  | argument other | dateTime other kind style =>
    cases reads
    exact wellFormed
  | select other clauses | plural other kind offset clauses =>
    cases reads
    exact wellFormed.1

structure Message.WellFormed (limit : Nat) (message : Message) : Prop where
  alternates : Alternates message.nodes
  nodes : Node.allWellFormed false message.nodes
  depth : message.depth ≤ limit

theorem Lexeme.isWord {word : String} {source : List Char} (lexeme : Lexeme (.word word) source) :
    IsWord word.toList := by
  obtain ⟨_, spelled⟩ := lexeme
  cases spelled with
  | word isWord => rwa [String.toList_ofList]

theorem Lexeme.slot_wellFormed {slot : Slot} {source : List Char}
    (lexeme : Lexeme slot.token source) : slot.WellFormed := by
  cases slot with
  | name text => exact lexeme.isWord
  | index number =>
    obtain ⟨_, spelled⟩ := lexeme
    cases spelled with
    | number numeral => exact numeral.inRange

theorem Lexemes.head {token : Token} {tokens : List Token} {source : List Char}
    (spelled : Lexemes (token :: tokens) source) : ∃ front, Lexeme token front := by
  rcases spelled with _ | ⟨lexeme, _⟩
  exact ⟨_, lexeme⟩

theorem Lexemes.slot_wellFormed {slot : Slot} {tokens : List Token} {source : List Char}
    (spelled : Lexemes (slot.token :: tokens) source) : slot.WellFormed := by
  obtain ⟨_, lexeme⟩ := spelled.head
  exact lexeme.slot_wellFormed

theorem Selector.Written.wellFormed {selector : Selector} {written tokens : List Token}
    {source : List Char} (selectorWritten : selector.Written written)
    (spelled : Lexemes (written ++ tokens) source) : selector.WellFormed := by
  cases selectorWritten with
  | keyword word =>
    obtain ⟨_, lexeme⟩ := spelled.head
    exact lexeme.isWord
  | exactly number inRange => exact ⟨Int.natCast_nonneg number, Int.ofNat_le.mpr inRange⟩

def Phrase.WellFormed : Phrase -> Prop
  | .body plural nodes => Alternates nodes ∧ Node.allWellFormed plural nodes
  | .argument node => ¬ node.IsText ∧ ∀ plural, node.WellFormed plural
  | .selectClauses clauses => selectWellFormed clauses
  | .pluralClauses clauses => pluralWellFormed clauses

theorem Phrase.Spelled.wellFormed {phrase : Phrase} {source : List Char}
    (spelled : phrase.Spelled source) : phrase.WellFormed := by
  induction spelled with
  | text => exact ⟨.text _, trivial, trivial⟩
  | pound _ _ ih =>
    obtain ⟨alternates, wellFormed⟩ := ih
    exact ⟨.cons _ (by simp [Node.IsText]) alternates, trivial, rfl, wellFormed⟩
  | argument _ _ _ ihArgument ihBody =>
    obtain ⟨notText, nodeWellFormed⟩ := ihArgument
    obtain ⟨alternates, wellFormed⟩ := ihBody
    exact ⟨.cons _ notText alternates, trivial, nodeWellFormed _, wellFormed⟩
  | bare tokens => exact ⟨by simp [Node.IsText], fun _ => tokens.slot_wellFormed⟩
  | dateTime tokens => exact ⟨by simp [Node.IsText], fun _ => tokens.slot_wellFormed⟩
  | select tokens nonempty _ ih =>
    exact ⟨by simp [Node.IsText], fun _ => ⟨tokens.slot_wellFormed, nonempty, ih⟩⟩
  | plural tokens nonempty _ _ ih =>
    refine ⟨by simp [Node.IsText], fun _ => ⟨tokens.slot_wellFormed, ?_, ?_, nonempty, ih⟩⟩
    · decide
    · decide
  | pluralOffset tokens nonempty inRange _ ih =>
    refine ⟨by simp [Node.IsText], fun _ => ⟨tokens.slot_wellFormed, ?_, ?_, nonempty, ih⟩⟩
    · exact Int.natCast_nonneg _
    · exact Int.ofNat_le.mpr inRange
  | selectEnd => trivial
  | selectClause tokens _ _ ihBody ihClauses =>
    obtain ⟨_, lexeme⟩ := tokens.head
    exact ⟨lexeme.isWord, ihBody.1, ihBody.2, ihClauses⟩
  | pluralEnd => trivial
  | pluralClause written tokens _ _ ihBody ihClauses =>
    exact ⟨written.wellFormed tokens, ihBody.1, ihBody.2, ihClauses⟩

theorem Message.SpelledBy.slot_wellFormed {message : Message} {pattern : String} {node : Node}
    {slot : Slot} (spelled : message.SpelledBy pattern) (occurs : node ∈ message.occurring)
    (reads : node.slot? = some slot) : slot.WellFormed := by
  have wellFormed : Node.allWellFormed false message.nodes := spelled.wellFormed.2
  obtain ⟨_, nodeWellFormed⟩ := wellFormed_of_occurs message.nodes false wellFormed node occurs
  exact nodeWellFormed.slot reads

end MessagePattern

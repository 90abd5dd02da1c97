import MessagePattern.Message.FormatError
import MessagePattern.Program.Compile
import MessagePattern.Proofs.Message.Live

set_option autoImplicit false

namespace MessagePattern

inductive Gap
  | selectOther (name : String)
  | pluralOther (name : String)
  | poundNumber
deriving DecidableEq, Repr

def Gap.formatError : Gap -> FormatError
  | .selectOther name => .missingSelectOther name
  | .pluralOther name => .missingPluralOther name
  | .poundNumber => .poundOutsidePlural

def Gap.compileError : Gap -> CompileError
  | .selectOther name => .missingSelectOther name
  | .pluralOther name => .missingPluralOther name
  | .poundNumber => .poundOutsidePlural

theorem Gap.formatError_injective {first second : Gap}
    (same : first.formatError = second.formatError) : first = second := by
  cases first <;> cases second <;> simp_all [Gap.formatError]

theorem Gap.compileError_injective {first second : Gap}
    (same : first.compileError = second.compileError) : first = second := by
  cases first <;> cases second <;> simp_all [Gap.compileError]

inductive Place.Lacks : Place -> Gap -> Prop
  | selectOther {inPlural : Bool} {slot : Slot} {clauses : List (Clause String Node)}
      (missing : clauses.find? (·.selector == otherKeyword) = none) :
      Lacks ⟨inPlural, .select slot clauses⟩ (.selectOther slot.key)
  | pluralOther {inPlural : Bool} {slot : Slot} {kind : PluralKind} {offset : Int}
      {clauses : List (Clause Selector Node)}
      (missing : clauses.find? (·.selector == .keyword otherKeyword) = none) :
      Lacks ⟨inPlural, .plural slot kind offset clauses⟩ (.pluralOther slot.key)
  | poundNumber : Lacks ⟨false, .pound⟩ .poundNumber

def Place.Complete (place : Place) : Prop :=
  match place.node with
  | .text _ | .argument _ | .dateTime _ _ _ => True
  | .select _ clauses => ∃ clause ∈ clauses, clause.selector = otherKeyword
  | .plural _ _ _ clauses => ∃ clause ∈ clauses, clause.selector = .keyword otherKeyword
  | .pound => place.inPlural = true

theorem Place.Complete.lacks_nothing {place : Place} (complete : place.Complete) (gap : Gap) :
    ¬ place.Lacks gap := by
  rintro (missing | missing | _)
  · obtain ⟨clause, member, isOther⟩ := complete
    simpa [isOther] using List.find?_eq_none.mp missing clause member
  · obtain ⟨clause, member, isOther⟩ := complete
    simpa [isOther] using List.find?_eq_none.mp missing clause member
  · cases complete

end MessagePattern

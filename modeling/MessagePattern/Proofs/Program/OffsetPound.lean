import Mathlib
import MessagePattern.Proofs.Message.Pound
import MessagePattern.Proofs.Offset

set_option autoImplicit false

namespace MessagePattern

def answerPounds (text : String) (clauses : List (Clause Selector Node)) :
    List (Clause Selector Node) :=
  clauses.map fun clause => { clause with body := clause.body.map (·.answerPound text) }

theorem find?_answerPounds (accepts : Selector -> Bool) (text : String)
    (clauses : List (Clause Selector Node)) :
    (answerPounds text clauses).find? (accepts ·.selector) =
      (clauses.find? (accepts ·.selector)).map
        fun clause => { clause with body := clause.body.map (·.answerPound text) } :=
  List.find?_map

@[simp] theorem Node.answerPound_answerPound (text other : String) (node : Node) :
    (node.answerPound text).answerPound other = node.answerPound text := by
  cases node <;> rfl

def FormatContext.WritesPounds (context : FormatContext) (slot : Slot) (offset : Int)
    (text : String) : Prop :=
  ∀ (kind : PluralKind) (clauses : List (Clause Selector Node)) (outer : Option PoundNumber),
    (Node.plural slot kind offset clauses).format context outer =
      (Node.plural slot kind offset (answerPounds text clauses)).format context outer

def Host.WritesPounds (host : Host) (slot : Slot) (offset : Int) (text : String) : Prop :=
  ∀ (tag : String) (kind : PluralKind) (clauses : List (Clause Selector Node))
    (outer : Option PoundField),
    ((Node.plural slot kind offset clauses).compile tag outer).map (Instruction.executeAll host) =
      ((Node.plural slot kind offset (answerPounds text clauses)).compile tag outer).map
        (Instruction.executeAll host)

section Direct

variable {context : FormatContext} {number : PoundNumber} {text : String}

theorem Node.formatAll_answered (written : number.value.render? = some text) (nodes : List Node) :
    Node.formatAll context (some number) (nodes.map (·.answerPound text)) =
      Node.formatAll context (some number) nodes := by
  rw [Node.formatAll_answerPound written, Node.formatAll_answerPound written, List.map_map]
  congr 2
  funext node
  exact node.answerPound_answerPound text text

theorem FormatContext.writesPounds {slot : Slot} {offset : Int} {value reduced : Value}
    (bound : context.bindings.get? slot.key = some value)
    (reduces : value.minus? offset = some reduced) (written : reduced.render? = some text) :
    context.WritesPounds slot offset text := by
  intro kind clauses outer
  have resolved : context.resolve slot = .ok value := by rw [FormatContext.resolve, bound]
  have reducedTo : reduceValue slot.key value offset = .ok reduced := by rw [reduceValue, reduces]
  let number : PoundNumber := { name := slot.key, value := reduced }
  have bodies (clause : Clause Selector Node) :
      Node.formatAll context (some number) (clause.body.map (·.answerPound text)) =
        Node.formatAll context (some number) clause.body :=
    Node.formatAll_answered written clause.body
  -- Which clause is taken depends on the selectors alone.
  rw [Node.format_plural, Node.format_plural, resolved, ok_bind, ok_bind, reducedTo, ok_bind,
    ok_bind, find?_answerPounds]
  cases clauses.find? (Selector.names value ·.selector) with
  | some clause => exact (bodies clause).symm
  | none =>
    simp only [Option.map_none]
    congr 1
    funext category
    rw [find?_answerPounds (· == .keyword category.keyword),
      find?_answerPounds (· == .keyword otherKeyword)]
    cases clauses.find? (·.selector == .keyword category.keyword) with
    | some clause => exact (bodies clause).symm
    | none =>
      cases clauses.find? (·.selector == .keyword otherKeyword) with
      | some clause => exact (bodies clause).symm
      | none => rfl

end Direct

section Compiled

variable {host : Host} {pound : PoundField} {value : String}

theorem Node.compile_answered (written : host.callText pound.call = .ok value) (tag : String)
    (node : Node) :
    (node.compile tag (some pound)).map (Instruction.executeAll host) =
      ((node.answerPound (host.escape value)).compile tag (some pound)).map
        (Instruction.executeAll host) := by
  cases node with
  | pound => simp [Node.answerPound, Node.compile, Instruction.execute, written, Except.map]
  | _ => rfl

theorem Node.compileAll_answered (written : host.callText pound.call = .ok value) (tag : String)
    (nodes : List Node) :
    (Node.compileAll tag (some pound) nodes).map (Instruction.executeAll host) =
      (Node.compileAll tag (some pound) (nodes.map (·.answerPound (host.escape value)))).map
        (Instruction.executeAll host) := by
  induction nodes with
  | nil => rfl
  | cons node rest ih =>
    rw [List.map_cons, Node.compileAll, Node.compileAll]
    refine map_bind_congr (Node.compile_answered written tag node) fun front first sameFront => ?_
    refine map_bind_congr ih fun back second sameBack => congrArg Except.ok ?_
    rw [executeAll_append, executeAll_append, sameFront, sameBack]

def Branch.executed (host : Host) (branch : Branch) : Call × Except FormatError String :=
  (branch.condition, Instruction.executeAll host branch.body)

theorem executeAll_chain_congr {first second : List Branch} {fallback other : List Instruction}
    (branches : first.map (Branch.executed host) = second.map (Branch.executed host))
    (fallbacks : Instruction.executeAll host fallback = Instruction.executeAll host other) :
    Instruction.executeAll host (chain first fallback) =
      Instruction.executeAll host (chain second other) := by
  induction first generalizing second with
  | nil =>
    obtain rfl := List.map_eq_nil_iff.mp branches.symm
    exact fallbacks
  | cons branch rest ih =>
    obtain ⟨partner, more, rfl, same, others⟩ := List.map_eq_cons_iff.mp branches.symm
    obtain ⟨condition, body⟩ := Prod.ext_iff.mp same
    simp only [Branch.executed] at condition body
    rw [chain, chain, executeAll_singleton, executeAll_singleton, Instruction.execute,
      Instruction.execute, condition, body, ih others.symm]

theorem compilePlural_answered (written : host.callText pound.call = .ok value) (tag : String)
    (condition : Selector -> Call) (accepts : Selector -> Bool)
    (clauses : List (Clause Selector Node)) :
    (compilePlural tag pound condition accepts clauses).map (List.map (Branch.executed host)) =
      (compilePlural tag pound condition accepts (answerPounds (host.escape value) clauses)).map
        (List.map (Branch.executed host)) := by
  induction clauses with
  | nil => rfl
  | cons clause rest ih =>
    rw [answerPounds, List.map_cons, ← answerPounds, compilePlural, compilePlural]
    split
    next =>
      refine map_bind_congr (Node.compileAll_answered written tag clause.body)
        fun body answered sameBody => ?_
      refine map_bind_congr ih fun branches others sameBranches => congrArg Except.ok ?_
      rw [List.map_cons, List.map_cons, sameBranches, Branch.executed, Branch.executed, sameBody]
    next => exact ih

theorem Host.writesPounds {slot : Slot} {offset : Int}
    (written : host.callText (PoundField.call { field := slot.key, offset }) = .ok value) :
    host.WritesPounds slot offset (host.escape value) := by
  intro tag kind clauses outer
  have branches (accepts : Selector -> Bool) := compilePlural_answered written tag
    (pluralCall tag slot kind offset) accepts clauses
  rw [Node.compile, Node.compile, compilePluralOther_eq, compilePluralOther_eq,
    find?_answerPounds (· == .keyword otherKeyword)]
  cases clauses.find? (·.selector == .keyword otherKeyword) with
  | none => rfl
  | some other =>
    refine map_bind_congr (branches (·.number?.isSome)) fun exact first sameExact => ?_
    refine map_bind_congr (branches (·.keyword?.any (· != otherKeyword)))
      fun named second sameNamed => ?_
    refine map_bind_congr (Node.compileAll_answered written tag other.body)
      fun fallback answered sameFallback => ?_
    refine congrArg Except.ok (executeAll_chain_congr ?_ sameFallback)
    rw [List.map_append, List.map_append, sameExact, sameNamed]

end Compiled

/-- Taking an offset from an integer leaves the one value of its type that is congruent to the
difference, which is the difference itself where the type holds it. The pounds of a plural that the
integer is bound to are written as its decimal, by the direct text and by the program. -/
theorem FixedInteger.minus_exact (integer : FixedInteger) (offset : Int) :
    (Number.integer integer).minus offset = .integer (integer.minus offset) ∧
    (∀ other : FixedInteger, other = integer.minus offset ↔
      other.type = integer.type ∧
        other.value ≡ integer.value - offset [ZMOD 2 ^ integer.type.size.bits]) ∧
    (integer.type.Holds (integer.value - offset) ->
      (integer.minus offset).value = integer.value - offset) ∧
    (integer.minus offset).value =
      integer.type.wrap (IntegerType.long.wrap (IntegerType.long.wrap integer.value - offset)) ∧
    (∀ more, (integer.minus offset).minus more =
      integer.minus (IntegerType.long.wrap (offset + more))) ∧
    integer.minus 0 = integer ∧
    ∀ slot : Slot,
      (∀ context : FormatContext,
        context.bindings.get? slot.key = some (.number (.integer integer)) ->
          context.WritesPounds slot offset (integer.minus offset).value.repr) ∧
      ∀ host : Host, host.bindings.get? slot.key = some (.number (.integer integer)) ->
        host.WritesPounds slot offset (host.escape (integer.minus offset).value.repr) := by
  refine ⟨rfl, ?congruent, FixedInteger.minus_of_holds, rfl,
    integer.minus_minus offset, integer.minus_zero, fun slot => ⟨?direct, ?compiled⟩⟩
  case congruent =>
    intro other
    have modulus : (integer.type.modulus : Int) = 2 ^ integer.type.size.bits :=
      Int.natCast_pow 2 integer.type.size.bits
    rw [← modulus]
    exact FixedInteger.eq_minus_iff
  case direct =>
    intro context bound
    exact FormatContext.writesPounds bound rfl rfl
  case compiled =>
    intro host bound
    refine Host.writesPounds ?_
    rw [callText_pound, bound]
    rfl

-- The type of offsets takes it for a negative integer.
def largestInteger : FixedInteger :=
  .wrap { signed := false, size := .bits64 } 18446744073709551615

def largestContext : FormatContext :=
  guestContext [("count", .number (.integer largestInteger))]

def bracketHost : Host :=
  { largestContext.host with escape := fun text => "[" ++ text ++ "]" }

def countClauses : List (Clause Selector Node) :=
  [{ selector := .exactly 5, body := [.text "five"] },
    { selector := .keyword "other", body := [.text "+", .pound] }]

theorem FixedInteger.minus_exact_largest :
    largestInteger.type.Holds (largestInteger.value - 5) ∧
      (largestInteger.minus 5).value = 18446744073709551610 ∧
      (largestInteger.minus 5).minus (-6) = largestInteger.minus (-1) ∧
      FixedInteger.wrap largestInteger.type 18446744073709551610 = largestInteger.minus 5 ∧
      (Node.plural (.name "count") .cardinal 5 countClauses).format largestContext none =
        .ok "+18446744073709551610" ∧
      ((Node.plural (.name "count") .cardinal 5 countClauses).compile "en" none).map
          (Instruction.executeAll bracketHost) = .ok (.ok "+[18446744073709551610]") := by
  have holds : largestInteger.type.Holds (largestInteger.value - 5) := by decide
  obtain ⟨-, congruent, inRange, -, sum, -, pounds⟩ := FixedInteger.minus_exact largestInteger 5
  obtain ⟨direct, compiled⟩ := pounds (.name "count")
  have bound : largestContext.bindings.get? "count" = some (.number (.integer largestInteger)) := rfl
  refine ⟨holds, inRange holds, sum (-6), (congruent _).mpr ⟨rfl, by decide⟩, ?_, ?_⟩
  · rw [direct largestContext bound .cardinal countClauses none]
    rfl
  · rw [compiled bracketHost bound "en" .cardinal countClauses none]
    rfl

end MessagePattern

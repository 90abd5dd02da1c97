import MessagePattern.Proofs.Locale
import MessagePattern.Proofs.Pattern.Recognition
import MessagePattern.Proofs.Pattern.WellFormed
import MessagePattern.Proofs.Program.Agreement
import MessagePattern.Proofs.Program.Segments

set_option autoImplicit false

namespace MessagePattern

-- Whether a choice has no keyword but `other`. Exact selectors may stand beside it.
def Node.KnowsOnlyOther : Node -> Prop
  | .select _ clauses => ∀ clause ∈ clauses, clause.selector = otherKeyword
  | .plural _ _ _ clauses =>
      ∀ clause ∈ clauses, ∀ word, clause.selector = .keyword word -> word = otherKeyword
  | _ => False

-- The same, where exact selectors count as well.
def Node.HasOnlyOther : Node -> Prop
  | .select _ clauses => ∀ clause ∈ clauses, clause.selector = otherKeyword
  | .plural _ _ _ clauses => ∀ clause ∈ clauses, clause.selector = .keyword otherKeyword
  | _ => False

theorem Node.hasAlternative_of_not_knowsOnlyOther {node : Node} (knows : ¬ node.KnowsOnlyOther) :
    node.HasAlternative := by
  cases node with
  | select slot clauses =>
    obtain ⟨clause, member, named⟩ : ∃ clause ∈ clauses, clause.selector ≠ otherKeyword := by
      simpa [Node.KnowsOnlyOther] using knows
    exact ⟨clause, member, named⟩
  | plural slot kind offset clauses =>
    obtain ⟨clause, member, word, isWord, named⟩ : ∃ clause ∈ clauses, ∃ word,
        clause.selector = .keyword word ∧ word ≠ otherKeyword := by
      simpa [Node.KnowsOnlyOther] using knows
    exact ⟨clause, member, word, isWord, named⟩
  | text content | argument slot | dateTime slot kind style | pound => trivial

theorem Message.keywordsNonempty_of_parse {limit : Nat} {pattern : String} {message : Message}
    (parsed : Message.parse limit pattern = .ok message) :
    ∀ node ∈ message.occurring, node.KeywordsNonempty := by
  intro node occurs
  have spelled := (Message.spelled_of_parse parsed).1
  obtain ⟨inPlural, wellFormed⟩ :=
    wellFormed_of_occurs message.nodes false spelled.wellFormed.2 node occurs
  cases node with
  | plural slot kind offset clauses =>
    intro clause member isEmpty
    obtain ⟨_, _, _, _, clausesWellFormed⟩ := wellFormed
    have selector := (pluralWellFormed_iff.mp clausesWellFormed clause member).1
    rw [isEmpty] at selector
    exact selector
  | text content | argument slot | dateTime slot kind style | select slot clauses | pound => trivial

theorem Message.knowsOnlyOther_of_execute {context : FormatContext} {limit : Nat}
    {pattern text : String} {message : Message} {program : Program}
    {escape : String -> String} {error : FormatError}
    (parsed : Message.parse limit pattern = .ok message)
    (readable : context.environment.locales.Rereads context.locale)
    (compiled : message.compile context.locale = .ok program)
    (bound : ∀ node ∈ message.occurring, node.BoundIn context.bindings)
    (executed : program.execute { context.host with escape } = .ok text)
    (failed : message.format context = .error error) :
    ∃ node ∈ message.occurring, node.KnowsOnlyOther := by
  by_contra allKnowMore
  have comparable : ∀ node ∈ message.occurring, node.Comparable False context.bindings := by
    intro node occurs
    have knowsMore : ¬ node.KnowsOnlyOther := fun knows => allKnowMore ⟨node, occurs, knows⟩
    exact ⟨Message.keywordsNonempty_of_parse parsed node occurs,
      .inr ⟨Node.hasAlternative_of_not_knowsOnlyOther knowsMore, bound node occurs⟩⟩
  have agrees := Message.agrees readable compiled comparable
  have same : program.execute context.host = message.format context :=
    agrees.resolve_right fun tolerated => tolerated.1
  obtain ⟨plain, executedPlain⟩ := executeAll_escape id program.instructions text executed
  rw [failed] at same
  cases same.symm.trans executedPlain

-- `{n, plural, =0 {none} other {some}}`.
def stockMessage : Message :=
  { nodes := [
      .text "",
      .plural (.name "n") .cardinal 0 [
        { selector := .exactly 0, body := [.text "none"] },
        { selector := .keyword "other", body := [.text "some"] }],
      .text ""] }

def stockPattern : String :=
  "\x7bn, plural, =0 \x7bnone\x7d other \x7bsome\x7d\x7d"

-- A float that is not a number, and so is not zero and has no category.
def unknownStock : FormatContext :=
  guestContext [("n", .number (.double (0.0 / 0.0)))]

theorem stockMessage_parsed : Message.parse 64 stockPattern = .ok stockMessage := by
  cbv

theorem stockMessage_bound :
    ∀ node ∈ stockMessage.occurring, node.BoundIn unknownStock.bindings := by
  simp [stockMessage, Message.occurring, Node.BoundIn, Node.slot?]
  exact ⟨_, rfl⟩

theorem stockMessage_format : stockMessage.format unknownStock =
    .error (.plural "n" (.operands (.notNumeric "NaN"))) := by
  decide +kernel

theorem stockMessage_execute {program : Program}
    (compiled : stockMessage.compile unknownStock.locale = .ok program) :
    program.execute unknownStock.host = .ok "some" :=
  execute_of_compiled compiled (by decide +kernel)

theorem Message.knowsOnlyOther_of_execute_stock :
    ∃ program, Message.parse 64 stockPattern = .ok stockMessage ∧
      stockMessage.compile unknownStock.locale = .ok program ∧
      program.execute unknownStock.host = .ok "some" ∧
      stockMessage.format unknownStock =
        .error (.plural "n" (.operands (.notNumeric "NaN"))) ∧
      ∃ node ∈ stockMessage.occurring, node.KnowsOnlyOther := by
  obtain ⟨program, compiled⟩ :
      ∃ program, stockMessage.compile unknownStock.locale = .ok program := ⟨_, rfl⟩
  have readable : unknownStock.environment.locales.Rereads unknownStock.locale :=
    guestContext_rereads _
  have executed := stockMessage_execute compiled
  exact ⟨program, stockMessage_parsed, compiled, executed, stockMessage_format,
    Message.knowsOnlyOther_of_execute stockMessage_parsed readable compiled stockMessage_bound executed
      stockMessage_format⟩

theorem Message.execute_asks_no_category :
    ∃ program, Message.parse 64 stockPattern = .ok stockMessage ∧
      stockMessage.compile unknownStock.locale = .ok program ∧
      (∀ node ∈ stockMessage.occurring, node.BoundIn unknownStock.bindings) ∧
      program.execute unknownStock.host = .ok "some" ∧
      stockMessage.format unknownStock =
        .error (.plural "n" (.operands (.notNumeric "NaN"))) ∧
      ¬ ∃ node ∈ stockMessage.occurring, node.HasOnlyOther := by
  obtain ⟨program, compiled⟩ :
      ∃ program, stockMessage.compile unknownStock.locale = .ok program := ⟨_, rfl⟩
  refine ⟨program, stockMessage_parsed, compiled, stockMessage_bound,
    stockMessage_execute compiled, stockMessage_format, ?_⟩
  simp [stockMessage, Message.occurring, Node.HasOnlyOther]

end MessagePattern

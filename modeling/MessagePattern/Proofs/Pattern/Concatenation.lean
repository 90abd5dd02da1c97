import Mathlib
import MessagePattern.Formatter
import MessagePattern.Proofs.Message.Clauses
import MessagePattern.Proofs.Pattern.Recognition

set_option autoImplicit false

namespace MessagePattern

def QuotesApart (first second : List Char) : Prop :=
  first.getLast? = some '\'' -> second.head? ≠ some '\''

theorem QuotesApart.of_append (front : List Char) {first second : List Char}
    (apart : QuotesApart (front ++ first) second) : QuotesApart first second := by
  intro last
  apply apart
  simp [List.getLast?_append, last]

theorem QuotesApart.left {first second tail : List Char}
    (apart : QuotesApart first (second ++ tail)) : QuotesApart first second := by
  intro last
  have noQuote := apart last
  cases second with
  | nil => simp
  | cons => exact noQuote

theorem TextSpelled.append {plural : Bool} {source content after rest : List Char}
    (text : TextSpelled plural source content) (goesOn : TextSpelled plural after rest)
    (apart : QuotesApart source after) : TextSpelled plural (source ++ after) (content ++ rest) := by
  induction text with
  | nil => exact goesOn
  | @plain character _ _ isPlain _ ih =>
    exact .plain isPlain (ih (QuotesApart.of_append [character] apart))
  | quote _ ih => exact .quote (ih (QuotesApart.of_append ['\'', '\''] apart))
  | @run inside meant source content quoted opens single closes _ ih =>
    have apartRest : QuotesApart source after := by
      apply QuotesApart.of_append ('\'' :: (inside ++ ['\'']))
      simpa using apart
    have closesBoth : (source ++ after).head? ≠ some '\'' := by
      cases source with
      | nil => exact apart (by simp [List.getLast?_cons])
      | cons => exact closes
    simpa using TextSpelled.run quoted opens single closesBoth (ih apartRest)

inductive JoinedNodes : List Node -> List Node -> List Node -> Prop
  | mk (front : List Node) (last first : String) (back : List Node) :
      JoinedNodes (front ++ [.text last]) (.text first :: back)
        (front ++ .text (last ++ first) :: back)

theorem JoinedNodes.cons {first second joined : List Node} (node : Node)
    (join : JoinedNodes first second joined) :
    JoinedNodes (node :: first) second (node :: joined) := by
  cases join with
  | mk front last text back => exact .mk (node :: front) last text back

theorem JoinedNodes.depth {first second joined : List Node}
    (join : JoinedNodes first second joined) :
    bodyDepth joined = max (bodyDepth first) (bodyDepth second) := by
  cases join with
  | mk front last text back =>
    simp only [bodyDepth_append, bodyDepth, Node.depth]
    omega

theorem JoinedNodes.formatAll {first second joined : List Node}
    (join : JoinedNodes first second joined) (context : FormatContext)
    (number : Option PoundNumber) :
    Node.formatAll context number joined = (do
      let front <- Node.formatAll context number first
      let back <- Node.formatAll context number second
      return front ++ back) := by
  cases join with
  | mk front last text back =>
    simp only [formatAll_append, Node.formatAll, Node.format, ok_bind]
    cases Node.formatAll context number front with
    | error error => rfl
    | ok written =>
      cases Node.formatAll context number back <;> simp [String.append_assoc]

theorem Phrase.Spelled.leadingText {plural : Bool} {nodes : List Node} {source : List Char}
    (spelled : (Phrase.body plural nodes).Spelled source) :
    ∃ (text content rest : List Char) (back : List Node), source = text ++ rest ∧
      nodes = .text (String.ofList content) :: back ∧ TextSpelled plural text content ∧
      ∀ other meant, TextSpelled plural other meant ->
        (Phrase.body plural (.text (String.ofList meant) :: back)).Spelled (other ++ rest) := by
  cases spelled with
  | text text =>
    refine ⟨source, _, [], [], (List.append_nil source).symm, rfl, text, ?_⟩
    intro other meant otherText
    rw [List.append_nil]
    exact .text otherText
  | pound text body => exact ⟨_, _, _, _, rfl, rfl, text, fun _ _ other => .pound other body⟩
  | argument text argument body =>
    exact ⟨_, _, _, _, rfl, rfl, text, fun _ _ other => .argument other argument body⟩

def Phrase.Joins (source : List Char) : Phrase -> Prop
  | .body plural first => ∀ (second : List Node) (after : List Char),
      (Phrase.body plural second).Spelled after -> QuotesApart source after ->
      ∃ joined, JoinedNodes first second joined ∧
        (Phrase.body plural joined).Spelled (source ++ after)
  | .argument _ | .selectClauses _ | .pluralClauses _ => True

theorem Phrase.Spelled.joins {phrase : Phrase} {source : List Char}
    (spelled : phrase.Spelled source) : phrase.Joins source := by
  induction spelled with
  | @text plural source content text =>
    intro second after secondSpelled apart
    obtain ⟨start, meant, rest, back, rfl, rfl, startText, replace⟩ := secondSpelled.leadingText
    -- The text of the first body goes on as the leading text of the second.
    have both := replace _ _ (text.append startText apart.left)
    rw [List.append_assoc, String.ofList_append] at both
    exact ⟨_, .mk [] _ _ back, both⟩
  | @pound nodes source content rest text _ ih =>
    intro second after secondSpelled apart
    have apartRest : QuotesApart rest after := by
      apply QuotesApart.of_append (source ++ ['#'])
      simpa using apart
    obtain ⟨joined, join, joinedSpelled⟩ := ih second after secondSpelled apartRest
    refine ⟨_, (join.cons .pound).cons (.text (String.ofList content)), ?_⟩
    simpa using Phrase.Spelled.pound text joinedSpelled
  | @argument plural node nodes source content inside rest text argument _ _ ih =>
    intro second after secondSpelled apart
    have apartRest : QuotesApart rest after := by
      apply QuotesApart.of_append (source ++ '{' :: inside)
      simpa using apart
    obtain ⟨joined, join, joinedSpelled⟩ := ih second after secondSpelled apartRest
    refine ⟨_, (join.cons node).cons (.text (String.ofList content)), ?_⟩
    simpa using Phrase.Spelled.argument text argument joinedSpelled
  | _ => trivial

/-- Two patterns that are read on their own are read together, unless two quotes meet between them.
The result is formatted as the one and then the other, so the first failure is that of the whole. -/
theorem Message.parse_append (limit : Nat) (first second : String) (before after : Message)
    (parsedFirst : Message.parse limit first = .ok before)
    (parsedSecond : Message.parse limit second = .ok after)
    (apart : ¬ (first.toList.getLast? = some '\'' ∧ second.toList.head? = some '\'')) :
    (∃ joined, JoinedNodes before.nodes after.nodes joined ∧
      Message.parse limit (first ++ second) = .ok { nodes := joined }) ∧
    ∀ (formatter : Formatter) (bindings : Bindings), formatter.maxDepth = limit ->
      formatter.format (first ++ second) bindings = (do
        let front <- formatter.format first bindings
        let back <- formatter.format second bindings
        return front ++ back) := by
  obtain ⟨firstSpelled, firstWithin⟩ := Message.spelled_of_parse parsedFirst
  obtain ⟨secondSpelled, secondWithin⟩ := Message.spelled_of_parse parsedSecond
  obtain ⟨joined, join, spelled⟩ :=
    firstSpelled.joins after.nodes second.toList secondSpelled (not_and.mp apart)
  have parsed : Message.parse limit (first ++ second) = .ok { nodes := joined } := by
    apply Message.parse_of_spelled
    · rwa [Message.SpelledBy, String.toList_append]
    · rw [Message.depth, join.depth]
      exact Nat.max_le.mpr ⟨firstWithin, secondWithin⟩
  refine ⟨⟨joined, join, parsed⟩, ?_⟩
  intro formatter bindings same
  subst same
  have formats := join.formatAll
    { bindings, locale := formatter.locale, environment := formatter.environment } none
  simp only [Formatter.format, Formatter.parse, parsed, parsedFirst, parsedSecond, mapError_ok,
    ok_bind]
  exact formats

-- The first ends in a quote, which the second leaves alone.
def quotedName : String := "'\x7b'\x7bname\x7d''"

def numberedPlace : String := "# \x7b0\x7d'\x7d'"

def quotedNameMessage : Message :=
  { nodes := [.text "\x7b", .argument (.name "name"), .text "'"] }

def numberedPlaceMessage : Message :=
  { nodes := [.text "# ", .argument (.index 0), .text "\x7d"] }

def placeBindings : Bindings :=
  Bindings.ofList [("name", .text "Ann"), ("0", .text "7")]

theorem Message.parse_append_place :
    Message.parse 1 quotedName = .ok quotedNameMessage ∧
      Message.parse 1 numberedPlace = .ok numberedPlaceMessage ∧
      (∃ joined, JoinedNodes quotedNameMessage.nodes numberedPlaceMessage.nodes joined ∧
        Message.parse 1 (quotedName ++ numberedPlace) = .ok { nodes := joined }) ∧
      ({ maxDepth := 1 } : Formatter).format (quotedName ++ numberedPlace) placeBindings =
        .ok "\x7bAnn'# 7\x7d" := by
  have parsedFirst : Message.parse 1 quotedName = .ok quotedNameMessage := by cbv
  have parsedSecond : Message.parse 1 numberedPlace = .ok numberedPlaceMessage := by cbv
  obtain ⟨joined, formats⟩ := Message.parse_append 1 quotedName numberedPlace _ _ parsedFirst
    parsedSecond (by decide)
  have formatted := formats { maxDepth := 1 } placeBindings rfl
  exact ⟨parsedFirst, parsedSecond, joined, formatted.trans (by cbv)⟩

end MessagePattern

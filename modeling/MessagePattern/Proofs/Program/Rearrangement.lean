import MessagePattern.Proofs.Message.Rearrangement
import MessagePattern.Proofs.Program.Agreement
import MessagePattern.Proofs.Program.Gaps

set_option autoImplicit false

namespace MessagePattern

def RunsAlike (host : Host) (tag : String) (pound : Option PoundField) (body other : List Node) :
    Prop :=
  ∀ instructions, Node.compileAll tag pound body = .ok instructions ->
    ∃ changed, Node.compileAll tag pound other = .ok changed ∧
      Instruction.executeAll host changed = Instruction.executeAll host instructions

section Running

variable {host : Host} {tag : String} {pound : Option PoundField}

theorem RunsAlike.refl (body : List Node) : RunsAlike host tag pound body body :=
  fun instructions compiled => ⟨instructions, compiled, rfl⟩

theorem RunsAlike.trans {body middle other : List Node}
    (first : RunsAlike host tag pound body middle) (second : RunsAlike host tag pound middle other) :
    RunsAlike host tag pound body other := by
  intro instructions compiled
  obtain ⟨between, betweenCompiled, betweenRan⟩ := first instructions compiled
  obtain ⟨changed, changedCompiled, changedRan⟩ := second between betweenCompiled
  exact ⟨changed, changedCompiled, changedRan.trans betweenRan⟩

theorem RunsAlike.append {front otherFront back otherBack : List Node}
    (first : RunsAlike host tag pound front otherFront)
    (rest : RunsAlike host tag pound back otherBack) :
    RunsAlike host tag pound (front ++ back) (otherFront ++ otherBack) := by
  intro instructions compiled
  simp only [compileAll_append, bind_eq_ok, pure_eq_ok, Except.ok.injEq] at compiled
  obtain ⟨frontCode, frontCompiled, backCode, backCompiled, rfl⟩ := compiled
  obtain ⟨frontChanged, frontRecompiled, frontRan⟩ := first frontCode frontCompiled
  obtain ⟨backChanged, backRecompiled, backRan⟩ := rest backCode backCompiled
  refine ⟨frontChanged ++ backChanged, ?_, ?_⟩
  · rw [compileAll_append, frontRecompiled, backRecompiled]
    rfl
  · rw [executeAll_append, executeAll_append, frontRan, backRan]

theorem RunsAlike.middle (front rest : List Node) {node other : Node}
    (inside : RunsAlike host tag pound [node] [other]) :
    RunsAlike host tag pound (front ++ node :: rest) (front ++ other :: rest) :=
  (RunsAlike.refl front).append (inside.append (RunsAlike.refl rest))

section Chain

variable {σ : Type} [BEq σ] {condition : σ -> Call} {clauses others : List (Clause σ Node)}
  {branches changed : List Branch} {fallback otherFallback : List Instruction}

theorem compiles_of_branches
    (pairs : List.Forall₂ (Branch.Of tag pound condition) clauses branches)
    (alike : ChoosesAlike (RunsAlike host tag pound) clauses others) :
    ∀ other ∈ others, ∃ body, Node.compileAll tag pound other.body = .ok body := by
  intro other member
  obtain ⟨clause, origin, _, runs⟩ := alike.each other member
  obtain ⟨branch, _, of⟩ := exists_of_mem_left pairs origin
  obtain ⟨body, compiled, _⟩ := runs branch.body of.body
  exact ⟨body, compiled⟩

-- What the tests ask for is the outcome. They all fail as it does, or else compare a selector with
-- it.
theorem executeAll_chain_alike [LawfulBEq σ] {outcome : Except FormatError σ}
    (tests : ∀ clause ∈ clauses,
      host.callBool (condition clause.selector) = outcome.map (clause.selector == ·))
    (pairs : List.Forall₂ (Branch.Of tag pound condition) clauses branches)
    (otherPairs : List.Forall₂ (Branch.Of tag pound condition) others changed)
    (alike : ChoosesAlike (RunsAlike host tag pound) clauses others)
    (fallbacks :
      Instruction.executeAll host otherFallback = Instruction.executeAll host fallback) :
    Instruction.executeAll host (chain changed otherFallback) =
      Instruction.executeAll host (chain branches fallback) := by
  have otherTests : ∀ other ∈ others,
      host.callBool (condition other.selector) = outcome.map (other.selector == ·) := by
    intro other member
    obtain ⟨clause, origin, same, _⟩ := alike.each other member
    exact same ▸ tests clause origin
  cases outcome with
  | error error =>
    by_cases present : clauses = []
    next =>
      obtain rfl := alike.eq_nil_iff.mpr present
      subst present
      cases pairs
      cases otherPairs
      exact fallbacks
    next =>
      have otherPresent := mt alike.eq_nil_iff.mp present
      rw [executeAll_chain_error pairs present tests fallback,
        executeAll_chain_error otherPairs otherPresent otherTests otherFallback]
  | ok key =>
    have ran := executeAll_chain (· == key) pairs tests fallback
    have otherRan := executeAll_chain (· == key) otherPairs otherTests otherFallback
    cases found : clauses.find? (·.selector == key) with
    | none =>
      simp only [found] at ran
      simp only [alike.find?_eq_none found] at otherRan
      rw [ran, otherRan, fallbacks]
    | some clause =>
      obtain ⟨other, otherFound, runs⟩ := alike.first key clause found
      simp only [found] at ran
      simp only [otherFound] at otherRan
      obtain ⟨body, compiled, ran⟩ := ran
      obtain ⟨otherBody, otherCompiled, otherRan⟩ := otherRan
      obtain ⟨same, recompiled, sameRan⟩ := runs body compiled
      obtain rfl : same = otherBody := Except.ok.inj (recompiled.symm.trans otherCompiled)
      rw [otherRan, ran, sameRan]

end Chain

theorem runsAlike_select {slot : Slot} {clauses others : List (Clause String Node)}
    (alike : ChoosesAlike (RunsAlike host tag none) clauses others) :
    RunsAlike host tag pound [.select slot clauses] [.select slot others] := by
  intro instructions compiled
  rw [compileAll_singleton] at compiled ⊢
  obtain ⟨other, fallback, branches, found, fallbackCompiled, pairs, rfl⟩ :=
    Node.compile_select_ok compiled
  obtain ⟨last, lastFound, runs⟩ := alike.first otherKeyword other found
  obtain ⟨lastBody, lastCompiled, lastRan⟩ := runs fallback fallbackCompiled
  have keptAlike := alike.filter (· != otherKeyword)
  cases recompiled : compileSelect tag slot others with
  | error error =>
    obtain ⟨clause, member, named, failed⟩ := compileSelect_error recompiled
    obtain ⟨body, bodyCompiled⟩ := compiles_of_branches pairs keptAlike clause
      (List.mem_filter.mpr ⟨member, by simpa using named⟩)
    rw [bodyCompiled] at failed
    cases failed
  | ok changed =>
    refine ⟨chain changed lastBody, ?_, ?_⟩
    · rw [Node.compile, compileSelectOther_eq, lastFound]
      simp [recompiled, lastCompiled]
    · have tests (keyword : String) : host.callBool (selectCall slot keyword) =
          (printField slot.key (host.bindings.get? slot.key)).map (keyword == ·) := by
        rw [callBool_selectCall, testSelect]
        exact congrArg (Except.map · _) (funext fun key => BEq.comm)
      exact executeAll_chain_alike (fun clause _ => tests clause.selector) pairs
        (compileSelect_ok recompiled) keptAlike lastRan

section Tests

variable {slot : Slot} {kind : PluralKind} {offset : Int} {clauses others : List (Clause Selector Node)}

-- An exact test asks for the number as it is.
theorem exact_tests (tag : String)
    (counted : (Node.plural slot kind offset clauses).CountsExactly host.bindings) :
    ∃ outcome : Except FormatError Selector, ∀ selector : Selector,
      selector.number?.isSome = true ->
        host.callBool (pluralCall tag slot kind offset selector) =
          outcome.map (selector == ·) := by
  have valueExact : ((host.bindings.get? slot.key).getD .zero).Exact := by
    cases bound : host.bindings.get? slot.key with
    | none => exact .integer _
    | some value => exact counted value bound
  simp only [callBool_pluralCall, Environment.testPlural]
  generalize (host.bindings.get? slot.key).getD .zero = value at valueExact ⊢
  cases valueExact with
  | integer fixed =>
    refine ⟨.ok (.exactly fixed.value), fun selector isExact => ?_⟩
    cases selector with
    | keyword word => cases isExact
    | exactly whole =>
      have same : (fixed.value == whole) = (Selector.exactly whole == .exactly fixed.value) := by
        rw [Bool.eq_iff_iff]
        simpa using eq_comm
      exact congrArg Except.ok same
  | truth holds =>
    refine ⟨.error (.expectedNumeric slot.key .bool), fun selector isExact => ?_⟩
    cases selector with
    | keyword word => cases isExact
    | exactly whole => rfl
  | instant moment =>
    refine ⟨.error (.expectedNumeric slot.key .instant), fun selector isExact => ?_⟩
    cases selector with
    | keyword word => cases isExact
    | exactly whole => rfl

-- A named test asks for the category of what the offset leaves of it.
theorem keyword_tests (host : Host) (tag : String) (slot : Slot) (kind : PluralKind)
    (offset : Int) :
    ∃ outcome : Except FormatError Selector, ∀ selector : Selector,
      selector.keyword?.isSome = true -> selector ≠ .keyword "" ->
        host.callBool (pluralCall tag slot kind offset selector) =
          outcome.map (selector == ·) := by
  refine ⟨(host.category tag slot.key kind offset).map (.keyword ·.keyword), ?_⟩
  intro selector isNamed nonempty
  cases selector with
  | exactly whole => cases isNamed
  | keyword word =>
    rw [callBool_pluralCall_keyword (by simpa using nonempty)]
    cases host.category tag slot.key kind offset <;> rfl

theorem compilePlural_alike (accepts : Selector -> Bool) {inner : PoundField}
    {condition : Selector -> Call} {branches : List Branch}
    (pairs : List.Forall₂ (Branch.Of tag (some inner) condition)
      (clauses.filter (accepts ·.selector)) branches)
    (alike : ChoosesAlike (RunsAlike host tag (some inner)) clauses others) :
    ∃ changed, compilePlural tag inner condition accepts others = .ok changed ∧
      List.Forall₂ (Branch.Of tag (some inner) condition) (others.filter (accepts ·.selector))
        changed := by
  cases recompiled : compilePlural tag inner condition accepts others with
  | ok changed => exact ⟨changed, rfl, compilePlural_ok recompiled⟩
  | error error =>
    obtain ⟨clause, member, kept, failed⟩ := compilePlural_error recompiled
    obtain ⟨body, bodyCompiled⟩ := compiles_of_branches pairs (alike.filter accepts) clause
      (List.mem_filter.mpr ⟨member, kept⟩)
    rw [bodyCompiled] at failed
    cases failed

theorem runsAlike_plural
    (keywords : (Node.plural slot kind offset clauses).KeywordsNonempty)
    (counted : (Node.plural slot kind offset clauses).CountsExactly host.bindings)
    (alike : ChoosesAlike (RunsAlike host tag (some { field := slot.key, offset })) clauses others) :
    RunsAlike host tag pound [.plural slot kind offset clauses] [.plural slot kind offset others] := by
  intro instructions compiled
  rw [compileAll_singleton] at compiled ⊢
  obtain ⟨other, fallback, branches, named, found, fallbackCompiled, exactPairs, namedPairs, rfl⟩ :=
    Node.compile_plural_ok compiled
  obtain ⟨last, lastFound, runs⟩ := alike.first _ other found
  obtain ⟨lastBody, lastCompiled, lastRan⟩ := runs fallback fallbackCompiled
  obtain ⟨changedExact, exactRecompiled, otherExactPairs⟩ :=
    compilePlural_alike (·.number?.isSome) exactPairs alike
  obtain ⟨changedNamed, namedRecompiled, otherNamedPairs⟩ :=
    compilePlural_alike (·.keyword?.any (· != otherKeyword)) namedPairs alike
  refine ⟨chain (changedExact ++ changedNamed) lastBody, ?_, ?_⟩
  · rw [Node.compile, compilePluralOther_eq, lastFound]
    simp [exactRecompiled, namedRecompiled, lastCompiled]
  · obtain ⟨number, exactTests⟩ := exact_tests tag counted
    obtain ⟨category, keywordTests⟩ := keyword_tests host tag slot kind offset
    rw [chain_append]
    have namedTests : ∀ clause ∈ clauses.filter (·.selector.keyword?.any (· != otherKeyword)),
        host.callBool (pluralCall tag slot kind offset clause.selector) =
          category.map (clause.selector == ·) := by
      intro clause member
      obtain ⟨origin, isNamed⟩ := List.mem_filter.mp member
      exact keywordTests clause.selector (Option.isSome_of_any isNamed) (keywords clause origin)
    have namedRan := executeAll_chain_alike namedTests namedPairs otherNamedPairs
      (alike.filter fun selector => selector.keyword?.any (· != otherKeyword)) lastRan
    exact executeAll_chain_alike
      (fun clause member => exactTests clause.selector (List.mem_filter.mp member).2)
      exactPairs otherExactPairs (alike.filter (·.number?.isSome)) namedRan

end Tests

theorem runsAlike_rearranged {body other : List Node} (rearranges : Rearranges body other)
    (keywords : ∀ node ∈ Node.occurringAll body, node.KeywordsNonempty)
    (counted : ∀ node ∈ Node.occurringAll body, node.CountsExactly host.bindings) :
    ∀ pound, RunsAlike host tag pound body other := by
  refine Rearranges.induction_where
    (motive := fun body other => ∀ pound, RunsAlike host tag pound body other)
    ?refl ?select ?plural rearranges
    fun node occurs => And.intro (keywords node occurs) (counted node occurs)
  case refl => exact fun body pound => RunsAlike.refl body
  case select =>
    intro front rest slot clauses others _ alike pound
    have inside := alike.imp fun _ _ _ runs => runs none
    exact RunsAlike.middle front rest (runsAlike_select inside)
  case plural =>
    intro front rest slot kind offset clauses others self alike pound
    have inside (inner : PoundField) := alike.imp fun _ _ _ runs => runs (some inner)
    exact RunsAlike.middle front rest (runsAlike_plural self.1 self.2 (inside _))

theorem Rearranges.keywordsNonempty {body other : List Node} (rearranges : Rearranges body other)
    (keywords : ∀ node ∈ Node.occurringAll body, node.KeywordsNonempty) :
    ∀ node ∈ Node.occurringAll other, node.KeywordsNonempty := by
  refine rearranges.forall_occurring (fun _ _ _ _ _ => trivial) ?plural keywords
  intro slot kind offset clauses others selectors self other member
  obtain ⟨clause, origin, same⟩ := List.mem_map.mp (selectors (List.mem_map_of_mem member))
  exact same ▸ self clause origin

theorem runsAlike_of_rearrangements {body other : List Node}
    (rearranges : Relation.ReflTransGen Rearranges body other)
    (keywords : ∀ node ∈ Node.occurringAll body, node.KeywordsNonempty)
    (counted : ∀ node ∈ Node.occurringAll body, node.CountsExactly host.bindings) :
    RunsAlike host tag pound body other := by
  induction rearranges using Relation.ReflTransGen.head_induction_on with
  | refl => exact RunsAlike.refl other
  | head step _ ih =>
    have first : RunsAlike host tag pound _ _ := runsAlike_rearranged step keywords counted pound
    exact first.trans (ih (step.keywordsNonempty keywords) (step.countsExactly counted))

end Running

/-- Rearranging the clauses of a message changes neither what it is formatted to nor what its
program writes, whichever error that may be. -/
theorem Message.result_of_rearranged {message other : Message} {context : FormatContext}
    (rearranged : message.RearrangedTo other)
    (keywords : ∀ node ∈ message.occurring, node.KeywordsNonempty)
    (counted : ∀ node ∈ message.occurring, node.CountsExactly context.bindings) :
    other.format context = message.format context ∧
    ∀ locale program, message.compile locale = .ok program ->
      ∃ changed, other.compile locale = .ok changed ∧
        ∀ escape, changed.execute { context.host with escape } =
          program.execute { context.host with escape } := by
  refine ⟨formatAll_of_rearrangements rearranged counted, fun locale program compiled => ?_⟩
  obtain ⟨instructions, nodesCompiled, isProgram⟩ := bind_eq_ok.mp compiled
  cases isProgram
  have runs (host : Host) (same : host.bindings = context.bindings) :
      RunsAlike host locale.tag none message.nodes other.nodes :=
    runsAlike_of_rearrangements rearranged keywords (same ▸ counted)
  obtain ⟨changed, recompiled, -⟩ := runs context.host rfl instructions nodesCompiled
  refine ⟨{ locale, instructions := changed }, by rw [Message.compile, recompiled]; rfl, ?_⟩
  intro escape
  -- What the other message compiles to does not depend on who runs it.
  obtain ⟨same, sameCompiled, ran⟩ :=
    runs { context.host with escape } rfl instructions nodesCompiled
  obtain rfl : same = changed := Except.ok.inj (sameCompiled.symm.trans recompiled)
  exact ran

-- The clauses of `guestMessage` in another order. The last one of either choice comes too late.
def crowdedMessage : Message :=
  { nodes := [
      .text "",
      .plural (.name "count") .cardinal 1 [
        { selector := .keyword "other"
          body := [
            .text "", .pound, .text " guests of ",
            .select (.name "host") [
              { selector := "other", body := [.text "#"] },
              { selector := "nobody", body := [.text "no one"] },
              { selector := "other", body := [.text "someone"] }],
            .text ""] },
        { selector := .exactly 0, body := [.text "none but ", .argument (.name "last"), .text ""] },
        { selector := .keyword "one", body := [.text "", .pound, .text " guest"] },
        { selector := .exactly 0, body := [.text "nobody"] }],
      .text ""] }

theorem crowdedMessage_rearranged : crowdedMessage.RearrangedTo guestMessage := by
  refine .head (@Rearranges.inPlural [_] _ _ _ _ [] _ _ _ _
    (@Rearranges.select [_, _, _] _ _ _ _
      (@ClausesRearranged.drop _ [_, _] [] _ _ List.mem_cons_self rfl))) ?_
  refine .head (@Rearranges.inPlural [_] _ _ _ _ [] _ _ _ _
    (@Rearranges.select [_, _, _] _ _ _ _ (.permute (by decide) (.swap _ _ [])))) ?_
  refine .head (@Rearranges.plural [_] _ _ _ _ _ _
    (@ClausesRearranged.drop _ [_, _, _] [] _ _ (.tail _ (.head _)) rfl)) ?_
  exact .single (@Rearranges.plural [_] _ _ _ _ _ _
    (.permute (by decide) (@List.perm_append_comm _ [_, _] [_])))

theorem Message.result_of_rearranged_guests :
    crowdedMessage.format guestArrival = .ok "3 guests of #" ∧
      ∃ program changed, crowdedMessage.compile Locale.english = .ok program ∧
        guestMessage.compile Locale.english = .ok changed ∧
        ∀ escape, changed.execute { guestArrival.host with escape } =
          program.execute { guestArrival.host with escape } := by
  have keywords : ∀ node ∈ crowdedMessage.occurring, node.KeywordsNonempty := by
    simp [crowdedMessage, Message.occurring, Node.KeywordsNonempty]
  have counted : ∀ node ∈ crowdedMessage.occurring, node.CountsExactly guestArrival.bindings := by
    have bindsInteger : ∀ value, guestArrival.bindings.get? (Slot.name "count").key = some value ->
        value.Exact := by
      intro value bound
      cases bound
      exact .integer _
    simpa [crowdedMessage, Message.occurring, Node.CountsExactly] using bindsInteger
  obtain ⟨program, compiled⟩ :
      ∃ program, crowdedMessage.compile Locale.english = .ok program := ⟨_, rfl⟩
  obtain ⟨formatted, executed⟩ :=
    Message.result_of_rearranged crowdedMessage_rearranged keywords counted
  have written : guestMessage.format guestArrival = .ok "3 guests of #" := rfl
  obtain ⟨changed, recompiled, ran⟩ := executed Locale.english program compiled
  exact ⟨formatted.symm.trans written, program, changed, compiled, recompiled, ran⟩

end MessagePattern

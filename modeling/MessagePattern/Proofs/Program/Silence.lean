import Mathlib
import MessagePattern.Formatter
import MessagePattern.Proofs.Pattern.Recognition
import MessagePattern.Proofs.Pattern.WellFormed
import MessagePattern.Proofs.Program.Emission

set_option autoImplicit false

namespace MessagePattern

-- Sequences of nodes that compile into empty texts: empty texts, and choices whose only selector is
-- `other`, with such a sequence as their first body.
inductive Silent : List Node -> Prop
  | nil : Silent []
  | text {rest : List Node} (later : Silent rest) : Silent (.text "" :: rest)
  | select {slot : Slot} {other : Clause String Node} {clauses : List (Clause String Node)}
      {rest : List Node} (only : ∀ clause ∈ other :: clauses, clause.selector = otherKeyword)
      (inside : Silent other.body) (later : Silent rest) :
      Silent (.select slot (other :: clauses) :: rest)
  | plural {slot : Slot} {kind : PluralKind} {offset : Int} {other : Clause Selector Node}
      {clauses : List (Clause Selector Node)} {rest : List Node}
      (only : ∀ clause ∈ other :: clauses, clause.selector = .keyword otherKeyword)
      (inside : Silent other.body) (later : Silent rest) :
      Silent (.plural slot kind offset (other :: clauses) :: rest)

def EmptyTexts (instructions : List Instruction) : Prop :=
  ∀ instruction ∈ instructions, instruction = .text ""

section Running

variable {host : Host}

theorem executeAll_eq_empty_iff {instructions : List Instruction} :
    Instruction.executeAll host instructions = .ok "" ↔
      ∀ instruction ∈ instructions, instruction.execute host = .ok "" := by
  induction instructions with
  | nil => simp [Instruction.executeAll]
  | cons instruction rest ih =>
    rw [List.forall_mem_cons, ← ih]
    simp only [Instruction.executeAll, bind_eq_ok, pure_eq_ok, Except.ok.injEq,
      String.append_eq_empty_iff]
    constructor
    · rintro ⟨text, here, texts, later, rfl, rfl⟩
      exact ⟨here, later⟩
    · rintro ⟨here, later⟩
      exact ⟨"", here, "", later, rfl, rfl⟩

theorem executeAll_of_emptyTexts {instructions : List Instruction}
    (empty : EmptyTexts instructions) : Instruction.executeAll host instructions = .ok "" := by
  refine executeAll_eq_empty_iff.mpr fun instruction member => ?_
  rw [empty instruction member, Instruction.execute]

theorem get?_insert_self (bindings : Bindings) (key : String) (value : Value) :
    (bindings.insert key value).get? key = some value := by
  rw [Bindings.get?_insert, if_pos rfl]

theorem testPlural_truth (environment : Environment) (kind : PluralKind) (tag : String)
    (offset : Int) (field : String) (holds : Bool) (keyword : String) (number : Int) :
    ∃ error, environment.testPlural kind tag offset field (some (.truth holds)) keyword number =
      .error error := by
  unfold Environment.testPlural
  split
  · exact ⟨_, rfl⟩
  · cases environment.readLocale tag with
    | error error => exact ⟨error, rfl⟩
    | ok locale => exact ⟨_, rfl⟩

-- A text makes a field speak, an instant has no text to select on, and a truth value is neither a
-- number nor an instant.
theorem exists_execute_ne {tag : String} {nodes : List Node} {instruction : Instruction}
    (emitted : instruction.From tag nodes) (speaks : instruction ≠ .text "")
    (environment : Environment) :
    ∃ bindings, instruction.execute { bindings, environment, escape := id } ≠ .ok "" := by
  cases emitted with
  | text content =>
    refine ⟨.empty, fun wrote => speaks ?_⟩
    rw [Except.ok.inj wrote]
  | @field slot occurs =>
    refine ⟨Bindings.empty.insert slot.key (.text "x"), ?_⟩
    rw [Instruction.execute, get?_insert_self]
    exact fun wrote => absurd (Except.ok.inj wrote) (show "x" ≠ "" by decide)
  | @dateTime slot kind style occurs =>
    refine ⟨Bindings.empty.insert slot.key (.truth true), ?_⟩
    rw [Instruction.execute, callText_dateTimeCall, get?_insert_self]
    rintro ⟨⟩
  | @pound slot kind offset clauses occurs =>
    refine ⟨Bindings.empty.insert slot.key (.truth true), ?_⟩
    rw [Instruction.execute, callText_pound, get?_insert_self]
    rintro ⟨⟩
  | @select slot clauses clause consequence alternative occurs member =>
    refine ⟨Bindings.empty.insert slot.key (.instant ⟨0, 0⟩), ?_⟩
    rw [Instruction.execute, callBool_selectCall, get?_insert_self]
    rintro ⟨⟩
  | @plural slot kind offset clauses clause consequence alternative occurs member =>
    refine ⟨Bindings.empty.insert slot.key (.truth true), ?_⟩
    rw [Instruction.execute, callBool_pluralCall, get?_insert_self]
    obtain ⟨error, failed⟩ := testPlural_truth environment kind tag offset slot.key true
      (clause.selector.keyword?.getD "") (clause.selector.number?.getD 0)
    rw [failed]
    rintro ⟨⟩

end Running

section Compiling

theorem emptyTexts_append {first second : List Instruction} :
    EmptyTexts (first ++ second) ↔ EmptyTexts first ∧ EmptyTexts second :=
  List.forall_mem_append

theorem emptyTexts_chain {branches : List Branch} {fallback : List Instruction} :
    EmptyTexts (chain branches fallback) ↔ branches = [] ∧ EmptyTexts fallback := by
  cases branches with
  | nil => simp [chain]
  | cons branch rest => simp [chain, EmptyTexts]

theorem forall₂_eq_nil_iff {α β : Type} {related : α -> β -> Prop} {first : List α}
    {second : List β} (pairs : List.Forall₂ related first second) : second = [] ↔ first = [] := by
  cases pairs <;> simp

theorem exists_cons_of_find? {σ : Type} [BEq σ] [LawfulBEq σ] {key : σ}
    {clauses : List (Clause σ Node)} {other : Clause σ Node}
    (found : clauses.find? (·.selector == key) = some other)
    (only : ∀ clause ∈ clauses, clause.selector = key) : ∃ rest, clauses = other :: rest := by
  cases clauses with
  | nil => cases found
  | cons first rest =>
    rw [List.find?_cons_of_pos (by simpa using only first (by simp))] at found
    exact ⟨rest, Option.some.inj found ▸ rfl⟩

theorem silent_select_iff {tag : String} {pound : Option PoundField} {slot : Slot}
    {clauses : List (Clause String Node)} {rest : List Node} {instructions : List Instruction}
    (compiled : (Node.select slot clauses).compile tag pound = .ok instructions)
    (bodies : ∀ clause ∈ clauses, ∀ body, Node.compileAll tag none clause.body = .ok body ->
      (EmptyTexts body ↔ Silent clause.body)) :
    EmptyTexts instructions ∧ Silent rest ↔ Silent (.select slot clauses :: rest) := by
  obtain ⟨other, fallback, branches, found, fallbackCompiled, pairs, rfl⟩ :=
    Node.compile_select_ok compiled
  have body := bodies other (List.mem_of_find?_eq_some found) fallback fallbackCompiled
  have only : branches = [] ↔ ∀ clause ∈ clauses, clause.selector = otherKeyword := by
    rw [forall₂_eq_nil_iff pairs]
    simp
  rw [emptyTexts_chain, only, body]
  constructor
  · rintro ⟨⟨alone, inside⟩, later⟩
    obtain ⟨others, rfl⟩ := exists_cons_of_find? found alone
    exact .select alone inside later
  · rintro (_ | _ | ⟨alone, inside, later⟩)
    rw [List.find?_cons_of_pos (by simpa using alone _ (by simp))] at found
    obtain rfl := Option.some.inj found
    exact ⟨⟨alone, inside⟩, later⟩

theorem selector_eq_other_iff {selector : Selector} :
    selector = .keyword otherKeyword ↔
      ¬ selector.number?.isSome = true ∧ ¬ selector.keyword?.any (· != otherKeyword) = true := by
  cases selector with
  | keyword word => simp [Selector.number?, Selector.keyword?]
  | exactly number => simp [Selector.number?]

theorem silent_plural_iff {tag : String} {pound : Option PoundField} {slot : Slot}
    {kind : PluralKind} {offset : Int} {clauses : List (Clause Selector Node)} {rest : List Node}
    {instructions : List Instruction}
    (compiled : (Node.plural slot kind offset clauses).compile tag pound = .ok instructions)
    (bodies : ∀ clause ∈ clauses, ∀ pound body,
      Node.compileAll tag pound clause.body = .ok body -> (EmptyTexts body ↔ Silent clause.body)) :
    EmptyTexts instructions ∧ Silent rest ↔ Silent (.plural slot kind offset clauses :: rest) := by
  obtain ⟨other, fallback, exact, named, found, fallbackCompiled, exactPairs, namedPairs, rfl⟩ :=
    Node.compile_plural_ok compiled
  have body := bodies other (List.mem_of_find?_eq_some found) _ fallback fallbackCompiled
  have only : exact = [] ∧ named = [] ↔
      ∀ clause ∈ clauses, clause.selector = .keyword otherKeyword := by
    rw [forall₂_eq_nil_iff exactPairs, forall₂_eq_nil_iff namedPairs, List.filter_eq_nil_iff,
      List.filter_eq_nil_iff, ← forall₂_and]
    simp only [selector_eq_other_iff]
  rw [emptyTexts_chain, emptyTexts_chain, body, ← and_assoc, only]
  constructor
  · rintro ⟨⟨alone, inside⟩, later⟩
    obtain ⟨others, rfl⟩ := exists_cons_of_find? found alone
    exact .plural alone inside later
  · rintro (_ | _ | _ | ⟨alone, inside, later⟩)
    rw [List.find?_cons_of_pos (by simpa using alone _ (by simp))] at found
    obtain rfl := Option.some.inj found
    exact ⟨⟨alone, inside⟩, later⟩

theorem silent_text_iff {content : String} {rest : List Node} :
    Silent (.text content :: rest) ↔ content = "" ∧ Silent rest := by
  constructor
  · rintro (_ | later)
    exact ⟨rfl, later⟩
  · rintro ⟨rfl, later⟩
    exact .text later

theorem emptyTexts_iff_silent {tag : String} (nodes : List Node) :
    ∀ pound instructions, Node.compileAll tag pound nodes = .ok instructions ->
      (EmptyTexts instructions ↔ Silent nodes) := by
  induction nodes using Node.induction with
  | nil =>
    intro pound instructions compiled
    cases compiled
    exact iff_of_true (by simp [EmptyTexts]) .nil
  | text content rest ih =>
    intro pound instructions compiled
    obtain ⟨front, back, frontCompiled, backCompiled, rfl⟩ := compileAll_cons_ok compiled
    cases frontCompiled
    rw [emptyTexts_append, ih pound back backCompiled, silent_text_iff]
    simp [EmptyTexts]
  | argument slot rest ih | dateTime slot kind style rest ih =>
    intro pound instructions compiled
    obtain ⟨front, back, frontCompiled, backCompiled, rfl⟩ := compileAll_cons_ok compiled
    cases frontCompiled
    exact iff_of_false (by simp [EmptyTexts]) (by rintro ⟨⟩)
  | select slot clauses rest bodies ih =>
    intro pound instructions compiled
    obtain ⟨front, back, frontCompiled, backCompiled, rfl⟩ := compileAll_cons_ok compiled
    rw [emptyTexts_append, ih pound back backCompiled]
    exact silent_select_iff frontCompiled fun clause member => bodies clause member none
  | plural slot kind offset clauses rest bodies ih =>
    intro pound instructions compiled
    obtain ⟨front, back, frontCompiled, backCompiled, rfl⟩ := compileAll_cons_ok compiled
    rw [emptyTexts_append, ih pound back backCompiled]
    exact silent_plural_iff frontCompiled bodies
  | pound rest ih =>
    intro pound instructions compiled
    obtain ⟨front, back, frontCompiled, backCompiled, rfl⟩ := compileAll_cons_ok compiled
    cases pound with
    | none => cases frontCompiled
    | some field =>
      cases frontCompiled
      exact iff_of_false (by simp [EmptyTexts]) (by rintro ⟨⟩)

theorem Alternates.compileAll {tag : String} {pound : Option PoundField} {nodes : List Node}
    {instructions : List Instruction} (alternates : Alternates nodes)
    (compiled : Node.compileAll tag pound nodes = .ok instructions) :
    ∃ content rest, instructions = .text content :: rest ∧
      (nodes = [.text content] ∧ rest = [] ∨ nodes.length ≠ 1 ∧ rest ≠ []) := by
  induction alternates generalizing instructions with
  | text content =>
    cases compiled
    exact ⟨content, [], rfl, .inl ⟨rfl, rfl⟩⟩
  | @cons content node nodes _ _ ih =>
    obtain ⟨_, later, textCompiled, laterCompiled, rfl⟩ := compileAll_cons_ok compiled
    obtain ⟨front, back, _, backCompiled, rfl⟩ := compileAll_cons_ok laterCompiled
    cases textCompiled
    obtain ⟨next, rest, rfl, _⟩ := ih backCompiled
    exact ⟨content, front ++ .text next :: rest, rfl, .inr ⟨by simp, by simp⟩⟩

end Compiling

section

variable {limit : Nat} {pattern : String} {message : Message} {locale : Locale} {program : Program}

theorem Program.isEmpty_iff (parsed : Message.parse limit pattern = .ok message)
    (compiled : message.compile locale = .ok program) :
    program.isEmpty = true ↔ message.nodes = [.text ""] := by
  have alternates := (Message.spelled_of_parse parsed).1.wellFormed.1
  obtain ⟨content, rest, same, shape⟩ :=
    alternates.compileAll (Message.compileAll_of_compile compiled)
  rcases shape with ⟨alone, rfl⟩ | ⟨more, others⟩
  · simp [Program.isEmpty, same, alone]
  · have notAlone : message.nodes ≠ [.text ""] := fun alone => more (by simp [alone])
    obtain ⟨next, later, rfl⟩ := List.exists_cons_of_ne_nil others
    simp [Program.isEmpty, same, notAlone]

theorem Message.emptyTexts_of_execute (compiled : message.compile locale = .ok program)
    {environment : Environment}
    (quiet : ∀ bindings, program.execute { bindings, environment, escape := id } = .ok "") :
    EmptyTexts program.instructions := by
  intro instruction member
  by_contra speaks
  have emitted := Message.from_of_compile compiled instruction member _ (.self _)
  obtain ⟨bindings, differs⟩ := exists_execute_ne emitted speaks environment
  exact differs (executeAll_eq_empty_iff.mp (quiet bindings) instruction member)

/-- A program writes nothing for all bindings just when its message is silent. It is empty on the face
of it just when that message, moreover, is a single text. -/
theorem Program.silent_iff (parsed : Message.parse limit pattern = .ok message)
    (compiled : message.compile locale = .ok program) :
    (program.isEmpty = true ↔ message.nodes.length = 1 ∧ Silent message.nodes) ∧
    (Silent message.nodes -> ∀ host, program.execute host = .ok "") ∧
    ∀ environment,
      (∀ bindings, program.execute { bindings, environment, escape := id } = .ok "") ->
        Silent message.nodes := by
  have silent := emptyTexts_iff_silent message.nodes none program.instructions
    (Message.compileAll_of_compile compiled)
  refine ⟨?_, fun isSilent host => executeAll_of_emptyTexts (silent.mpr isSilent),
    fun environment quiet => silent.mp (Message.emptyTexts_of_execute compiled quiet)⟩
  rw [Program.isEmpty_iff parsed compiled]
  constructor
  · intro alone
    rw [alone]
    exact ⟨rfl, .text .nil⟩
  · rintro ⟨single, isSilent⟩
    obtain ⟨node, alone⟩ := List.length_eq_one_iff.mp single
    have alternates := (Message.spelled_of_parse parsed).1.wellFormed.1
    rw [alone] at alternates isSilent ⊢
    cases alternates
    rw [(silent_text_iff.mp isSilent).1]

end

-- `{x, select, other {}}`.
def silentMessage : Message :=
  { nodes := [
      .text "",
      .select (.name "x") [{ selector := "other", body := [.text ""] }],
      .text ""] }

def silentPattern : String :=
  "\x7bx, select, other \x7b\x7d\x7d"

theorem silentMessage_parsed : Message.parse 64 silentPattern = .ok silentMessage := by
  cbv

theorem silentMessage_silent : Silent silentMessage.nodes :=
  .text (.select (by simp [otherKeyword]) (.text .nil) (.text .nil))

theorem Program.silent_iff_onlyOther :
    ∃ program, Message.parse 64 silentPattern = .ok silentMessage ∧
      silentMessage.compile Locale.english = .ok program ∧ program.isEmpty = false ∧
      ∀ host, program.execute host = .ok "" := by
  obtain ⟨program, compiled⟩ :
      ∃ program, silentMessage.compile Locale.english = .ok program := ⟨_, rfl⟩
  obtain ⟨onItsFace, quiet, -⟩ := Program.silent_iff silentMessage_parsed compiled
  refine ⟨program, silentMessage_parsed, compiled, ?_, quiet silentMessage_silent⟩
  rw [Bool.eq_false_iff, Ne, onItsFace]
  simp [silentMessage]

theorem Program.isEmpty_not_exact :
    ¬ ∀ limit pattern message locale program, Message.parse limit pattern = .ok message ->
      message.compile locale = .ok program ->
      (program.isEmpty = true ↔ ∀ bindings,
        program.execute { bindings, environment := .standard, escape := id } = .ok "") := by
  intro exact
  obtain ⟨program, compiled⟩ :
      ∃ program, silentMessage.compile Locale.english = .ok program := ⟨_, rfl⟩
  have empty := (emptyTexts_iff_silent silentMessage.nodes none program.instructions
    (Message.compileAll_of_compile compiled)).mpr silentMessage_silent
  have isEmpty := (exact _ _ _ _ _ silentMessage_parsed compiled).mpr
    fun _ => executeAll_of_emptyTexts empty
  have alone := (Program.isEmpty_iff silentMessage_parsed compiled).mp isEmpty
  simp [silentMessage] at alone

end MessagePattern

import Mathlib.Data.List.Forall2
import MessagePattern.Formatter
import MessagePattern.Proofs.Program.Instructions

set_option autoImplicit false

namespace MessagePattern

inductive Segment
  | literal (content : String)
  | substituted (value : String)
deriving DecidableEq, Repr

def Segment.write (escape : String -> String) : Segment -> String
  | .literal content => content
  | .substituted value => escape value

def writeAll (escape : String -> String) : List Segment -> String
  | [] => ""
  | segment :: rest => segment.write escape ++ writeAll escape rest

theorem writeAll_append (escape : String -> String) (first second : List Segment) :
    writeAll escape (first ++ second) = writeAll escape first ++ writeAll escape second := by
  induction first with
  | nil => simp [writeAll]
  | cons segment rest ih => simp [writeAll, ih, String.append_assoc]

section

variable (environment : Environment) (bindings : Bindings)

mutual

def Instruction.path : Instruction -> List Instruction
  | .text content => [.text content]
  | .field name => [.field name]
  | .call callee => [.call callee]
  | .ifElse condition consequence alternative =>
      match environment.invoke bindings condition with
      | .ok (.bool true) => Instruction.pathAll consequence
      | .ok (.bool false) => Instruction.pathAll alternative
      | _ => []

def Instruction.pathAll : List Instruction -> List Instruction
  | [] => []
  | instruction :: rest => instruction.path ++ Instruction.pathAll rest

end

def Program.path (program : Program) : List Instruction :=
  Instruction.pathAll environment bindings program.instructions

inductive Instruction.Writes : Instruction -> Segment -> Prop
  | text (content : String) : Writes (.text content) (.literal content)
  | field {name value : String} (printed : printField name (bindings.get? name) = .ok value) :
      Writes (.field name) (.substituted value)
  | call {callee : Call} {value : String}
      (answered : environment.invoke bindings callee = .ok (.text value)) :
      Writes (.call callee) (.substituted value)

def Segmented (instructions : List Instruction) : Prop :=
  (∃ error, ∀ escape,
    Instruction.executeAll { bindings, environment, escape } instructions = .error error) ∨
  ∃ segments,
    List.Forall₂ (Instruction.Writes environment bindings)
      (Instruction.pathAll environment bindings instructions) segments ∧
    ∀ escape, Instruction.executeAll { bindings, environment, escape } instructions =
      .ok (writeAll escape segments)

end

section

variable {environment : Environment} {bindings : Bindings}

theorem callText_eq_ok {escape : String -> String} {callee : Call} {value : String} :
    Host.callText { bindings, environment, escape } callee = .ok value ↔
      environment.invoke bindings callee = .ok (.text value) := by
  unfold Host.callText
  cases environment.invoke bindings callee with
  | error error => simp
  | ok output => cases output <;> simp [throw, throwThe, MonadExceptOf.throw]

theorem callBool_eq_ok {escape : String -> String} {condition : Call} {holds : Bool} :
    Host.callBool { bindings, environment, escape } condition = .ok holds ↔
      environment.invoke bindings condition = .ok (.bool holds) := by
  unfold Host.callBool
  cases environment.invoke bindings condition with
  | error error => simp
  | ok output => cases output <;> simp [throw, throwThe, MonadExceptOf.throw]

@[simp] theorem pathAll_singleton (instruction : Instruction) :
    Instruction.pathAll environment bindings [instruction] =
      instruction.path environment bindings := by
  simp [Instruction.pathAll]

theorem mem_pathAll (instructions : List Instruction) :
    ∀ instruction ∈ Instruction.pathAll environment bindings instructions,
      ∃ top ∈ instructions, top.Contains instruction := by
  induction instructions using Instruction.induction with
  | nil => simp [Instruction.pathAll]
  | cons first rest single ih =>
    intro instruction met
    rcases List.mem_append.mp met with here | later
    · obtain ⟨top, member, inside⟩ := single instruction (by rwa [pathAll_singleton])
      exact ⟨top, List.mem_cons.mpr (.inl (List.mem_singleton.mp member)), inside⟩
    · exact List.exists_mem_cons_of_exists (ih instruction later)
  | text content => simpa [Instruction.path] using .self _
  | field name => simpa [Instruction.path] using .self _
  | call callee => simpa [Instruction.path] using .self _
  | ifElse condition consequence alternative inConsequence inAlternative =>
    intro instruction met
    refine ⟨_, List.mem_singleton.mpr rfl, ?_⟩
    rw [pathAll_singleton, Instruction.path] at met
    split at met
    next =>
      obtain ⟨top, member, inside⟩ := inConsequence instruction met
      exact .consequence member inside
    next =>
      obtain ⟨top, member, inside⟩ := inAlternative instruction met
      exact .alternative member inside
    next => cases met

theorem Everywhere.onPath {holds : Instruction -> Prop} {instructions : List Instruction}
    (all : Everywhere holds instructions) :
    ∀ instruction ∈ Instruction.pathAll environment bindings instructions, holds instruction := by
  intro instruction met
  obtain ⟨top, member, inside⟩ := mem_pathAll instructions instruction met
  exact all top member instruction inside

namespace Segmented

theorem of_same {instructions others : List Instruction}
    (samePath : Instruction.pathAll environment bindings instructions =
      Instruction.pathAll environment bindings others)
    (sameRun : ∀ escape,
      Instruction.executeAll { bindings, environment, escape } instructions =
        Instruction.executeAll { bindings, environment, escape } others)
    (segmented : Segmented environment bindings others) :
    Segmented environment bindings instructions := by
  simpa only [Segmented, samePath, sameRun] using segmented

theorem cons {instruction : Instruction} {rest : List Instruction}
    (here : Segmented environment bindings [instruction])
    (later : Segmented environment bindings rest) :
    Segmented environment bindings (instruction :: rest) := by
  simp only [Segmented, executeAll_singleton, pathAll_singleton] at here
  rcases here with ⟨error, fails⟩ | ⟨segments, writes, runs⟩
  · exact .inl ⟨error, fun escape => by simp [Instruction.executeAll, fails]⟩
  rcases later with ⟨error, restFails⟩ | ⟨others, othersWrite, othersRun⟩
  · exact .inl ⟨error, fun escape => by simp [Instruction.executeAll, runs, restFails]⟩
  · refine .inr ⟨segments ++ others, List.rel_append writes othersWrite, fun escape => ?_⟩
    simp [Instruction.executeAll, runs, othersRun, writeAll_append]

-- What is put in place is found before it is escaped.
theorem substituted {leaf : Instruction} (found : Except FormatError String)
    (path : leaf.path environment bindings = [leaf])
    (executes : ∀ escape, leaf.execute { bindings, environment, escape } = found.map escape)
    (writes : ∀ value, found = .ok value ->
      leaf.Writes environment bindings (.substituted value)) :
    Segmented environment bindings [leaf] := by
  simp only [Segmented, executeAll_singleton, pathAll_singleton, path, executes]
  cases found with
  | error error => exact .inl ⟨error, fun _ => rfl⟩
  | ok value =>
    refine .inr ⟨[.substituted value], .cons (writes value rfl) .nil, fun escape => ?_⟩
    simp [Except.map, writeAll, Segment.write]

end Segmented

theorem segmented (instructions : List Instruction) :
    Segmented environment bindings instructions := by
  induction instructions using Instruction.induction with
  | nil => exact .inr ⟨[], .nil, fun _ => rfl⟩
  | cons instruction rest single ih => exact .cons single ih
  | text content =>
    refine .inr ⟨[.literal content], .cons (.text content) .nil, fun escape => ?_⟩
    simp [Instruction.execute, writeAll, Segment.write]
  | field name =>
    exact .substituted (printField name (bindings.get? name)) rfl (fun _ => rfl)
      fun _ printed => .field printed
  | call callee =>
    -- What a call answers does not depend on the escape function.
    exact .substituted (Host.callText { bindings, environment, escape := id } callee) rfl
      (fun _ => rfl) fun _ answered => .call (callText_eq_ok.mp answered)
  | ifElse condition consequence alternative inConsequence inAlternative =>
    -- Nor does what a test comes to.
    cases tested : Host.callBool { bindings, environment, escape := id } condition with
    | error error =>
      refine .inl ⟨error, fun escape => ?_⟩
      have fails : Host.callBool { bindings, environment, escape } condition = .error error := tested
      simp [Instruction.execute, fails]
    | ok holds =>
      have answered := callBool_eq_ok.mp tested
      have holdsFor (escape : String -> String) :
          Host.callBool { bindings, environment, escape } condition = .ok holds :=
        callBool_eq_ok.mpr answered
      cases holds with
      | true =>
        refine .of_same ?_ (fun escape => ?_) inConsequence
        · simp [Instruction.path, answered]
        · simp [Instruction.execute, holdsFor]
      | false =>
        refine .of_same ?_ (fun escape => ?_) inAlternative
        · simp [Instruction.path, answered]
        · simp [Instruction.execute, holdsFor]

end

theorem executeAll_escape {host : Host} (escape : String -> String)
    (instructions : List Instruction) :
    ∀ text, Instruction.executeAll host instructions = .ok text ->
      ∃ escaped, Instruction.executeAll { host with escape } instructions = .ok escaped := by
  intro text executed
  have segmented : Segmented host.environment host.bindings instructions := segmented instructions
  rcases segmented with ⟨error, fails⟩ | ⟨segments, _, runs⟩
  · cases executed.symm.trans (fails host.escape)
  · exact ⟨_, runs escape⟩

theorem Program.execute_segments (program : Program) (environment : Environment)
    (bindings : Bindings) :
    (∀ instruction ∈ program.path environment bindings,
      ∃ top ∈ program.instructions, top.Contains instruction) ∧
    ((∃ error, ∀ escape, program.execute { bindings, environment, escape } = .error error) ∨
      ∃ segments,
        List.Forall₂ (Instruction.Writes environment bindings) (program.path environment bindings)
          segments ∧
        ∀ escape, program.execute { bindings, environment, escape } =
          .ok (writeAll escape segments)) :=
  ⟨mem_pathAll program.instructions, segmented program.instructions⟩

def cardProgram : Program :=
  { locale := Locale.english
    instructions := [
      .text "<a title=\"", .field "title", .text "\">",
      .ifElse (selectCall (.name "kind") "new") [.text "<b>new</b>"] [.field "title"],
      .text "</a>"] }

-- The title is a text that looks like markup, and like an entity.
def cardBindings : Bindings :=
  Bindings.ofList [("title", .text "&lt;i> \"Tom\" & 'Jerry'"), ("kind", .text "old")]

theorem Program.execute_segments_card :
    ∃ segments,
      List.Forall₂ (Instruction.Writes Environment.standard cardBindings)
        (cardProgram.path Environment.standard cardBindings) segments ∧
      segments.length = 5 ∧
      ∀ escape,
        cardProgram.execute { bindings := cardBindings, environment := .standard, escape } =
          .ok (writeAll escape segments) := by
  have path : (cardProgram.path Environment.standard cardBindings).length = 5 := rfl
  have ran : (cardProgram.execute
      { bindings := cardBindings, environment := .standard, escape := id }).isOk := rfl
  obtain ⟨error, fails⟩ | ⟨segments, writes, runs⟩ :=
    (Program.execute_segments cardProgram Environment.standard cardBindings).2
  · rw [fails id] at ran
    cases ran
  · exact ⟨segments, writes, writes.length_eq ▸ path, runs⟩

end MessagePattern

import Mathlib.Data.List.Basic
import MessagePattern.Proofs.Program.Calls

set_option autoImplicit false

namespace MessagePattern

theorem Instruction.induction {motive : List Instruction -> Prop}
    (nil : motive [])
    (cons : ∀ instruction rest, motive [instruction] -> motive rest ->
      motive (instruction :: rest))
    (text : ∀ content, motive [.text content])
    (field : ∀ name, motive [.field name])
    (call : ∀ callee, motive [.call callee])
    (ifElse : ∀ condition consequence alternative, motive consequence -> motive alternative ->
      motive [.ifElse condition consequence alternative])
    (instructions : List Instruction) : motive instructions :=
  @Instruction.rec_1 (fun instruction => motive [instruction]) motive text field call ifElse nil
    cons instructions

inductive Instruction.Contains : Instruction -> Instruction -> Prop
  | self (instruction : Instruction) : Contains instruction instruction
  | consequence {condition : Call} {consequence alternative : List Instruction}
      {top instruction : Instruction} (member : top ∈ consequence)
      (inside : Contains top instruction) :
      Contains (.ifElse condition consequence alternative) instruction
  | alternative {condition : Call} {consequence alternative : List Instruction}
      {top instruction : Instruction} (member : top ∈ alternative)
      (inside : Contains top instruction) :
      Contains (.ifElse condition consequence alternative) instruction

def Everywhere (holds : Instruction -> Prop) (instructions : List Instruction) : Prop :=
  ∀ top ∈ instructions, ∀ instruction, top.Contains instruction -> holds instruction

section Everywhere

variable {holds : Instruction -> Prop}

@[simp] theorem everywhere_nil : Everywhere holds [] := by
  simp [Everywhere]

theorem everywhere_append {first second : List Instruction} :
    Everywhere holds (first ++ second) ↔ Everywhere holds first ∧ Everywhere holds second :=
  List.forall_mem_append

@[simp] theorem everywhere_cons_cons {first second : Instruction} {rest : List Instruction} :
    Everywhere holds (first :: second :: rest) ↔
      Everywhere holds [first] ∧ Everywhere holds (second :: rest) :=
  @everywhere_append holds [first] (second :: rest)

theorem everywhere_leaf {leaf : Instruction}
    (alone : ∀ instruction, leaf.Contains instruction -> instruction = leaf) :
    Everywhere holds [leaf] ↔ holds leaf := by
  unfold Everywhere
  rw [List.forall_mem_singleton]
  exact ⟨fun inside => inside leaf (.self leaf),
    fun here instruction within => alone instruction within ▸ here⟩

@[simp] theorem everywhere_text {content : String} :
    Everywhere holds [.text content] ↔ holds (.text content) :=
  everywhere_leaf (by rintro _ ⟨⟩; rfl)

@[simp] theorem everywhere_field {name : String} :
    Everywhere holds [.field name] ↔ holds (.field name) :=
  everywhere_leaf (by rintro _ ⟨⟩; rfl)

@[simp] theorem everywhere_call {callee : Call} :
    Everywhere holds [.call callee] ↔ holds (.call callee) :=
  everywhere_leaf (by rintro _ ⟨⟩; rfl)

@[simp] theorem everywhere_ifElse {condition : Call} {consequence alternative : List Instruction} :
    Everywhere holds [.ifElse condition consequence alternative] ↔
      holds (.ifElse condition consequence alternative) ∧ Everywhere holds consequence ∧
        Everywhere holds alternative := by
  unfold Everywhere
  rw [List.forall_mem_singleton]
  constructor
  · intro inside
    refine ⟨inside _ (.self _), ?_, ?_⟩
    · exact fun top member instruction within => inside _ (.consequence member within)
    · exact fun top member instruction within => inside _ (.alternative member within)
  · rintro ⟨here, inConsequence, inAlternative⟩ instruction
      (_ | ⟨member, within⟩ | ⟨member, within⟩)
    · exact here
    · exact inConsequence _ member _ within
    · exact inAlternative _ member _ within

end Everywhere

def Instruction.Fails (host : Host) (instruction : Instruction) (error : FormatError) : Prop :=
  match instruction with
  | .text _ => False
  | .field name => printField name (host.bindings.get? name) = .error error
  | .call callee => host.callText callee = .error error
  | .ifElse condition _ _ => host.callBool condition = .error error

theorem fails_of_executeAll {host : Host} (instructions : List Instruction) :
    ∀ error, Instruction.executeAll host instructions = .error error ->
      ∃ top ∈ instructions, ∃ instruction, top.Contains instruction ∧
        instruction.Fails host error := by
  induction instructions using Instruction.induction with
  | nil =>
    intro error failed
    cases failed
  | cons instruction rest single ih =>
    intro error failed
    rw [List.exists_mem_cons_iff]
    rw [Instruction.executeAll] at failed
    rcases bind_eq_error.mp failed with failed | ⟨text, _, failed⟩
    · left
      simpa using single error (by rwa [executeAll_singleton])
    rcases bind_eq_error.mp failed with failed | ⟨texts, _, failed⟩
    · exact .inr (ih error failed)
    · cases failed
  | text content =>
    intro error failed
    rw [executeAll_singleton] at failed
    cases failed
  | field name =>
    intro error failed
    rw [executeAll_singleton, Instruction.execute, map_eq_error] at failed
    exact ⟨_, List.mem_singleton.mpr rfl, _, .self _, failed⟩
  | call callee =>
    intro error failed
    rw [executeAll_singleton, Instruction.execute, map_eq_error] at failed
    exact ⟨_, List.mem_singleton.mpr rfl, _, .self _, failed⟩
  | ifElse condition consequence alternative inConsequence inAlternative =>
    intro error failed
    refine ⟨_, List.mem_singleton.mpr rfl, ?_⟩
    rw [executeAll_singleton, Instruction.execute] at failed
    cases tested : host.callBool condition with
    | error reason =>
      simp only [tested] at failed
      cases failed
      exact ⟨_, .self _, tested⟩
    | ok holds =>
      cases holds with
      | true =>
        simp only [tested] at failed
        obtain ⟨top, member, instruction, inside, fails⟩ := inConsequence error failed
        exact ⟨instruction, .consequence member inside, fails⟩
      | false =>
        simp only [tested] at failed
        obtain ⟨top, member, instruction, inside, fails⟩ := inAlternative error failed
        exact ⟨instruction, .alternative member inside, fails⟩

def Instruction.SameFor (first second : Host) : Instruction -> Prop
  | .ifElse condition _ _ => first.callBool condition = second.callBool condition
  | leaf => leaf.execute first = leaf.execute second

theorem executeAll_congr {first second : Host} (instructions : List Instruction) :
    Everywhere (·.SameFor first second) instructions ->
      Instruction.executeAll first instructions = Instruction.executeAll second instructions := by
  induction instructions using Instruction.induction with
  | nil => exact fun _ => rfl
  | cons instruction rest single ih =>
    intro same
    obtain ⟨here, inRest⟩ := everywhere_append.mp (List.singleton_append ▸ same)
    have sameHere := single here
    rw [executeAll_singleton, executeAll_singleton] at sameHere
    rw [Instruction.executeAll, Instruction.executeAll, sameHere, ih inRest]
  | text content => exact fun _ => rfl
  | field name =>
    intro same
    rw [executeAll_singleton, executeAll_singleton]
    exact same _ (List.mem_singleton.mpr rfl) _ (.self _)
  | call callee =>
    intro same
    rw [executeAll_singleton, executeAll_singleton]
    exact same _ (List.mem_singleton.mpr rfl) _ (.self _)
  | ifElse condition consequence alternative inConsequence inAlternative =>
    intro same
    obtain ⟨sameTest, consequenceSame, alternativeSame⟩ := everywhere_ifElse.mp same
    rw [executeAll_singleton, executeAll_singleton, Instruction.execute, Instruction.execute,
      show first.callBool condition = second.callBool condition from sameTest,
      inConsequence consequenceSame, inAlternative alternativeSame]

end MessagePattern

import MessagePattern.Proofs.Program.Instructions

set_option autoImplicit false

namespace MessagePattern

def joinText (content : String) : List Instruction -> List Instruction
  | .text more :: rest => .text (content ++ more) :: rest
  | block => if content = "" then block else .text content :: block

mutual

-- Puts an instruction in front of a block, and merges texts within it and where the two meet.
def Instruction.mergeOnto (block : List Instruction) : Instruction -> List Instruction
  | .text content => joinText content block
  | .field name => .field name :: block
  | .call callee => .call callee :: block
  | .ifElse condition consequence alternative =>
      .ifElse condition (Instruction.mergeAllOnto [] consequence)
        (Instruction.mergeAllOnto [] alternative) :: block

def Instruction.mergeAllOnto (block : List Instruction) : List Instruction -> List Instruction
  | [] => block
  | instruction :: rest => instruction.mergeOnto (Instruction.mergeAllOnto block rest)

end

def Program.merged (program : Program) : List Instruction :=
  Instruction.mergeAllOnto [] program.instructions

def BeginsText (instructions : List Instruction) : Prop :=
  ∃ content rest, instructions = .text content :: rest

inductive Merged : List Instruction -> Prop
  | nil : Merged []
  | text {content : String} {rest : List Instruction} (nonempty : content ≠ "")
      (unjoined : ¬ BeginsText rest) (later : Merged rest) : Merged (.text content :: rest)
  | field {name : String} {rest : List Instruction} (later : Merged rest) :
      Merged (.field name :: rest)
  | call {callee : Call} {rest : List Instruction} (later : Merged rest) :
      Merged (.call callee :: rest)
  | ifElse {condition : Call} {consequence alternative rest : List Instruction}
      (inConsequence : Merged consequence) (inAlternative : Merged alternative)
      (later : Merged rest) : Merged (.ifElse condition consequence alternative :: rest)

section Joining

theorem joinText_of_not_beginsText {block : List Instruction} (unjoined : ¬ BeginsText block)
    (content : String) :
    joinText content block = if content = "" then block else .text content :: block := by
  unfold joinText
  split
  next more rest => exact absurd ⟨more, rest, rfl⟩ unjoined
  next => rfl

theorem joinText_joinText (first second : String) (block : List Instruction) :
    joinText first (joinText second block) = joinText (first ++ second) block := by
  by_cases begins : BeginsText block
  · obtain ⟨content, rest, rfl⟩ := begins
    simp [joinText, String.append_assoc]
  · rw [joinText_of_not_beginsText begins, joinText_of_not_beginsText begins]
    by_cases empty : second = ""
    · simp [empty, joinText_of_not_beginsText begins]
    · simp [empty, joinText]

theorem Merged.joinText {block : List Instruction} (merged : Merged block) (content : String) :
    Merged (joinText content block) := by
  by_cases begins : BeginsText block
  · obtain ⟨more, rest, rfl⟩ := begins
    rcases merged with _ | ⟨nonempty, unjoined, later⟩
    exact .text (by simp [nonempty]) unjoined later
  · rw [joinText_of_not_beginsText begins]
    split
    next => exact merged
    next nonempty => exact .text nonempty begins merged

theorem executeAll_joinText (host : Host) (content : String) (block : List Instruction) :
    Instruction.executeAll host (joinText content block) =
      Instruction.executeAll host (.text content :: block) := by
  by_cases begins : BeginsText block
  · obtain ⟨more, rest, rfl⟩ := begins
    simp only [joinText, Instruction.executeAll, Instruction.execute, ok_bind, bind_assoc, pure_bind]
    simp [String.append_assoc]
  · rw [joinText_of_not_beginsText begins]
    split
    next empty =>
      cases executed : Instruction.executeAll host block <;>
        simp [Instruction.executeAll, Instruction.execute, empty, executed]
    next => rfl

end Joining

theorem merged_mergeAllOnto (instructions : List Instruction) :
    ∀ block, Merged block -> Merged (Instruction.mergeAllOnto block instructions) := by
  induction instructions using Instruction.induction with
  | nil => exact fun _ merged => merged
  | cons instruction rest single ih => exact fun block merged => single _ (ih block merged)
  | text content => exact fun _ merged => merged.joinText content
  | field name => exact fun _ merged => .field merged
  | call callee => exact fun _ merged => .call merged
  | ifElse condition consequence alternative inConsequence inAlternative =>
    exact fun _ merged => .ifElse (inConsequence [] .nil) (inAlternative [] .nil) merged

theorem Merged.mergeAllOnto {instructions : List Instruction} (merged : Merged instructions) :
    Instruction.mergeAllOnto [] instructions = instructions := by
  induction merged with
  | nil => rfl
  | text nonempty unjoined _ ih =>
    rw [Instruction.mergeAllOnto, ih, Instruction.mergeOnto, joinText_of_not_beginsText unjoined,
      if_neg nonempty]
  | field _ ih | call _ ih => rw [Instruction.mergeAllOnto, ih, Instruction.mergeOnto]
  | ifElse _ _ _ inConsequence inAlternative ih =>
    rw [Instruction.mergeAllOnto, ih, Instruction.mergeOnto, inConsequence, inAlternative]

theorem executeAll_mergeAllOnto (host : Host) (instructions : List Instruction) :
    ∀ block, Instruction.executeAll host (Instruction.mergeAllOnto block instructions) =
      Instruction.executeAll host (instructions ++ block) := by
  induction instructions using Instruction.induction with
  | nil => exact fun _ => rfl
  | cons instruction rest single ih =>
    intro block
    have here := single (Instruction.mergeAllOnto block rest)
    rw [executeAll_append, ih, ← executeAll_append] at here
    exact here
  | text content => exact executeAll_joinText host content
  | field name => exact fun _ => rfl
  | call callee => exact fun _ => rfl
  | ifElse condition consequence alternative inConsequence inAlternative =>
    intro block
    have consequenceSame := inConsequence []
    have alternativeSame := inAlternative []
    rw [List.append_nil] at consequenceSame alternativeSame
    simp only [Instruction.mergeAllOnto, Instruction.mergeOnto, List.singleton_append,
      Instruction.executeAll, Instruction.execute, consequenceSame, alternativeSame]

/-- The merged form of a program is merged, is the program if that is merged already, and does what
the program does. -/
theorem Program.merged_spec (program : Program) :
    Merged program.merged ∧ (Merged program.instructions -> program.merged = program.instructions) ∧
      ∀ host, Instruction.executeAll host program.merged = program.execute host := by
  refine ⟨merged_mergeAllOnto program.instructions [] .nil, Merged.mergeAllOnto, fun host => ?_⟩
  rw [Program.merged, executeAll_mergeAllOnto, List.append_nil, Program.execute]

end MessagePattern

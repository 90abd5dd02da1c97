import MessagePattern.Message

set_option autoImplicit false

namespace MessagePattern

mutual

def Node.depth : Node -> Nat
  | .text _ | .argument _ | .dateTime _ _ _ | .pound => 0
  | .select _ clauses => selectDepth clauses
  | .plural _ _ _ clauses => pluralDepth clauses

def bodyDepth : List Node -> Nat
  | [] => 1
  | node :: rest => max (node.depth + 1) (bodyDepth rest)

def selectDepth : List (Clause String Node) -> Nat
  | [] => 0
  | ⟨_, body⟩ :: rest => max (bodyDepth body) (selectDepth rest)

def pluralDepth : List (Clause Selector Node) -> Nat
  | [] => 0
  | ⟨_, body⟩ :: rest => max (bodyDepth body) (pluralDepth rest)

end

def Message.depth (message : Message) : Nat :=
  bodyDepth message.nodes

theorem bodyDepth_pos (nodes : List Node) : 0 < bodyDepth nodes := by
  induction nodes with
  | nil => decide
  | cons node rest ih =>
    rw [bodyDepth]
    omega

theorem bodyDepth_append (first second : List Node) :
    bodyDepth (first ++ second) = max (bodyDepth first) (bodyDepth second) := by
  induction first with
  | nil =>
    -- A body with nothing in it is as deep as any body at least.
    have least := bodyDepth_pos second
    rw [List.nil_append, bodyDepth]
    omega
  | cons node rest ih =>
    rw [List.cons_append, bodyDepth, bodyDepth, ih]
    omega

end MessagePattern

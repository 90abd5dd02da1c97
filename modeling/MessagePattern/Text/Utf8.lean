set_option autoImplicit false

namespace MessagePattern

def utf8Length : List Char -> Nat
  | [] => 0
  | character :: rest => character.utf8Size + utf8Length rest

@[simp] theorem utf8Length_nil : utf8Length [] = 0 := rfl

@[simp] theorem utf8Length_cons (character : Char) (rest : List Char) :
    utf8Length (character :: rest) = character.utf8Size + utf8Length rest := rfl

@[simp] theorem utf8Length_append (first second : List Char) :
    utf8Length (first ++ second) = utf8Length first + utf8Length second := by
  induction first with
  | nil => simp
  | cons character rest ih => simp [ih, Nat.add_assoc]

def IsBoundary (source : List Char) (offset : Nat) : Prop :=
  ∃ before after, source = before ++ after ∧ utf8Length before = offset

theorem IsBoundary.le {source : List Char} {offset : Nat} (boundary : IsBoundary source offset) :
    offset ≤ utf8Length source := by
  obtain ⟨before, after, rfl, rfl⟩ := boundary
  rw [utf8Length_append]
  omega

theorem IsBoundary.append_left {rest : List Char} {offset : Nat} (boundary : IsBoundary rest offset)
    (slice : List Char) : IsBoundary (slice ++ rest) (utf8Length slice + offset) := by
  obtain ⟨before, after, rfl, rfl⟩ := boundary
  exact ⟨slice ++ before, after, (List.append_assoc ..).symm, utf8Length_append ..⟩

theorem IsBoundary.append_right {source : List Char} {offset : Nat}
    (boundary : IsBoundary source offset) (more : List Char) :
    IsBoundary (source ++ more) offset := by
  obtain ⟨before, after, rfl, same⟩ := boundary
  exact ⟨before, after ++ more, List.append_assoc .., same⟩

def takeBytes : List Char -> Nat -> Option (List Char)
  | _, 0 => some []
  | [], _ + 1 => none
  | character :: rest, offset + 1 =>
      if character.utf8Size <= offset + 1 then
        (takeBytes rest (offset + 1 - character.utf8Size)).map (character :: ·)
      else
        none

end MessagePattern

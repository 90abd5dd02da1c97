set_option autoImplicit false

namespace MessagePattern

-- Whether the code point of a character lies in one of the ranges. Ranges ascend, so the search
-- ends at the first one that starts above it.
def inRanges : List (Nat × Nat) -> Char -> Bool
  | [], _ => false
  | (low, high) :: rest, character =>
      low <= character.toNat && (character.toNat <= high || inRanges rest character)

end MessagePattern

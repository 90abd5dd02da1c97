import MessagePattern.Proofs.Pattern.Soundness

set_option autoImplicit false

namespace MessagePattern

open Draft

theorem Message.parse_of_spelled {limit : Nat} {message : Message} {pattern : String}
    (spelled : message.SpelledBy pattern) (within : message.depth ≤ limit) :
    Message.parse limit pattern = .ok message := by
  have positive : limit ≠ 0 := by
    have room := Nat.lt_of_lt_of_le (bodyDepth_pos message.nodes) within
    omega
  have room : ([] : List OuterBody).length + bodyDepth message.nodes ≤ limit :=
    (Nat.zero_add _).symm ▸ within
  have reads := spelled.readFrom #[] [] room rfl [] 0
  rw [closing, List.append_nil, Array.empty_append, leave] at reads
  rw [Message.parse, mapError_eq_ok, readMessage, if_neg positive]
  exact reads

-- Where no body may be open, not even that of the pattern, none is read.
theorem Message.parse_zero (pattern : String) :
    Message.parse 0 pattern = .error { cause := .nestingTooDeep 0, position := .start } := by
  simp [Message.parse, readMessage, SyntaxFault.locate, Position.ofOffset, takeBytes,
    Position.afterAll]

theorem Message.spelled_of_parse {limit : Nat} {message : Message} {pattern : String}
    (parsed : Message.parse limit pattern = .ok message) :
    message.SpelledBy pattern ∧ message.depth ≤ limit := by
  have read := mapError_eq_ok.mp parsed
  simp only [readMessage] at read
  split at read
  next => cases read
  next positive =>
    obtain ⟨front, tail, body, same, spelled, within⟩ :=
      (sound limit pattern.toList).body #[] [] 0 message (Nat.pos_of_ne_zero positive) read
    rw [closing, List.append_nil] at same
    subst same
    have reads := spelled.readFrom #[] [] within rfl [] 0
    rw [closing, List.append_nil, Array.empty_append, leave] at reads
    obtain rfl : message = { nodes := body } := Except.ok.inj (read.symm.trans reads)
    rw [List.length_nil, Nat.zero_add] at within
    exact ⟨spelled, within⟩

theorem Message.parse_eq_ok_iff (limit : Nat) (pattern : String) (message : Message) :
    Message.parse limit pattern = .ok message ↔
      message.SpelledBy pattern ∧ message.depth ≤ limit :=
  ⟨spelled_of_parse, fun ⟨spelled, within⟩ => parse_of_spelled spelled within⟩

theorem Message.SpelledBy.unique {first second : Message} {pattern : String}
    (spelledFirst : first.SpelledBy pattern) (spelledSecond : second.SpelledBy pattern) :
    first = second := by
  have parsedFirst := parse_of_spelled spelledFirst (Nat.le_max_left first.depth second.depth)
  have parsedSecond := parse_of_spelled spelledSecond (Nat.le_max_right first.depth second.depth)
  exact Except.ok.inj (parsedFirst.symm.trans parsedSecond)

end MessagePattern

import MessagePattern.Pattern.Draft

set_option autoImplicit false

namespace MessagePattern

namespace Draft

theorem feed_endOfInput (limit offset : Nat) (draft next : Draft) :
    draft.feed limit ⟨.endOfInput, offset⟩ ≠ .ok (.draft next) := by
  intro fed
  unfold feed at fed
  split at fed
  case h_2 =>
    unfold feedJoint at fed
    split at fed <;> simp_all
  all_goals
    simp [Except.map, feedText, feedSlot, feedSlotEnd, feedTypeName, feedExactly, feedStyle,
      feedStyleEnd, feedSelectClause, feedBody, feedPluralStart, feedPluralClause,
      LocatedToken.number] at fed

theorem feedAll_endsInput {limit : Nat} {draft next : Draft} {tokens : List LocatedToken}
    (ends : EndsInput tokens) : draft.feedAll limit tokens ≠ .ok (.draft next) := by
  obtain ⟨front, offset, rfl⟩ := ends
  induction front generalizing draft with
  | nil =>
    intro fed
    simp only [List.nil_append, feedAll] at fed
    split at fed
    next => simp at fed
    next => simp at fed
    next after step => exact feed_endOfInput limit offset draft after step
  | cons found rest ih =>
    intro fed
    simp only [List.cons_append, feedAll] at fed
    split at fed
    next => simp at fed
    next => simp at fed
    next => exact ih fed

def run (limit : Nat) (draft : Draft) (cursor : Cursor) : Except SyntaxFault Message :=
  match _ : cursor.lex draft.inPlural with
  | (.error fault, _) => .error fault
  | (.ok tokens, next) =>
      match _ : draft.feedAll limit tokens with
      | .error fault => .error fault
      | .ok (.message message) => .ok message
      | .ok (.draft longer) => longer.run limit next
termination_by cursor.rest.length
decreasing_by
  exact (Cursor.lex_shorter ‹_›).resolve_right fun ends => feedAll_endsInput ends ‹_›

def start : Draft :=
  { nodes := #[], outer := [], focus := .text }

end Draft

def defaultMaxDepth : Nat := 64

def readMessage (limit : Nat) (source : List Char) : Except SyntaxFault Message :=
  if limit = 0 then .error { cause := .nestingTooDeep limit, offset := 0 }
  else Draft.start.run limit (Cursor.start source)

def Message.parse (limit : Nat) (pattern : String) : Except SyntaxError Message :=
  (readMessage limit pattern.toList).mapError (SyntaxFault.locate pattern.toList)

end MessagePattern

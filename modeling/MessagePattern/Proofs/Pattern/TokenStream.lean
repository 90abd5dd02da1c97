import MessagePattern.Pattern.Parse
import MessagePattern.Pattern.Tokens
import MessagePattern.Proofs.Outcome

set_option autoImplicit false

namespace MessagePattern

-- The tokens up to the end of the source. Whether a step stands in a plural body may change from
-- one step to the next.
def Cursor.tokensBy (plurals : Nat -> Bool) (cursor : Cursor) :
    Except SyntaxFault (List LocatedToken) :=
  match _ : cursor.lex (plurals 0) with
  | (.error fault, _) => .error fault
  | (.ok found, next) =>
      if _ : reportsEnd found = true then .ok found
      else (next.tokensBy fun step => plurals (step + 1)).map (found ++ ·)
termination_by cursor.rest.length
decreasing_by
  exact (Cursor.lex_shorter ‹_›).resolve_right fun last => ‹¬_› last.reportsEnd

def tokenizeBy (plurals : Nat -> Bool) (pattern : String) :
    Except SyntaxError (List LocatedToken) :=
  ((Cursor.start pattern.toList).tokensBy plurals).mapError (SyntaxFault.locate pattern.toList)

namespace Cursor

variable {plurals : Nat -> Bool} {cursor next : Cursor} {found : List LocatedToken}

theorem tokensBy_of_fault {fault : SyntaxFault}
    (lexed : cursor.lex (plurals 0) = (.error fault, next)) :
    cursor.tokensBy plurals = .error fault := by
  rw [tokensBy]
  split
  next same => rw [lexed] at same; cases same; rfl
  next same => rw [lexed] at same; cases same

theorem tokensBy_of_end (lexed : cursor.lex (plurals 0) = (.ok found, next))
    (ends : reportsEnd found = true) : cursor.tokensBy plurals = .ok found := by
  rw [tokensBy]
  split
  next same => rw [lexed] at same; cases same
  next same =>
    rw [lexed] at same
    cases same
    exact dif_pos ends

theorem tokensBy_of_step (lexed : cursor.lex (plurals 0) = (.ok found, next))
    (goesOn : reportsEnd found = false) :
    cursor.tokensBy plurals =
      (next.tokensBy fun step => plurals (step + 1)).map (found ++ ·) := by
  rw [tokensBy]
  split
  next same => rw [lexed] at same; cases same
  next same =>
    rw [lexed] at same
    cases same
    exact dif_neg (by simp [goesOn])

theorem tokens_eq_tokensBy (cursor : Cursor) :
    cursor.tokens = cursor.tokensBy fun _ => false := by
  fun_induction Cursor.tokens cursor with
  | case1 cursor fault next lexed => exact (tokensBy_of_fault lexed).symm
  | case2 cursor found next lexed ends => exact (tokensBy_of_end lexed ends).symm
  | case3 cursor found next lexed goesOn ih =>
    have step : cursor.tokensBy (fun _ => false) = _ :=
      tokensBy_of_step lexed (by simpa using goesOn)
    rw [ih, step]

theorem tokens_of_fault {fault : SyntaxFault} (lexed : cursor.lex false = (.error fault, next)) :
    cursor.tokens = .error fault := by
  rw [tokens_eq_tokensBy]
  exact tokensBy_of_fault lexed

theorem tokens_of_end (lexed : cursor.lex false = (.ok found, next))
    (ends : reportsEnd found = true) : cursor.tokens = .ok found := by
  rw [tokens_eq_tokensBy]
  exact tokensBy_of_end lexed ends

theorem tokens_of_step (lexed : cursor.lex false = (.ok found, next))
    (goesOn : reportsEnd found = false) : cursor.tokens = next.tokens.map (found ++ ·) := by
  rw [tokens_eq_tokensBy, tokens_eq_tokensBy]
  exact tokensBy_of_step lexed goesOn

end Cursor

namespace Draft

inductive Takes (limit : Nat) (message : Message) : Draft -> Cursor -> List LocatedToken -> Prop
  | last {draft : Draft} {cursor next : Cursor} {tokens : List LocatedToken}
      (lexed : cursor.lex draft.inPlural = (.ok tokens, next))
      (fed : draft.feedAll limit tokens = .ok (.message message)) :
      Takes limit message draft cursor tokens
  | step {draft longer : Draft} {cursor next : Cursor} {tokens later : List LocatedToken}
      (lexed : cursor.lex draft.inPlural = (.ok tokens, next))
      (fed : draft.feedAll limit tokens = .ok (.draft longer))
      (goesOn : Takes limit message longer next later) :
      Takes limit message draft cursor (tokens ++ later)

theorem exists_takes_of_run {limit : Nat} {draft : Draft} {cursor : Cursor} {message : Message}
    (complete : draft.run limit cursor = .ok message) :
    ∃ tokens, draft.Takes limit message cursor tokens := by
  fun_induction Draft.run limit draft cursor with
  | case1 => cases complete
  | case2 => cases complete
  | case3 draft cursor tokens next lexed found fed =>
    cases complete
    exact ⟨tokens, .last lexed fed⟩
  | case4 draft cursor tokens next lexed longer fed ih =>
    obtain ⟨later, takes⟩ := ih complete
    exact ⟨tokens ++ later, .step lexed fed takes⟩

theorem feed_message_token {limit : Nat} {draft : Draft} {found : LocatedToken} {message : Message}
    (fed : draft.feed limit found = .ok (.message message)) : found.token = .endOfInput := by
  unfold feed at fed
  split at fed
  case h_2 =>
    unfold feedJoint at fed
    split at fed <;> simp_all
  all_goals
    obtain ⟨value, _, same⟩ := map_eq_ok.mp fed
    cases same

theorem reportsEnd_of_feedAll {limit : Nat} {draft : Draft} {tokens : List LocatedToken}
    {progress : Progress} (fed : draft.feedAll limit tokens = .ok progress) :
    reportsEnd tokens = true ↔ ∃ message, progress = .message message := by
  induction tokens generalizing draft with
  | nil =>
    cases fed
    simp [reportsEnd]
  | cons found rest ih =>
    rw [feedAll] at fed
    split at fed
    next => cases fed
    next message complete =>
      cases fed
      simp [reportsEnd, feed_message_token complete]
    next next goesOn =>
      have notEnd : found.token ≠ .endOfInput := by
        intro ends
        obtain ⟨token, offset⟩ := found
        cases ends
        exact feed_endOfInput limit offset draft next goesOn
      simpa [reportsEnd, notEnd] using ih fed

theorem Takes.tokensBy {limit : Nat} {message : Message} {draft : Draft} {cursor : Cursor}
    {tokens : List LocatedToken} (takes : draft.Takes limit message cursor tokens) :
    ∃ plurals, cursor.tokensBy plurals = .ok tokens := by
  induction takes with
  | @last draft cursor next tokens lexed fed =>
    have ends := (reportsEnd_of_feedAll fed).mpr ⟨message, rfl⟩
    exact ⟨fun _ => draft.inPlural, Cursor.tokensBy_of_end lexed ends⟩
  | @step draft longer cursor next tokens later lexed fed _ ih =>
    obtain ⟨plurals, read⟩ := ih
    have goesOn : reportsEnd tokens = false := by
      rw [Bool.eq_false_iff]
      intro ends
      obtain ⟨message, same⟩ := (reportsEnd_of_feedAll fed).mp ends
      cases same
    refine ⟨fun | 0 => draft.inPlural | count + 1 => plurals count, ?_⟩
    rw [Cursor.tokensBy_of_step lexed goesOn, read]
    rfl

end Draft

end MessagePattern

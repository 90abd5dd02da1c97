import MessagePattern.Pattern.Cursor

set_option autoImplicit false

namespace MessagePattern

theorem TextRun.read_shorter {plural : Bool} {quote : Option Nat} {offset : Nat}
    {source : List Char} {run : TextRun} (read : TextRun.read plural quote offset source = .ok run) :
    run.rest.length < source.length ∨ run.terminator.token = .endOfInput := by
  fun_induction TextRun.read plural quote offset source generalizing run with
  | case1 => cases read; simp
  | case2 => simp at read
  | case3 quote offset rest ih =>
    cases inner : TextRun.read plural quote (offset + 2) rest with
    | error fault => simp [inner, Except.map] at read
    | ok found =>
      simp only [inner, Except.map, Except.ok.injEq] at read
      subst read
      rcases ih inner with shorter | ends
      · left; simp only [TextRun.push, List.length_cons]; omega
      · right; simpa [TextRun.push] using ends
  | case4 => rename_i ih; exact (ih read).imp Nat.lt_succ_of_lt id
  | case5 => cases read; simp
  | case6 => cases read; simp
  | case7 => cases read; simp
  | case8 offset character rest _ _ _ _ _ ih =>
    cases inner : TextRun.read plural none (offset + character.utf8Size) rest with
    | error fault => simp [inner, Except.map] at read
    | ok found =>
      simp only [inner, Except.map, Except.ok.injEq] at read
      subst read
      rcases ih inner with shorter | ends
      · left; simp only [TextRun.push, List.length_cons]; omega
      · right; simpa [TextRun.push] using ends
  | case9 => rename_i ih; exact (ih read).imp Nat.lt_succ_of_lt id
  | case10 opened offset character rest _ _ ih =>
    cases inner : TextRun.read plural (some opened) (offset + character.utf8Size) rest with
    | error fault => simp [inner, Except.map] at read
    | ok found =>
      simp only [inner, Except.map, Except.ok.injEq] at read
      subst read
      rcases ih inner with shorter | ends
      · left; simp only [TextRun.push, List.length_cons]; omega
      · right; simpa [TextRun.push] using ends

def EndsInput (tokens : List LocatedToken) : Prop :=
  ∃ front offset, tokens = front ++ [⟨.endOfInput, offset⟩]

namespace Cursor

theorem punctuation?_shorter {cursor next : Cursor} {token : Token}
    (found : cursor.punctuation? = some (token, next)) :
    next.rest.length < cursor.rest.length := by
  unfold punctuation? at found
  split at found <;> cases found <;> simp_all

theorem skip_length (cursor : Cursor) (characters : List Char) :
    (cursor.skip characters).rest.length = cursor.rest.length - characters.length := by
  simp [skip]

theorem lexToken_shorter {cursor next : Cursor} {tokens : List LocatedToken}
    (step : cursor.lexToken = (.ok tokens, next)) :
    next.rest.length < cursor.rest.length ∨ EndsInput tokens := by
  unfold lexToken at step
  split at step
  next =>
    right
    simp only [Prod.mk.injEq, Except.ok.injEq] at step
    exact ⟨[], cursor.offset, by simp [← step.1]⟩
  next character rest nonempty =>
    left
    split at step
    next token after found =>
      simp only [Prod.mk.injEq] at step
      rw [← step.2]
      exact punctuation?_shorter found
    next =>
      split at step
      next digit =>
        simp only at step
        split at step
        next =>
          simp only [Prod.mk.injEq] at step
          rw [← step.2, skip_length, nonempty, List.takeWhile_cons_of_pos digit]
          simp only [List.length_cons]
          omega
        next => simp at step
      next =>
        split at step
        next start =>
          simp only [Prod.mk.injEq] at step
          have part : isWordPart character = true := by
            simp only [isWordStart, isWordPart, Char.isAlphanum, Bool.or_eq_true] at start ⊢
            exact start.elim (fun alpha => .inl (.inl alpha)) .inr
          rw [← step.2, skip_length, nonempty, List.takeWhile_cons_of_pos part]
          simp only [List.length_cons]
          omega
        next => simp at step

theorem lex_shorter {plural : Bool} {cursor next : Cursor} {tokens : List LocatedToken}
    (step : cursor.lex plural = (.ok tokens, next)) :
    next.rest.length < cursor.rest.length ∨ EndsInput tokens := by
  unfold lex at step
  split at step
  next =>
    unfold lexText at step
    split at step
    next run found =>
      simp only [Prod.mk.injEq, Except.ok.injEq] at step
      rcases TextRun.read_shorter found with shorter | ends
      · left; simpa [← step.2] using shorter
      · right
        refine ⟨[⟨.text (String.ofList run.content), cursor.offset⟩], run.terminator.offset, ?_⟩
        rw [← step.1, ← ends]
        rfl
    next => simp at step
  next =>
    rcases lexToken_shorter step with shorter | ends
    · left
      have skipped := skip_length cursor (cursor.rest.takeWhile isBlank)
      unfold skipBlank at shorter
      omega
    · exact .inr ends

end Cursor

end MessagePattern

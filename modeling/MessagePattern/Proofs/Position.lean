import Mathlib
import MessagePattern.Pattern.Diagnostic
import MessagePattern.Proofs.Pattern.Viability

set_option autoImplicit false

namespace MessagePattern

theorem takeBytes_utf8Length (before after : List Char) :
    takeBytes (before ++ after) (utf8Length before) = some before := by
  induction before with
  | nil => cases after <;> rfl
  | cons character rest ih =>
    have positive := character.utf8Size_pos
    obtain ⟨size, isSize⟩ : ∃ size, utf8Length (character :: rest) = size + 1 :=
      Nat.exists_eq_add_one.mpr (by rw [utf8Length_cons]; omega)
    have left : size + 1 - character.utf8Size = utf8Length rest := by
      rw [← isSize, utf8Length_cons]
      omega
    have within : character.utf8Size ≤ size + 1 := by
      rw [← isSize, utf8Length_cons]
      omega
    rw [List.cons_append, isSize, takeBytes, if_pos within, left, ih]
    rfl

namespace Position

def EndsLine (lines : List Char) : Prop :=
  lines = [] ∨ ∃ front, lines = front ++ ['\n']

def Precedes (first second : Position) : Prop :=
  first.line < second.line ∨ first.line = second.line ∧ first.column < second.column

theorem ofOffset_utf8Length (before after : List Char) :
    ofOffset (before ++ after) (utf8Length before) = afterAll before := by
  rw [ofOffset, takeBytes_utf8Length, Option.getD_some]

theorem afterAll_append (first second : List Char) :
    afterAll (first ++ second) = second.foldl advance (afterAll first) := by
  rw [afterAll, List.foldl_append, afterAll]

theorem precedes_advance (position : Position) (character : Char) :
    position.Precedes (position.advance character) := by
  by_cases isBreak : character = '\n'
  next =>
    left
    rw [advance, if_pos isBreak]
    exact Nat.lt_succ_self _
  next =>
    right
    rw [advance, if_neg isBreak]
    exact ⟨rfl, Nat.lt_succ_self _⟩

theorem Precedes.trans {first second third : Position} (before : first.Precedes second)
    (after : second.Precedes third) : first.Precedes third := by
  unfold Precedes at *
  omega

theorem precedes_foldl_advance (position : Position) (character : Char) (rest : List Char) :
    position.Precedes ((character :: rest).foldl advance position) := by
  induction rest generalizing position character with
  | nil => exact precedes_advance position character
  | cons next later ih => exact (precedes_advance position character).trans (ih _ next)

-- A line break counts as the last character of its line.
theorem exists_lines (before : List Char) :
    ∃ lines line, before = lines ++ line ∧ EndsLine lines ∧ '\n' ∉ line := by
  induction before using List.reverseRecOn with
  | nil => exact ⟨[], [], rfl, .inl rfl, List.not_mem_nil⟩
  | append_singleton before character ih =>
    obtain ⟨lines, line, rfl, endsLine, noBreak⟩ := ih
    by_cases isBreak : character = '\n'
    next =>
      subst isBreak
      exact ⟨lines ++ line ++ ['\n'], [], (List.append_nil _).symm, .inr ⟨_, rfl⟩,
        List.not_mem_nil⟩
    next =>
      refine ⟨lines, line ++ [character], List.append_assoc .., endsLine, ?_⟩
      simp [noBreak, Ne.symm isBreak]

theorem line_afterAll (before : List Char) :
    (afterAll before).line = before.count '\n' + 1 := by
  induction before using List.reverseRecOn with
  | nil => rfl
  | append_singleton before character ih =>
    rw [afterAll_append, List.foldl_cons, List.foldl_nil, advance]
    by_cases isBreak : character = '\n' <;> simp [isBreak, ih]

theorem foldl_advance_line {line : List Char} (noBreak : '\n' ∉ line) (position : Position) :
    line.foldl advance position = { position with column := position.column + line.length } := by
  induction line generalizing position with
  | nil => rfl
  | cons character rest ih =>
    rw [List.mem_cons, not_or] at noBreak
    obtain ⟨notBreak, noBreakLater⟩ := noBreak
    rw [List.foldl_cons, advance, if_neg (Ne.symm notBreak), ih noBreakLater, List.length_cons]
    simp only [mk.injEq, true_and]
    omega

theorem afterAll_lines {lines line : List Char} (endsLine : EndsLine lines) (noBreak : '\n' ∉ line) :
    afterAll (lines ++ line) = { line := lines.count '\n' + 1, column := line.length + 1 } := by
  have first : (afterAll lines).column = 1 := by
    rcases endsLine with rfl | ⟨front, rfl⟩
    · rfl
    · rw [afterAll_append]
      rfl
  rw [afterAll_append, foldl_advance_line noBreak, first, line_afterAll, Nat.add_comm 1]

theorem skipLines_lines {lines : List Char} (endsLine : EndsLine lines) (after : List Char) :
    skipLines (lines.count '\n') (lines ++ after) = (utf8Length lines, after) := by
  induction lines with
  | nil => cases after <;> rfl
  | cons character rest ih =>
    obtain ⟨front, same⟩ := endsLine.resolve_left (List.cons_ne_nil _ _)
    have restEndsLine : EndsLine rest := by
      cases front with
      | nil => exact .inl (List.cons.inj same).2
      | cons _ front => exact .inr ⟨front, (List.cons.inj same).2⟩
    by_cases isBreak : character = '\n'
    next =>
      subst isBreak
      rw [List.count_cons_self, List.cons_append, skipLines, if_pos rfl, ih restEndsLine]
      rfl
    next =>
      -- The break that ends the line is still to come.
      have more : 0 < rest.count '\n' := by
        apply List.count_pos_iff.mpr
        have member : '\n' ∈ character :: rest := by simp [same]
        exact (List.mem_cons.mp member).resolve_left (Ne.symm isBreak)
      obtain ⟨count, isCount⟩ := Nat.exists_eq_add_one.mpr more
      have skipped := ih restEndsLine
      rw [isCount] at skipped
      rw [List.count_cons_of_ne isBreak, isCount, List.cons_append, skipLines, if_neg isBreak,
        skipped]
      rfl

theorem byteOffset_afterAll (before after : List Char) :
    byteOffset (before ++ after) (afterAll before) = utf8Length before := by
  obtain ⟨lines, line, rfl, endsLine, noBreak⟩ := exists_lines before
  rw [afterAll_lines endsLine noBreak, byteOffset, List.append_assoc]
  simp only [Nat.add_sub_cancel, skipLines_lines endsLine, List.take_left, utf8Length_append]

theorem byteOffset_ofOffset {source : List Char} {offset : Nat} (boundary : IsBoundary source offset) :
    byteOffset source (ofOffset source offset) = offset := by
  obtain ⟨before, after, rfl, rfl⟩ := boundary
  rw [ofOffset_utf8Length, byteOffset_afterAll]

theorem precedes_of_lt {source : List Char} {first second : Nat} (boundary : IsBoundary source first)
    (other : IsBoundary source second) (less : first < second) :
    (ofOffset source first).Precedes (ofOffset source second) := by
  obtain ⟨before, after, same, rfl⟩ := boundary
  obtain ⟨longer, rest, rfl, rfl⟩ := other
  rcases List.append_eq_append_iff.mp same with ⟨more, rfl, rfl⟩ | ⟨more, rfl, rfl⟩
  · rw [utf8Length_append] at less
    omega
  · cases more with
    | nil =>
      rw [List.append_nil] at less
      omega
    | cons character later =>
      rw [ofOffset_utf8Length, List.append_assoc, ofOffset_utf8Length, afterAll_append]
      exact precedes_foldl_advance _ character later

end Position

theorem SyntaxFault.AfterViable.boundary {limit : Nat} {source : List Char} {fault : SyntaxFault}
    (after : fault.AfterViable limit source) : IsBoundary source fault.offset := by
  obtain ⟨front, back, same, offset, _⟩ := after
  exact ⟨front, back, same, offset.symm⟩

/-- Positions and boundaries determine each other, in the same order. The mark of a diagnostic starts
where the fault is. -/
theorem SyntaxError.diagnostic_marks (source : String) :
    (∀ offset, IsBoundary source.toList offset ->
      Position.byteOffset source.toList (Position.ofOffset source.toList offset) = offset) ∧
    (∀ first second, IsBoundary source.toList first -> IsBoundary source.toList second ->
      (Position.ofOffset source.toList first = Position.ofOffset source.toList second ->
        first = second) ∧
      (first < second -> (Position.ofOffset source.toList first).Precedes
        (Position.ofOffset source.toList second))) ∧
    ∀ limit fault, readMessage limit source.toList = .error fault ->
      Message.parse limit source = .error (fault.locate source.toList) ∧
        IsBoundary source.toList fault.offset ∧
        ((fault.locate source.toList).diagnostic source).label.offset = fault.offset := by
  refine ⟨fun offset boundary => Position.byteOffset_ofOffset boundary, ?_, ?_⟩
  · intro first second boundary other
    refine ⟨?_, Position.precedes_of_lt boundary other⟩
    intro same
    rw [← Position.byteOffset_ofOffset boundary, same, Position.byteOffset_ofOffset other]
  · intro limit fault failed
    have boundary := (afterViable_readMessage failed).boundary
    refine ⟨?_, boundary, Position.byteOffset_ofOffset boundary⟩
    rw [Message.parse, failed]
    rfl

-- A line with a letter of two bytes, and one in which a quote never closes.
def openQuote : String := "\u00e9 \x7bn\x7d\n'\x7b"

def openQuoteFault : SyntaxFault :=
  { cause := .unterminatedQuote, offset := 7 }

theorem SyntaxError.diagnostic_marks_openQuote :
    readMessage 1 openQuote.toList = .error openQuoteFault ∧
      Message.parse 1 openQuote = .error (openQuoteFault.locate openQuote.toList) ∧
      IsBoundary openQuote.toList 2 ∧ IsBoundary openQuote.toList openQuoteFault.offset ∧
      ((openQuoteFault.locate openQuote.toList).diagnostic openQuote).label.offset = 7 ∧
      (Position.ofOffset openQuote.toList 2).Precedes (Position.ofOffset openQuote.toList 7) ∧
      Position.byteOffset openQuote.toList (Position.ofOffset openQuote.toList 2) = 2 := by
  have failed : readMessage 1 openQuote.toList = .error openQuoteFault := by cbv
  have second : IsBoundary openQuote.toList 2 :=
    ⟨['\u00e9'], " \x7bn\x7d\n'\x7b".toList, by decide, by decide⟩
  obtain ⟨finds, orders, marks⟩ := SyntaxError.diagnostic_marks openQuote
  obtain ⟨parsed, boundary, marked⟩ := marks 1 openQuoteFault failed
  exact ⟨failed, parsed, second, boundary, marked, (orders 2 7 second boundary).2 (by decide),
    finds 2 second⟩

end MessagePattern

import MessagePattern.Pattern.Progress

set_option autoImplicit false

namespace MessagePattern

def reportsEnd (tokens : List LocatedToken) : Bool :=
  tokens.any fun found => found.token == .endOfInput

theorem EndsInput.reportsEnd {tokens : List LocatedToken} (ends : EndsInput tokens) :
    reportsEnd tokens = true := by
  obtain ⟨front, offset, rfl⟩ := ends
  simp [MessagePattern.reportsEnd]

def Cursor.tokens (cursor : Cursor) : Except SyntaxFault (List LocatedToken) :=
  match _ : cursor.lex false with
  | (.error fault, _) => .error fault
  | (.ok found, next) =>
      if _ : reportsEnd found = true then .ok found
      else next.tokens.map (found ++ ·)
termination_by cursor.rest.length
decreasing_by
  exact (Cursor.lex_shorter ‹_›).resolve_right fun last => ‹¬_› last.reportsEnd

def tokenize (pattern : String) : Except SyntaxError (List LocatedToken) :=
  (Cursor.start pattern.toList).tokens.mapError (SyntaxFault.locate pattern.toList)

-- One step for each flag, each with its tokens or its error and the cursor after it. A step that
-- fails does not end the reading.
def Cursor.lexAll (source : List Char) :
    Cursor -> List Bool -> List (Except SyntaxError (List LocatedToken) × Cursor)
  | _, [] => []
  | cursor, plural :: rest =>
      let step := cursor.lex plural
      (step.1.mapError (SyntaxFault.locate source), step.2) :: lexAll source step.2 rest

end MessagePattern

import MessagePattern.Pattern.Progress
import MessagePattern.Proofs.Outcome
import MessagePattern.Proofs.Pattern.Grammar

set_option autoImplicit false

namespace MessagePattern

theorem head?_append_ne {source tail : List Char} {character : Char}
    (first : source.head? ≠ some character) (second : tail.head? ≠ some character) :
    (source ++ tail).head? ≠ some character := by
  cases source with
  | nil => exact second
  | cons => exact first

theorem head?_append_ne_of_nonempty {source : List Char} {character : Char} (nonempty : source ≠ [])
    (first : source.head? ≠ some character) (tail : List Char) :
    (source ++ tail).head? ≠ some character := by
  cases source with
  | nil => exact absurd rfl nonempty
  | cons => exact first

theorem head?_ne_of_forall {source : List Char} {character : Char}
    (other : ∀ rest, source ≠ character :: rest) : source.head? ≠ some character := by
  intro same
  obtain ⟨rest, rfl⟩ := List.head?_eq_some_iff.mp same
  exact other rest rfl

namespace TextRun

def prepend (content : List Char) (run : TextRun) : TextRun :=
  { run with content := content ++ run.content }

@[simp] theorem map_prepend_nil (outcome : Except SyntaxFault TextRun) :
    outcome.map (prepend []) = outcome := by
  cases outcome <;> rfl

theorem map_push_prepend (character : Char) (content : List Char)
    (outcome : Except SyntaxFault TextRun) :
    (outcome.map (prepend content)).map (push character) =
      outcome.map (prepend (character :: content)) := by
  cases outcome <;> rfl

theorem map_prepend_prepend (first second : List Char) (outcome : Except SyntaxFault TextRun) :
    (outcome.map (prepend second)).map (prepend first) = outcome.map (prepend (first ++ second)) := by
  cases outcome with
  | error fault => rfl
  | ok run => simp [Except.map, prepend]

variable {plural : Bool} {offset : Nat}

theorem utf8Length_quotes (rest : List Char) :
    utf8Length ('\'' :: '\'' :: rest) = 2 + utf8Length rest := by
  simp only [utf8Length_cons, ← Nat.add_assoc]
  rfl

theorem read_quote (plural : Bool) (quote : Option Nat) (offset : Nat) (rest : List Char) :
    read plural quote offset ('\'' :: '\'' :: rest) =
      (read plural quote (offset + 2) rest).map (push '\'') := by
  cases quote <;> rfl

-- What is read at a character that is no half of a doubled quote.
theorem read_cons {character : Char} {rest : List Char}
    (single : character = '\'' -> rest.head? ≠ some '\'') (plural : Bool) (quote : Option Nat)
    (offset : Nat) :
    read plural quote offset (character :: rest) =
      match quote with
      | none =>
          if character = '\'' then read plural (some offset) (offset + 1) rest
          else if character = '{' then
            .ok { content := [], terminator := ⟨.openBrace, offset⟩, rest, offset := offset + 1
                  mode := .argument }
          else if character = '}' then
            .ok { content := [], terminator := ⟨.closeBrace, offset⟩, rest, offset := offset + 1
                  mode := .argument }
          else if character = '#' && plural then
            .ok { content := [], terminator := ⟨.pound, offset⟩, rest, offset := offset + 1
                  mode := .text }
          else (read plural none (offset + character.utf8Size) rest).map (push character)
      | some opened =>
          if character = '\'' then read plural none (offset + 1) rest
          else (read plural (some opened) (offset + character.utf8Size) rest).map
            (push character) := by
  have unpaired : ∀ after, character = '\'' -> rest = '\'' :: after -> False := by
    rintro after isQuote rfl
    exact single isQuote rfl
  cases quote with
  | none =>
    rw [read]
    exact unpaired
  | some opened =>
    rw [read]
    exact unpaired

theorem read_openBrace (plural : Bool) (offset : Nat) (rest : List Char) :
    read plural none offset ('{' :: rest) = .ok
      { content := [], terminator := ⟨.openBrace, offset⟩, rest, offset := offset + 1
        mode := .argument } := rfl

theorem read_closeBrace (plural : Bool) (offset : Nat) (rest : List Char) :
    read plural none offset ('}' :: rest) = .ok
      { content := [], terminator := ⟨.closeBrace, offset⟩, rest, offset := offset + 1
        mode := .argument } := rfl

theorem read_pound (offset : Nat) (rest : List Char) :
    read true none offset ('#' :: rest) = .ok
      { content := [], terminator := ⟨.pound, offset⟩, rest, offset := offset + 1
        mode := .text } := rfl

theorem read_plain {character : Char} (isPlain : IsPlain plural character) (rest : List Char) :
    read plural none offset (character :: rest) =
      (read plural none (offset + character.utf8Size) rest).map (push character) := by
  obtain ⟨notQuote, notOpen, notClose, notPound⟩ := isPlain
  have text : (character = '#' && plural) = false := by
    cases plural <;> simp_all
  rw [read_cons fun isQuote => absurd isQuote notQuote]
  simp [notQuote, notOpen, notClose, text]

theorem read_open {rest : List Char} (single : rest.head? ≠ some '\'') :
    read plural none offset ('\'' :: rest) = read plural (some offset) (offset + 1) rest := by
  rw [read_cons fun _ => single]
  rfl

theorem read_close {opened : Nat} {rest : List Char} (closes : rest.head? ≠ some '\'') :
    read plural (some opened) offset ('\'' :: rest) = read plural none (offset + 1) rest := by
  rw [read_cons fun _ => closes]
  rfl

theorem read_inside {opened : Nat} {character : Char} (notQuote : character ≠ '\'')
    (rest : List Char) :
    read plural (some opened) offset (character :: rest) =
      (read plural (some opened) (offset + character.utf8Size) rest).map (push character) := by
  rw [read_cons fun isQuote => absurd isQuote notQuote]
  simp [notQuote]

theorem read_quoted {inside meant source : List Char} (quoted : Quoted inside meant)
    (closes : source.head? ≠ some '\'') (opened offset : Nat) :
    read plural (some opened) offset (inside ++ '\'' :: source) =
      (read plural none (offset + utf8Length inside + 1) source).map (prepend meant) := by
  induction quoted generalizing offset with
  | nil => simp [read_close closes]
  | quote rest ih =>
    rw [List.cons_append, List.cons_append, read_quote, ih, map_push_prepend, utf8Length_quotes,
      ← Nat.add_assoc]
  | plain notQuote rest ih =>
    rw [List.cons_append, read_inside notQuote, ih, map_push_prepend]
    simp [Nat.add_assoc]

theorem read_append {source content tail : List Char} (text : TextSpelled plural source content)
    (noQuote : tail.head? ≠ some '\'') (offset : Nat) :
    read plural none offset (source ++ tail) =
      (read plural none (offset + utf8Length source) tail).map (prepend content) := by
  -- A quote right behind the text would make its last quoted run go on.
  induction text generalizing offset with
  | nil => simp
  | plain isPlain rest ih =>
    rw [List.cons_append, read_plain isPlain, ih, map_push_prepend]
    simp [Nat.add_assoc]
  | quote rest ih =>
    rw [List.cons_append, List.cons_append, read_quote, ih, map_push_prepend, utf8Length_quotes,
      ← Nat.add_assoc]
  | @run inside meant source content quoted opens single closes rest ih =>
    have opening := head?_append_ne_of_nonempty opens single ('\'' :: (source ++ tail))
    rw [List.cons_append, List.append_assoc, List.cons_append, read_open opening,
      read_quoted quoted (head?_append_ne closes noQuote), ih, map_prepend_prepend]
    simp [Nat.add_comm, Nat.add_left_comm, Char.utf8Size]

end TextRun

theorem TextSpelled.afterRun {plural : Bool} {inside meant text content tail after : List Char}
    (spelled : TextSpelled plural text content) (quoted : Quoted inside meant)
    (single : (inside ++ '\'' :: after).head? ≠ some '\'')
    (closes : (text ++ tail).head? ≠ some '\'') :
    TextSpelled plural ('\'' :: (inside ++ '\'' :: text)) (meant ++ content) := by
  have opens : inside ≠ [] := by
    intro empty
    subst empty
    exact single rfl
  have singleInside : inside.head? ≠ some '\'' := by
    cases inside with
    | nil => simp
    | cons => exact single
  have closesText : text.head? ≠ some '\'' := by
    cases text with
    | nil => simp
    | cons => exact closes
  exact .run quoted opens singleInside closesText spelled

theorem IsPlain.mono {plural : Bool} {character : Char} (isPlain : IsPlain plural character) :
    IsPlain false character :=
  ⟨isPlain.1, isPlain.2.1, isPlain.2.2.1, by simp⟩

theorem TextSpelled.mono {plural : Bool} {source content : List Char}
    (spelled : TextSpelled plural source content) : TextSpelled false source content := by
  induction spelled with
  | nil => exact .nil
  | plain isPlain _ ih => exact .plain isPlain.mono ih
  | quote _ ih => exact .quote ih
  | run quoted opens single closes _ ih => exact .run quoted opens single closes ih

inductive EndsText (plural : Bool) : List Char -> Prop
  | endOfInput : EndsText plural []
  | openBrace (rest : List Char) : EndsText plural ('{' :: rest)
  | closeBrace (rest : List Char) : EndsText plural ('}' :: rest)
  | pound (inPlural : plural = true) (rest : List Char) : EndsText plural ('#' :: rest)

theorem EndsText.noQuote {plural : Bool} {tail : List Char} (ends : EndsText plural tail) :
    tail.head? ≠ some '\'' := by
  cases ends <;> simp

def StartsWithText (plural : Bool) (source content : List Char) : Prop :=
  ∃ text tail, source = text ++ tail ∧ TextSpelled plural text content ∧ EndsText plural tail

def StartsInside (plural : Bool) (source content : List Char) : Prop :=
  ∃ inside meant rest after, source = inside ++ '\'' :: rest ∧ content = meant ++ after ∧
    Quoted inside meant ∧ rest.head? ≠ some '\'' ∧ StartsWithText plural rest after

def Starts (plural : Bool) (source content : List Char) : Option Nat -> Prop
  | none => StartsWithText plural source content
  | some _ => StartsInside plural source content

theorem Starts.quote {plural : Bool} {source content : List Char} {open? : Option Nat}
    (starts : Starts plural source content open?) :
    Starts plural ('\'' :: '\'' :: source) ('\'' :: content) open? := by
  cases open? with
  | none =>
    obtain ⟨text, tail, rfl, spelled, ends⟩ := starts
    exact ⟨_, tail, rfl, .quote spelled, ends⟩
  | some opened =>
    obtain ⟨inside, meant, rest, after, rfl, rfl, quoted, closes, later⟩ := starts
    exact ⟨_, _, rest, after, rfl, rfl, .quote quoted, closes, later⟩

theorem StartsWithText.plain {plural : Bool} {source content : List Char} {character : Char}
    (isPlain : IsPlain plural character) (starts : StartsWithText plural source content) :
    StartsWithText plural (character :: source) (character :: content) := by
  obtain ⟨text, tail, rfl, spelled, ends⟩ := starts
  exact ⟨_, tail, rfl, .plain isPlain spelled, ends⟩

theorem StartsInside.plain {plural : Bool} {source content : List Char} {character : Char}
    (notQuote : character ≠ '\'') (starts : StartsInside plural source content) :
    StartsInside plural (character :: source) (character :: content) := by
  obtain ⟨inside, meant, rest, after, rfl, rfl, quoted, closes, later⟩ := starts
  exact ⟨_, _, rest, after, rfl, rfl, .plain notQuote quoted, closes, later⟩

theorem StartsWithText.close {plural : Bool} {source content : List Char}
    (closes : source.head? ≠ some '\'') (starts : StartsWithText plural source content) :
    StartsInside plural ('\'' :: source) content :=
  ⟨[], [], source, content, rfl, rfl, .nil, closes, starts⟩

theorem StartsInside.open {plural : Bool} {source content : List Char}
    (single : source.head? ≠ some '\'') (starts : StartsInside plural source content) :
    StartsWithText plural ('\'' :: source) content := by
  obtain ⟨inside, meant, rest, after, rfl, rfl, quoted, closes, text, tail, rfl, spelled, ends⟩ :=
    starts
  exact ⟨_, tail, by simp, spelled.afterRun quoted single closes, ends⟩

theorem TextRun.read_starts {plural : Bool} {open? : Option Nat} {offset : Nat}
    {source : List Char} {run : TextRun} (read : TextRun.read plural open? offset source = .ok run) :
    Starts plural source run.content open? := by
  -- Outside of quotes the source starts with a text, inside with the rest of a quoted run.
  fun_induction TextRun.read plural open? offset source generalizing run with
  | case1 =>
    cases read
    exact ⟨[], [], rfl, .nil, .endOfInput⟩
  | case2 => cases read
  | case3 quote offset rest ih =>
    obtain ⟨found, inner, rfl⟩ := map_eq_ok.mp read
    exact (ih inner).quote
  | case4 offset rest notDoubled ih =>
    exact (ih read).open (head?_ne_of_forall fun after same => notDoubled after rfl same)
  | case5 =>
    cases read
    exact ⟨[], _, rfl, .nil, .openBrace _⟩
  | case6 =>
    cases read
    exact ⟨[], _, rfl, .nil, .closeBrace _⟩
  | case7 offset character rest _ _ _ _ isPound =>
    cases read
    obtain ⟨same, inPlural⟩ := by simpa using isPound
    subst same
    exact ⟨[], _, rfl, .nil, .pound inPlural _⟩
  | case8 offset character rest _ notQuote notOpen notClose notPound ih =>
    obtain ⟨found, inner, rfl⟩ := map_eq_ok.mp read
    have isPlain : IsPlain plural character :=
      ⟨notQuote, notOpen, notClose, fun inPlural same => notPound (by simp [inPlural, same])⟩
    exact (ih inner).plain isPlain
  | case9 opened offset rest notDoubled ih =>
    exact (ih read).close (head?_ne_of_forall fun after same => notDoubled after rfl same)
  | case10 opened offset character rest _ notQuote ih =>
    obtain ⟨found, inner, rfl⟩ := map_eq_ok.mp read
    exact (ih inner).plain notQuote

def LeavesOpen (plural : Bool) (offset : Nat) (source : List Char) (fault : SyntaxFault) : Prop :=
  ∃ text content tail, source = text ++ '\'' :: tail ∧ TextSpelled plural text content ∧
    fault = { cause := .unterminatedQuote, offset := offset + utf8Length text }

-- Where a quoted run is open, either that run never closes or a later one.
def LeavesOpenInside (plural : Bool) (opened offset : Nat) (source : List Char)
    (fault : SyntaxFault) : Prop :=
  fault = { cause := .unterminatedQuote, offset := opened } ∨
    ∃ inside meant rest, source = inside ++ '\'' :: rest ∧ Quoted inside meant ∧
      rest.head? ≠ some '\'' ∧ LeavesOpen plural (offset + utf8Length inside + 1) rest fault

def Unterminated (plural : Bool) (offset : Nat) (source : List Char) (fault : SyntaxFault) :
    Option Nat -> Prop
  | none => LeavesOpen plural offset source fault
  | some opened => LeavesOpenInside plural opened offset source fault

section

variable {plural : Bool} {opened offset : Nat} {source : List Char} {fault : SyntaxFault}
  {character : Char}

theorem Unterminated.quote {open? : Option Nat}
    (leaves : Unterminated plural (offset + 2) source fault open?) :
    Unterminated plural offset ('\'' :: '\'' :: source) fault open? := by
  cases open? with
  | none =>
    obtain ⟨text, content, tail, rfl, spelled, rfl⟩ := leaves
    refine ⟨_, _, tail, rfl, .quote spelled, ?_⟩
    rw [TextRun.utf8Length_quotes, Nat.add_assoc]
  | some opened =>
    rcases leaves with same | ⟨inside, meant, rest, rfl, quoted, closes, later⟩
    · exact .inl same
    · refine .inr ⟨_, _, rest, rfl, .quote quoted, closes, ?_⟩
      rwa [TextRun.utf8Length_quotes, ← Nat.add_assoc]

theorem LeavesOpen.plain (isPlain : IsPlain plural character)
    (leaves : LeavesOpen plural (offset + character.utf8Size) source fault) :
    LeavesOpen plural offset (character :: source) fault := by
  obtain ⟨text, content, tail, rfl, spelled, rfl⟩ := leaves
  refine ⟨_, _, tail, rfl, .plain isPlain spelled, ?_⟩
  rw [utf8Length_cons, Nat.add_assoc]

theorem LeavesOpenInside.plain (notQuote : character ≠ '\'')
    (leaves : LeavesOpenInside plural opened (offset + character.utf8Size) source fault) :
    LeavesOpenInside plural opened offset (character :: source) fault := by
  rcases leaves with same | ⟨inside, meant, rest, rfl, quoted, closes, later⟩
  · exact .inl same
  · refine .inr ⟨_, _, rest, rfl, .plain notQuote quoted, closes, ?_⟩
    rwa [utf8Length_cons, ← Nat.add_assoc]

theorem LeavesOpenInside.open (single : source.head? ≠ some '\'')
    (leaves : LeavesOpenInside plural offset (offset + 1) source fault) :
    LeavesOpen plural offset ('\'' :: source) fault := by
  rcases leaves with rfl |
    ⟨inside, meant, rest, rfl, quoted, closes, text, content, tail, rfl, spelled, rfl⟩
  · exact ⟨[], [], source, rfl, .nil, rfl⟩
  · refine ⟨_, _, tail, by simp, spelled.afterRun quoted single closes, ?_⟩
    simp [Nat.add_comm, Nat.add_left_comm, Char.utf8Size]

theorem TextRun.read_unterminated {open? : Option Nat}
    (read : TextRun.read plural open? offset source = .error fault) :
    Unterminated plural offset source fault open? := by
  fun_induction TextRun.read plural open? offset source generalizing fault with
  | case1 => cases read
  | case2 =>
    cases read
    exact .inl rfl
  | case3 quote offset rest ih => exact (ih (map_eq_error.mp read)).quote
  | case4 offset rest notDoubled ih =>
    exact LeavesOpenInside.open (head?_ne_of_forall fun after same => notDoubled after rfl same)
      (ih read)
  | case5 => cases read
  | case6 => cases read
  | case7 => cases read
  | case8 offset character rest _ notQuote notOpen notClose notPound ih =>
    have isPlain : IsPlain plural character :=
      ⟨notQuote, notOpen, notClose, fun inPlural same => notPound (by simp [inPlural, same])⟩
    exact LeavesOpen.plain isPlain (ih (map_eq_error.mp read))
  | case9 opened offset rest notDoubled ih =>
    have closes := head?_ne_of_forall fun after same => notDoubled after rfl same
    exact .inr ⟨[], [], rest, rfl, .nil, closes, ih read⟩
  | case10 opened offset character rest _ notQuote ih =>
    exact LeavesOpenInside.plain notQuote (ih (map_eq_error.mp read))

end

theorem TextRun.read_fault_mono {plural : Bool} {open? : Option Nat} {offset : Nat}
    {source : List Char} {fault : SyntaxFault}
    (read : TextRun.read plural open? offset source = .error fault) :
    TextRun.read false open? offset source = .error fault := by
  fun_induction TextRun.read plural open? offset source with
  | case1 => cases read
  | case2 => exact read
  | case3 quote offset rest ih => rw [read_quote, ih (map_eq_error.mp read)]; rfl
  | case4 offset rest notDoubled ih =>
    have single := head?_ne_of_forall fun after same => notDoubled after rfl same
    rw [read_open single, ih read]
  | case5 => cases read
  | case6 => cases read
  | case7 => cases read
  | case8 offset character rest _ notQuote notOpen notClose notPound ih =>
    have isPlain : IsPlain false character := ⟨notQuote, notOpen, notClose, by simp⟩
    rw [read_plain isPlain, ih (map_eq_error.mp read)]
    rfl
  | case9 opened offset rest notDoubled ih =>
    have closes := head?_ne_of_forall fun after same => notDoubled after rfl same
    rw [read_close closes, ih read]
  | case10 opened offset character rest _ notQuote ih =>
    rw [read_inside notQuote, ih (map_eq_error.mp read)]
    rfl

inductive Terminates (plural : Bool) : List Char -> Nat -> LocatedToken -> Cursor -> Prop
  | endOfInput (place : Nat) :
      Terminates plural [] place ⟨.endOfInput, place⟩ ⟨[], place, .text⟩
  | openBrace (rest : List Char) (place : Nat) :
      Terminates plural ('{' :: rest) place ⟨.openBrace, place⟩ ⟨rest, place + 1, .argument⟩
  | closeBrace (rest : List Char) (place : Nat) :
      Terminates plural ('}' :: rest) place ⟨.closeBrace, place⟩ ⟨rest, place + 1, .argument⟩
  | pound (inPlural : plural = true) (rest : List Char) (place : Nat) :
      Terminates plural ('#' :: rest) place ⟨.pound, place⟩ ⟨rest, place + 1, .text⟩

theorem Terminates.offset_eq {plural : Bool} {tail : List Char} {place : Nat} {last : LocatedToken}
    {next : Cursor} (terminates : Terminates plural tail place last next) : last.offset = place := by
  cases terminates <;> rfl

theorem Terminates.mark {plural : Bool} {tail : List Char} {place : Nat} {last : LocatedToken}
    {next : Cursor} (terminates : Terminates plural tail place last next)
    (goesOn : last.token ≠ .endOfInput) :
    ∃ mark, tail = mark :: next.rest ∧ next.offset = place + mark.utf8Size ∧
      ∀ rest, Terminates plural (mark :: rest) place last ⟨rest, next.offset, next.mode⟩ := by
  cases terminates with
  | endOfInput => exact absurd rfl goesOn
  | openBrace rest => exact ⟨'{', rfl, rfl, fun rest => .openBrace rest place⟩
  | closeBrace rest => exact ⟨'}', rfl, rfl, fun rest => .closeBrace rest place⟩
  | pound inPlural rest => exact ⟨'#', rfl, rfl, fun rest => .pound inPlural rest place⟩

inductive TextStep (plural : Bool) :
    List Char -> Nat -> Except SyntaxFault (List LocatedToken) × Cursor -> Prop
  | ends {text content tail : List Char} {offset : Nat} {last : LocatedToken} {next : Cursor}
      (spelled : TextSpelled plural text content)
      (terminates : Terminates plural tail (offset + utf8Length text) last next) :
      TextStep plural (text ++ tail) offset
        (.ok [⟨.text (String.ofList content), offset⟩, last], next)
  | fault {text content : List Char} (tail : List Char) (offset : Nat)
      (spelled : TextSpelled plural text content) (next : Cursor) :
      TextStep plural (text ++ '\'' :: tail) offset
        (.error { cause := .unterminatedQuote, offset := offset + utf8Length text }, next)

theorem Terminates.lex {plural : Bool} {text content tail : List Char} {offset : Nat}
    {last : LocatedToken} {next : Cursor} (spelled : TextSpelled plural text content)
    (terminates : Terminates plural tail (offset + utf8Length text) last next) :
    Cursor.lex plural ⟨text ++ tail, offset, .text⟩ =
      (.ok [⟨.text (String.ofList content), offset⟩, last], next) := by
  have noQuote : tail.head? ≠ some '\'' := by cases terminates <;> simp
  simp only [Cursor.lex, Cursor.lexText, TextRun.read_append spelled noQuote]
  cases terminates with
  | endOfInput => simp [TextRun.read, Except.map, TextRun.prepend]
  | openBrace rest => simp [TextRun.read_openBrace, Except.map, TextRun.prepend]
  | closeBrace rest => simp [TextRun.read_closeBrace, Except.map, TextRun.prepend]
  | pound inPlural rest =>
    subst inPlural
    simp [TextRun.read_pound, Except.map, TextRun.prepend]

theorem Cursor.lex_text (plural : Bool) (source : List Char) (offset : Nat) :
    TextStep plural source offset (Cursor.lex plural ⟨source, offset, .text⟩) := by
  cases read : TextRun.read plural none offset source with
  | ok run =>
    obtain ⟨text, tail, rfl, spelled, ends⟩ := TextRun.read_starts read
    have terminates : ∃ last next, Terminates plural tail (offset + utf8Length text) last next := by
      cases ends with
      | endOfInput => exact ⟨_, _, .endOfInput _⟩
      | openBrace rest => exact ⟨_, _, .openBrace rest _⟩
      | closeBrace rest => exact ⟨_, _, .closeBrace rest _⟩
      | pound inPlural rest => exact ⟨_, _, .pound inPlural rest _⟩
    obtain ⟨last, next, terminates⟩ := terminates
    rw [terminates.lex spelled]
    exact .ends spelled terminates
  | error fault =>
    obtain ⟨text, content, tail, rfl, spelled, rfl⟩ := TextRun.read_unterminated read
    simp only [Cursor.lex, Cursor.lexText, read]
    exact .fault tail offset spelled _

end MessagePattern

import MessagePattern.Text.Quoted

set_option autoImplicit false

namespace MessagePattern

def escapedCharacter (letter : Char) : Char :=
  if letter = '0' then '\x00'
  else if letter = 't' then '\t'
  else if letter = 'n' then '\n'
  else if letter = 'r' then '\r'
  else letter

def hexadecimalValue (digit : Char) : Nat :=
  if digit.isDigit then digit.toNat - '0'.toNat else digit.toNat - 'a'.toNat + 10

mutual

def unquoted : List Char -> List Char
  | '\\' :: 'u' :: '{' :: rest => unquotedCode 0 rest
  | '\\' :: letter :: rest => escapedCharacter letter :: unquoted rest
  | letter :: rest => letter :: unquoted rest
  | [] => []

-- What is left when some digits of a code point have been read.
def unquotedCode (code : Nat) : List Char -> List Char
  | '}' :: rest => Char.ofNat code :: unquoted rest
  | digit :: rest => unquotedCode (16 * code + hexadecimalValue digit) rest
  | [] => []

end

section Hexadecimal

theorem mem_toDigits_sixteen {number : Nat} {digit : Char} (member : digit ∈ Nat.toDigits 16 number) :
    ∃ value < 16, digit = Nat.digitChar value := by
  induction number using Nat.strongRecOn with
  | ind number ih =>
    by_cases small : number < 16
    · rw [Nat.toDigits_of_lt_base small] at member
      exact ⟨number, small, List.mem_singleton.mp member⟩
    · rw [Nat.toDigits_of_base_le (by decide) (Nat.not_lt.mp small), List.mem_append] at member
      rcases member with front | last
      · exact ih (number / 16) (by omega) front
      · exact ⟨number % 16, Nat.mod_lt _ (by decide), List.mem_singleton.mp last⟩

theorem foldl_toDigits_sixteen (number : Nat) :
    (Nat.toDigits 16 number).foldl (fun code digit => 16 * code + hexadecimalValue digit) 0 =
      number := by
  have value : ∀ value < 16, hexadecimalValue (Nat.digitChar value) = value := by decide
  induction number using Nat.strongRecOn with
  | ind number ih =>
    by_cases small : number < 16
    · simp [Nat.toDigits_of_lt_base small, value number small]
    · rw [Nat.toDigits_of_base_le (by decide) (Nat.not_lt.mp small), List.foldl_append,
        ih (number / 16) (by omega)]
      simp only [List.foldl_cons, List.foldl_nil, value _ (Nat.mod_lt number (by decide))]
      omega

theorem unquotedCode_append {digits : List Char} (notEnd : '}' ∉ digits) (code : Nat)
    (rest : List Char) :
    unquotedCode code (digits ++ '}' :: rest) =
      Char.ofNat (digits.foldl (fun code digit => 16 * code + hexadecimalValue digit) code) ::
        unquoted rest := by
  induction digits generalizing code with
  | nil => rw [List.nil_append, unquotedCode, List.foldl_nil]
  | cons digit digits ih =>
    rw [List.mem_cons, not_or] at notEnd
    rw [List.cons_append, unquotedCode, ih notEnd.2, List.foldl_cons]
    exact fun same => notEnd.1 same.symm

end Hexadecimal

-- The ways to write a character between quotes: by itself, or behind a backslash, which hides the
-- letter behind it, and perhaps a code point in braces, which has neither quotes nor backslashes.
inductive QuotedAs : Char -> List Char -> Prop
  | plain {character : Char} (notQuote : character ≠ '"') (notBackslash : character ≠ '\\') :
      QuotedAs character [character]
  | escaped {character letter : Char} (notCode : letter ≠ 'u')
      (read : escapedCharacter letter = character) : QuotedAs character ['\\', letter]
  | codePoint (character : Char) : QuotedAs character (codePointEscape character)

theorem quotedAs_quotedCharacter (character : Char) :
    QuotedAs character (quotedCharacter '"' character) := by
  unfold quotedCharacter
  simp only [Bool.or_eq_true, decide_eq_true_eq]
  split
  next special => rcases special with rfl | rfl <;> exact .escaped (by decide) (by decide)
  next ordinary =>
    rw [not_or] at ordinary
    split
    next same => exact .escaped (by decide) (same ▸ rfl)
    split
    next same => exact .escaped (by decide) (same ▸ rfl)
    split
    next same => exact .escaped (by decide) (same ▸ rfl)
    split
    next same => exact .escaped (by decide) (same ▸ rfl)
    split
    next => exact .codePoint character
    next => exact .plain ordinary.1 ordinary.2

theorem QuotedAs.unquoted_append {character : Char} {written : List Char}
    (quotedAs : QuotedAs character written) (rest : List Char) :
    unquoted (written ++ rest) = character :: unquoted rest := by
  cases quotedAs with
  | plain _ notBackslash =>
    rw [List.singleton_append, unquoted]
    · exact fun _ same => absurd same notBackslash
    · exact fun _ _ same => absurd same notBackslash
  | escaped notCode read =>
    rw [List.cons_append, List.singleton_append, unquoted, read]
    exact fun _ same => absurd same notCode
  | codePoint =>
    have notEnd : '}' ∉ Nat.toDigits 16 character.toNat := by
      intro member
      obtain ⟨value, small, same⟩ := mem_toDigits_sixteen member
      have others : ∀ value < 16, '}' ≠ Nat.digitChar value := by decide
      exact others value small same
    simp only [codePointEscape, List.cons_append, List.nil_append, List.append_assoc, unquoted]
    rw [unquotedCode_append notEnd, foldl_toDigits_sixteen, Char.ofNat_toNat]

theorem unquoted_flatMap (text : List Char) :
    unquoted (text.flatMap (quotedCharacter '"')) = text := by
  induction text with
  | nil => rw [List.flatMap_nil, unquoted]
  | cons character rest ih =>
    rw [List.flatMap_cons, (quotedAs_quotedCharacter character).unquoted_append, ih]

end MessagePattern

import MessagePattern.Message
import MessagePattern.Pattern.SyntaxError
import MessagePattern.Text.Blank

set_option autoImplicit false

namespace MessagePattern

inductive LexicalMode
  | text
  | argument
deriving DecidableEq, Repr

def LexicalMode.display : LexicalMode -> String
  | .text => "text"
  | .argument => "argument"

structure Cursor where
  rest : List Char
  offset : Nat
  mode : LexicalMode
deriving DecidableEq, Repr

structure TextRun where
  content : List Char
  terminator : LocatedToken
  rest : List Char
  offset : Nat
  mode : LexicalMode
deriving DecidableEq, Repr

def TextRun.push (character : Char) (run : TextRun) : TextRun :=
  { run with content := character :: run.content }

-- Reads a stretch of text. A quote that is open carries the offset at which it was opened; inside
-- it only a quote is special. Two quotes in a row are one literal quote, inside and outside.
def TextRun.read (plural : Bool) : Option Nat -> Nat -> List Char -> Except SyntaxFault TextRun
  | none, offset, [] =>
      .ok { content := [], terminator := ⟨.endOfInput, offset⟩, rest := [], offset, mode := .text }
  | some opened, _, [] => .error { cause := .unterminatedQuote, offset := opened }
  | quote, offset, '\'' :: '\'' :: rest =>
      (read plural quote (offset + 2) rest).map (push '\'')
  | none, offset, character :: rest =>
      if character = '\'' then
        read plural (some offset) (offset + 1) rest
      else if character = '{' then
        .ok { content := [], terminator := ⟨.openBrace, offset⟩, rest, offset := offset + 1,
              mode := .argument }
      else if character = '}' then
        .ok { content := [], terminator := ⟨.closeBrace, offset⟩, rest, offset := offset + 1,
              mode := .argument }
      else if character = '#' && plural then
        .ok { content := [], terminator := ⟨.pound, offset⟩, rest, offset := offset + 1,
              mode := .text }
      else
        (read plural none (offset + character.utf8Size) rest).map (push character)
  | some opened, offset, character :: rest =>
      if character = '\'' then
        read plural none (offset + 1) rest
      else
        (read plural (some opened) (offset + character.utf8Size) rest).map (push character)

-- The digits at the front of a source as a number. A number of two digits or more starts with no
-- zero, and none is larger than a slot can be.
def readNumber (digits : List Char) : Except SyntaxCause Nat :=
  let number := Nat.ofDigitChars 10 digits 0
  if 1 < digits.length && digits.head? == some '0' then .error .leadingZero
  else if Slot.maxIndex < number then .error (.numberOutOfRange number)
  else .ok number

namespace Cursor

def start (source : List Char) : Cursor :=
  { rest := source, offset := 0, mode := .text }

def finish (cursor : Cursor) : Cursor :=
  { cursor with rest := [], offset := cursor.offset + utf8Length cursor.rest }

def skip (cursor : Cursor) (characters : List Char) : Cursor :=
  { cursor with
    rest := cursor.rest.drop characters.length
    offset := cursor.offset + utf8Length characters }

-- A step in text mode: a text and the token that ends it. A quote that never closes reads the
-- source to its end.
def lexText (plural : Bool) (cursor : Cursor) : Except SyntaxFault (List LocatedToken) × Cursor :=
  match TextRun.read plural none cursor.offset cursor.rest with
  | .ok run =>
      (.ok [⟨.text (String.ofList run.content), cursor.offset⟩, run.terminator],
        { rest := run.rest, offset := run.offset, mode := run.mode })
  | .error fault => (.error fault, cursor.finish)

def skipBlank (cursor : Cursor) : Cursor :=
  cursor.skip (cursor.rest.takeWhile isBlank)

def punctuation? (cursor : Cursor) : Option (Token × Cursor) :=
  match cursor.rest with
  | '{' :: rest => some (.openBrace, { rest, offset := cursor.offset + 1, mode := .text })
  | '}' :: rest => some (.closeBrace, { rest, offset := cursor.offset + 1, mode := .text })
  | ',' :: rest => some (.comma, { rest, offset := cursor.offset + 1, mode := cursor.mode })
  | '=' :: rest => some (.equals, { rest, offset := cursor.offset + 1, mode := cursor.mode })
  | ':' :: rest => some (.colon, { rest, offset := cursor.offset + 1, mode := cursor.mode })
  | _ => none

-- A step in argument mode at a cursor with no white space in front: one token. A number that is not
-- allowed is read past all the same; a character that starts no token is not.
def lexToken (cursor : Cursor) : Except SyntaxFault (List LocatedToken) × Cursor :=
  match cursor.rest with
  | [] => (.ok [⟨.endOfInput, cursor.offset⟩], cursor)
  | character :: _ =>
      match cursor.punctuation? with
      | some (token, next) => (.ok [⟨token, cursor.offset⟩], next)
      | none =>
          if character.isDigit then
            let digits := cursor.rest.takeWhile Char.isDigit
            match readNumber digits with
            | .ok number => (.ok [⟨.number number, cursor.offset⟩], cursor.skip digits)
            | .error cause => (.error { cause, offset := cursor.offset }, cursor.skip digits)
          else if isWordStart character then
            let spelling := cursor.rest.takeWhile isWordPart
            (.ok [⟨.word (String.ofList spelling), cursor.offset⟩], cursor.skip spelling)
          else
            (.error { cause := .unexpectedCharacter character, offset := cursor.offset }, cursor)

-- One lexical step: the tokens it yields and the cursor after it. `plural` says whether `#` is a
-- token of its own, which matters in text mode only.
def lex (plural : Bool) (cursor : Cursor) : Except SyntaxFault (List LocatedToken) × Cursor :=
  match cursor.mode with
  | .text => cursor.lexText plural
  | .argument => cursor.skipBlank.lexToken

end Cursor

end MessagePattern

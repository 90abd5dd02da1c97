import MessagePattern.Text.Utf8

set_option autoImplicit false

namespace MessagePattern

structure Position where
  line : Nat
  column : Nat
deriving DecidableEq, Repr

namespace Position

def start : Position := { line := 1, column := 1 }

def advance (position : Position) (character : Char) : Position :=
  if character = '\n' then { line := position.line + 1, column := 1 }
  else { position with column := position.column + 1 }

def afterAll (characters : List Char) : Position :=
  characters.foldl advance start

-- The position of the character at a byte offset. An offset that is no boundary of the source
-- counts as its end.
def ofOffset (source : List Char) (offset : Nat) : Position :=
  afterAll ((takeBytes source offset).getD source)

def skipLines : Nat -> List Char -> Nat × List Char
  | 0, source => (0, source)
  | _ + 1, [] => (0, [])
  | count + 1, character :: rest =>
      let skipped := skipLines (if character = '\n' then count else count + 1) rest
      (character.utf8Size + skipped.1, skipped.2)

def byteOffset (source : List Char) (position : Position) : Nat :=
  let skipped := skipLines (position.line - 1) source
  skipped.1 + utf8Length (skipped.2.take (position.column - 1))

end Position

end MessagePattern

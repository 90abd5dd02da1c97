set_option autoImplicit false

namespace MessagePattern

-- The rest of a row of distances. `row` holds the distances of the shorter front of the first text
-- to the fronts of the second; `left` is the distance found last.
def extendRow (letter : Char) : List Char -> List Nat -> Nat -> List Nat
  | other :: rest, diagonal :: above :: row, left =>
      let replaced := if letter = other then diagonal else diagonal + 1
      let here := min replaced (min (above + 1) (left + 1))
      here :: extendRow letter rest (above :: row) here
  | _, _, _ => []

def nextRow (second : List Char) (row : List Nat) (letter : Char) : List Nat :=
  let left := row.headD 0 + 1
  left :: extendRow letter second row left

def distanceRow (first second : List Char) : List Nat :=
  first.foldl (nextRow second) (List.range (second.length + 1))

def editDistance (first second : String) : Nat :=
  (distanceRow first.toList second.toList).getLastD 0

-- How far a suggestion may be from a name: one edit for a name of three bytes or less, two for a
-- longer one.
def maxDistance (name : String) : Nat :=
  if name.utf8ByteSize <= 3 then 1 else 2

structure Candidate where
  distance : Nat
  name : String
deriving DecidableEq, Repr

def Candidate.le (first second : Candidate) : Bool :=
  first.distance < second.distance ||
    (first.distance == second.distance && !(second.name < first.name))

def candidates (name : String) (available : List String) : List Candidate :=
  (available.map fun candidate => ⟨editDistance name candidate, candidate⟩).filter
    fun candidate => 0 < candidate.distance && candidate.distance <= maxDistance name

def maxSuggestions : Nat := 3

def suggestions (name : String) (available : List String) : List String :=
  (((candidates name available).mergeSort Candidate.le).take maxSuggestions).map Candidate.name

end MessagePattern

import Mathlib.Order.Bounds.Basic
import MessagePattern.Message.Suggestion

set_option autoImplicit false

namespace MessagePattern

inductive Edit : List Char -> List Char -> Prop
  | insert (front rest : List Char) (letter : Char) : Edit (front ++ rest) (front ++ letter :: rest)
  | delete (front rest : List Char) (letter : Char) : Edit (front ++ letter :: rest) (front ++ rest)
  | replace (front rest : List Char) (letter other : Char) :
      Edit (front ++ letter :: rest) (front ++ other :: rest)

inductive Edits : Nat -> List Char -> List Char -> Prop
  | none (text : List Char) : Edits 0 text text
  | more {count : Nat} {first second third : List Char} (edit : Edit first second)
      (later : Edits count second third) : Edits (count + 1) first third

def IsEditDistance (first second : String) (distance : Nat) : Prop :=
  IsLeast {count | Edits count first.toList second.toList} distance

def distance : List Char -> List Char -> Nat
  | [], second => second.length
  | first, [] => first.length
  | letter :: first, other :: second =>
      min (if letter = other then distance first second else distance first second + 1)
        (min (distance (letter :: first) second + 1) (distance first (other :: second) + 1))
termination_by first second => first.length + second.length

@[simp] theorem distance_nil_left (second : List Char) : distance [] second = second.length := by
  rw [distance]

@[simp] theorem distance_nil_right (first : List Char) : distance first [] = first.length := by
  cases first <;> simp [distance]

theorem distance_cons_cons (letter other : Char) (first second : List Char) :
    distance (letter :: first) (other :: second) =
      min (if letter = other then distance first second else distance first second + 1)
        (min (distance (letter :: first) second + 1) (distance first (other :: second) + 1)) := by
  rw [distance]

section Rows

-- The distances of a text to another one that grows at its head, letter by letter.
def laterDistances (first second : List Char) : List Char -> List Nat
  | [] => []
  | letter :: rest => distance first (letter :: second) :: laterDistances first (letter :: second) rest

-- A row read from its start: fronts of a text are longer texts when their letters are reversed.
def rowOf (first second : List Char) : List Nat :=
  distance first [] :: laterDistances first [] second

theorem extendRow_laterDistances (letter : Char) (first rest : List Char) :
    ∀ second : List Char,
      extendRow letter rest (distance first second :: laterDistances first second rest)
        (distance (letter :: first) second) = laterDistances (letter :: first) second rest := by
  induction rest with
  | nil =>
    intro second
    rfl
  | cons other rest ih =>
    intro second
    simp only [laterDistances, extendRow]
    have here := distance_cons_cons letter other first second
    rw [Nat.min_comm (distance (letter :: first) second + 1)] at here
    rw [← here, ih (other :: second)]

theorem nextRow_rowOf (first second : List Char) (letter : Char) :
    nextRow second (rowOf first second) letter = rowOf (letter :: first) second := by
  have left : distance first [] + 1 = distance (letter :: first) [] := by simp
  simp only [nextRow, rowOf, List.headD_cons, left]
  rw [extendRow_laterDistances]

theorem foldl_nextRow (letters first second : List Char) :
    letters.foldl (nextRow second) (rowOf first second) =
      rowOf (letters.reverse ++ first) second := by
  induction letters generalizing first with
  | nil => rfl
  | cons letter rest ih =>
    rw [List.foldl_cons, nextRow_rowOf, ih, List.reverse_cons, List.append_assoc,
      List.singleton_append]

theorem laterDistances_nil (second rest : List Char) :
    laterDistances [] second rest = List.range' (second.length + 1) rest.length := by
  induction rest generalizing second with
  | nil => rfl
  | cons letter rest ih => simp [laterDistances, ih, List.range'_succ]

theorem rowOf_nil (second : List Char) : rowOf [] second = List.range (second.length + 1) := by
  rw [rowOf, laterDistances_nil, List.range_eq_range', List.range'_succ]
  simp

theorem getLastD_laterDistances (first second rest : List Char) :
    (laterDistances first second rest).getLastD (distance first second) =
      distance first (rest.reverse ++ second) := by
  induction rest generalizing second with
  | nil => rfl
  | cons letter rest ih =>
    rw [laterDistances, List.getLastD_cons, ih, List.reverse_cons, List.append_assoc,
      List.singleton_append]

theorem editDistance_eq (first second : String) :
    editDistance first second = distance first.toList.reverse second.toList.reverse := by
  rw [editDistance, distanceRow, ← rowOf_nil, foldl_nextRow, rowOf, List.getLastD_cons,
    getLastD_laterDistances, List.append_nil, List.append_nil]

end Rows

section Least

theorem Edit.cons {first second : List Char} (edit : Edit first second) (letter : Char) :
    Edit (letter :: first) (letter :: second) := by
  cases edit with
  | insert front rest added => exact .insert (letter :: front) rest added
  | delete front rest dropped => exact .delete (letter :: front) rest dropped
  | replace front rest old new => exact .replace (letter :: front) rest old new

theorem Edit.reverse {first second : List Char} (edit : Edit first second) :
    Edit first.reverse second.reverse := by
  cases edit with
  | insert front rest letter => simpa using Edit.insert rest.reverse front.reverse letter
  | delete front rest letter => simpa using Edit.delete rest.reverse front.reverse letter
  | replace front rest letter other =>
    simpa using Edit.replace rest.reverse front.reverse letter other

theorem Edits.cons {count : Nat} {first second : List Char} (edits : Edits count first second)
    (letter : Char) : Edits count (letter :: first) (letter :: second) := by
  induction edits with
  | none text => exact .none _
  | more edit _ ih => exact .more (edit.cons letter) ih

theorem Edits.reverse {count : Nat} {first second : List Char}
    (edits : Edits count first second) : Edits count first.reverse second.reverse := by
  induction edits with
  | none text => exact .none _
  | more edit _ ih => exact .more edit.reverse ih

theorem edits_insert (second : List Char) : Edits second.length [] second := by
  induction second with
  | nil => exact .none []
  | cons letter rest ih => exact .more (.insert [] [] letter) (ih.cons letter)

theorem edits_delete (first : List Char) : Edits first.length first [] := by
  induction first with
  | nil => exact .none []
  | cons letter rest ih => exact .more (.delete [] rest letter) ih

theorem edits_distance (first second : List Char) :
    Edits (distance first second) first second := by
  fun_induction distance first second with
  | case1 second => exact edits_insert second
  | case2 first _ => exact edits_delete first
  | case3 letter first other second both inserted deleted =>
    refine min_rec' (Edits · _ _) ?both (min_rec' (Edits · _ _) ?inserted ?deleted)
    case both =>
      split
      next same => exact same ▸ both.cons letter
      next => exact .more (.replace [] first letter other) (both.cons other)
    case inserted => exact .more (.insert [] (letter :: first) other) (inserted.cons other)
    case deleted => exact .more (.delete [] first letter) deleted

theorem distance_cons_right_le (first second : List Char) (other : Char) :
    distance first (other :: second) <= distance first second + 1 := by
  cases first with
  | nil => simp
  | cons letter first =>
    rw [distance_cons_cons]
    omega

theorem distance_cons_left_le (first second : List Char) (letter : Char) :
    distance (letter :: first) second <= distance first second + 1 := by
  cases second with
  | nil => simp
  | cons other second =>
    rw [distance_cons_cons]
    omega

theorem distance_le_cons_left (first second : List Char) (letter : Char) :
    distance first second <= distance (letter :: first) second + 1 := by
  induction second with
  | nil =>
    rw [distance_nil_right, distance_nil_right, List.length_cons]
    omega
  | cons other second ih =>
    have shorter := distance_cons_right_le first second other
    rw [distance_cons_cons]
    split <;> omega

theorem distance_replace_le (first second : List Char) (letter new : Char) :
    distance (letter :: first) second <= distance (new :: first) second + 1 := by
  induction second with
  | nil => simp
  | cons other second ih =>
    rw [distance_cons_cons, distance_cons_cons]
    split <;> split <;> omega

theorem distance_cons_le {first third : List Char}
    (near : ∀ second, distance first second <= distance third second + 1) (letter : Char)
    (second : List Char) :
    distance (letter :: first) second <= distance (letter :: third) second + 1 := by
  induction second with
  | nil => simpa using near []
  | cons other second ih =>
    have both := near second
    have deleted := near (other :: second)
    rw [distance_cons_cons, distance_cons_cons]
    split <;> omega

theorem Edit.distance_le {first third : List Char} (edit : Edit first third) :
    ∀ second, distance first second <= distance third second + 1 := by
  cases edit with
  | insert front rest letter =>
    induction front with
    | nil => exact fun second => distance_le_cons_left rest second letter
    | cons head front ih => exact distance_cons_le ih head
  | delete front rest letter =>
    induction front with
    | nil => exact fun second => distance_cons_left_le rest second letter
    | cons head front ih => exact distance_cons_le ih head
  | replace front rest letter other =>
    induction front with
    | nil => exact fun second => distance_replace_le rest second letter other
    | cons head front ih => exact distance_cons_le ih head

theorem distance_self (text : List Char) : distance text text = 0 := by
  induction text with
  | nil => simp
  | cons letter rest ih => simp [distance_cons_cons, ih]

theorem Edits.distance_le {count : Nat} {first second : List Char}
    (edits : Edits count first second) : distance first second <= count := by
  induction edits with
  | none text => exact Nat.le_of_eq (distance_self text)
  | more edit _ ih =>
    have near := edit.distance_le
    exact Nat.le_trans (near _) (Nat.succ_le_succ ih)

theorem editDistance_isEditDistance (first second : String) :
    IsEditDistance first second (editDistance first second) := by
  rw [editDistance_eq]
  constructor
  next =>
    have edits := (edits_distance first.toList.reverse second.toList.reverse).reverse
    rwa [List.reverse_reverse, List.reverse_reverse] at edits
  next =>
    intro count edits
    exact edits.reverse.distance_le

end Least

end MessagePattern

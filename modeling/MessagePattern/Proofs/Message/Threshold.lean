import MessagePattern.Proofs.Message.Suggestion

set_option autoImplicit false

namespace MessagePattern

theorem distance_map {rename : Char -> Char} (injective : Function.Injective rename)
    (first second : List Char) :
    distance (first.map rename) (second.map rename) = distance first second := by
  fun_induction distance first second with
  | case1 second => simp
  | case2 first _ => simp
  | case3 letter first other second both inserted deleted =>
    rw [List.map_cons] at inserted deleted
    rw [List.map_cons, List.map_cons, distance_cons_cons, both, inserted, deleted]
    simp only [injective.eq_iff]

theorem editDistance_map {rename : Char -> Char} (injective : Function.Injective rename)
    (first second : String) :
    editDistance (first.map rename) (second.map rename) = editDistance first second := by
  rw [editDistance_eq, editDistance_eq, String.toList_map, String.toList_map, ← List.map_reverse,
    ← List.map_reverse, distance_map injective]

theorem length_le_distance (first second : List Char) :
    second.length <= first.length + distance first second := by
  fun_induction distance first second with
  | case1 second => simp
  | case2 first _ => simp
  | case3 letter first other second both inserted deleted =>
    simp only [List.length_cons] at inserted deleted ⊢
    split <;> omega

-- A text that is two edits away, whatever the name.
def lengthened (name : String) : String :=
  name ++ "ss"

theorem editDistance_lengthened (name : String) : editDistance name (lengthened name) = 2 := by
  have reversed : (lengthened name).toList.reverse = 's' :: 's' :: name.toList.reverse := by
    simp [lengthened]
  rw [editDistance_eq, reversed]
  have self := distance_self name.toList.reverse
  have first := distance_cons_right_le name.toList.reverse name.toList.reverse 's'
  have second := distance_cons_right_le name.toList.reverse ('s' :: name.toList.reverse) 's'
  have longer := length_le_distance name.toList.reverse ('s' :: 's' :: name.toList.reverse)
  simp only [List.length_cons] at longer
  omega

theorem maxDistance_of_few {name : String} (few : name.utf8ByteSize <= 3) : maxDistance name = 1 :=
  if_pos few

theorem maxDistance_of_many {name : String} (many : ¬ name.utf8ByteSize <= 3) :
    maxDistance name = 2 :=
  if_neg many

theorem maxDistance_eq_iff {name other : String} :
    maxDistance name = maxDistance other ↔ (name.utf8ByteSize <= 3 ↔ other.utf8ByteSize <= 3) := by
  unfold maxDistance
  split <;> split <;> simp [*]

theorem length_le_utf8ByteSize (name : String) : name.length <= name.utf8ByteSize := by
  rw [← String.length_toList, ← @String.ofList_toList name, utf8ByteSize_ofList,
    String.toList_ofList]
  induction name.toList with
  | nil => simp
  | cons letter rest ih =>
    have positive := letter.utf8Size_pos
    rw [utf8Length_cons, List.length_cons]
    omega

section Suggested

variable {name : String} {available : List String}

theorem suggestions_subset_ranking : suggestions name available ⊆ ranking name available := by
  rw [suggestions_eq_take]
  exact List.take_subset 3 _

theorem candidates_twoAway {candidate : String} (two : editDistance name candidate = 2) :
    candidates name [candidate] = if name.utf8ByteSize <= 3 then [] else [⟨2, candidate⟩] := by
  split
  next few => simp [candidates, two, maxDistance_of_few few]
  next many => simp [candidates, two, maxDistance_of_many many]

theorem suggestions_lengthened (many : ¬ name.utf8ByteSize <= 3) :
    suggestions name [lengthened name] = [lengthened name] := by
  rw [suggestions, candidates_twoAway (editDistance_lengthened name), if_neg many,
    List.mergeSort_singleton]
  rfl

end Suggested

def Candidate.map (rename : Char -> Char) (candidate : Candidate) : Candidate :=
  { candidate with name := candidate.name.map rename }

theorem candidates_map {rename : Char -> Char} (injective : Function.Injective rename)
    {name : String} (kept : maxDistance (name.map rename) = maxDistance name)
    (available : List String) :
    candidates (name.map rename) (available.map (String.map rename)) =
      (candidates name available).map (Candidate.map rename) := by
  simp only [candidates, List.map_map, List.filter_map, Function.comp_def, Candidate.map,
    editDistance_map injective, kept]

theorem maxDistance_map_of_candidates {rename : Char -> Char}
    (injective : Function.Injective rename) {name : String}
    (same : ∀ available, candidates (name.map rename) (available.map (String.map rename)) =
      (candidates name available).map (Candidate.map rename)) :
    maxDistance (name.map rename) = maxDistance name := by
  have two := editDistance_lengthened name
  have renamedTwo := (editDistance_map injective name (lengthened name)).trans two
  have alike := same [lengthened name]
  rw [List.map_singleton, candidates_twoAway two, candidates_twoAway renamedTwo] at alike
  rw [maxDistance_eq_iff]
  by_cases few : name.utf8ByteSize <= 3 <;>
    by_cases renamedFew : (name.map rename).utf8ByteSize <= 3 <;>
      simp [few, renamedFew] at alike ⊢

/-- Just the names of three bytes or less keep their suggestions to one edit. For a longer name all
that is at most two edits away may be suggested. Renaming the characters of a name and of all
candidates alike leaves what may be suggested as it was, just if the name stays among those of three
bytes or less, or among the others. -/
theorem suggestions_threshold (name : String) :
    ((∀ available, ∀ suggestion ∈ suggestions name available,
        suggestion ∈ available ∧ IsEditDistance name suggestion 1) ↔ name.utf8ByteSize <= 3) ∧
    (3 < name.length -> ∀ available,
      suggestions name available = (ranking name available).take 3 ∧
        ∀ candidate, candidate ∈ ranking name available ↔
          candidate ∈ available ∧ Eligible name candidate) ∧
    ∀ rename : Char -> Char, Function.Injective rename ->
      ((∀ available, candidates (name.map rename) (available.map (String.map rename)) =
          (candidates name available).map (Candidate.map rename)) ↔
        (name.utf8ByteSize <= 3 ↔ (name.map rename).utf8ByteSize <= 3)) := by
  refine ⟨⟨?narrow, ?near⟩, ?long, ?renamed⟩
  case narrow =>
    intro single
    by_contra wide
    have suggested : lengthened name ∈ suggestions name [lengthened name] := by
      simp [suggestions_lengthened wide]
    have one := isEditDistance_iff.mp (single _ _ suggested).2
    rw [editDistance_lengthened] at one
    contradiction
  case near =>
    intro few available suggestion suggested
    obtain ⟨offered, apart, near⟩ := mem_ranking_iff.mp (suggestions_subset_ranking suggested)
    rw [maxDistance_of_few few] at near
    exact ⟨offered, isEditDistance_iff.mpr (Nat.le_antisymm near apart)⟩
  case long =>
    intro long available
    have bytes := length_le_utf8ByteSize name
    have two : maxDistance name = 2 := maxDistance_of_many (by omega)
    have counts : maxDistance name = if name.length <= 3 then 1 else 2 := by
      rw [two, if_neg (by omega)]
    exact ⟨suggestions_eq_take, fun _ => mem_ranking_of_maxDistance counts⟩
  case renamed =>
    intro rename injective
    rw [← maxDistance_eq_iff, eq_comm (a := maxDistance name)]
    exact ⟨maxDistance_map_of_candidates injective, candidates_map injective⟩

-- Two accented letters are four bytes, so a text without any of its letters may be suggested.
theorem suggestions_threshold_accented :
    ¬ ∀ name : String, name.length <= 3 -> ∀ available, ∀ suggestion ∈ suggestions name available,
      IsEditDistance name suggestion 1 := by
  intro single
  have suggested : suggestions "éé" ["ab"] = ["ab"] :=
    @suggestions_of_sorted _ _ [⟨2, "ab"⟩] (by decide +kernel) (by decide +kernel)
  have one := isEditDistance_iff.mp (single "éé" (by decide) ["ab"] "ab" (by simp [suggested]))
  revert one
  decide

def withAccent (letter : Char) : Char :=
  if letter = 'i' then 'é' else if letter = 'é' then 'i' else letter

theorem withAccent_injective : Function.Injective withAccent := by
  intro first second same
  grind [withAccent]

-- A name that an accent makes longer, though not too long for one edit.
theorem suggestions_threshold_id :
    "id".utf8ByteSize <= 3 ∧
      (∀ suggestion ∈ suggestions "id" ["if", "aid", "add"], IsEditDistance "id" suggestion 1) ∧
      3 < "item".length ∧ "term" ∈ ranking "item" ["time", "term"] ∧
      Function.Injective withAccent ∧ ("id".map withAccent).utf8ByteSize <= 3 ∧
      candidates ("id".map withAccent) (["if", "aid", "add"].map (String.map withAccent)) =
        [⟨1, "éf"⟩, ⟨1, "aéd"⟩] := by
  have few : "id".utf8ByteSize <= 3 := by decide
  have long : 3 < "item".length := by decide
  have renamedFew : ("id".map withAccent).utf8ByteSize <= 3 := by decide +kernel
  obtain ⟨short, -, renamed⟩ := suggestions_threshold "id"
  obtain ⟨-, ranked⟩ := (suggestions_threshold "item").2.1 long ["time", "term"]
  have eligible : Eligible "item" "term" :=
    ⟨2, isEditDistance_iff.mpr (by decide), by decide, by decide⟩
  have same := (renamed withAccent withAccent_injective).mpr (iff_of_true few renamedFew)
    ["if", "aid", "add"]
  refine ⟨few, fun suggestion suggested => (short.mpr few _ suggestion suggested).2, long,
    (ranked "term").mpr ⟨by decide, eligible⟩, withAccent_injective, renamedFew, ?_⟩
  rw [same]
  decide +kernel

end MessagePattern

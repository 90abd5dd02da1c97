import MessagePattern.Proofs.Message.EditDistance
import MessagePattern.Proofs.Pattern.Lexemes

set_option autoImplicit false

namespace MessagePattern

-- A candidate may be suggested if it is not the name and few edits away from it: one for a name of
-- three characters or less, two for a longer one.
def Eligible (name candidate : String) : Prop :=
  ∃ distance, IsEditDistance name candidate distance ∧ 1 <= distance ∧
    distance <= if name.length <= 3 then 1 else 2

-- The order of suggestions. Names are compared character by character, by code point.
def Nearer (name first second : String) : Prop :=
  ∃ near far, IsEditDistance name first near ∧ IsEditDistance name second far ∧
    (near < far ∨ near = far ∧ first < second)

section Order

theorem Candidate.le_iff {first second : Candidate} :
    first.le second = true ↔ first.distance < second.distance ∨
      first.distance = second.distance ∧ first.name <= second.name := by
  simp only [Candidate.le, Bool.or_eq_true, Bool.and_eq_true, Bool.not_eq_true', decide_eq_true_eq,
    decide_eq_false_iff_not, beq_iff_eq, String.not_lt]

theorem Candidate.le_trans (first second third : Candidate) (front : first.le second = true)
    (back : second.le third = true) : first.le third = true := by
  rw [Candidate.le_iff] at front back ⊢
  rcases front with nearer | ⟨same, before⟩
  · omega
  rcases back with nearer | ⟨alike, after⟩
  · omega
  · exact .inr ⟨same.trans alike, String.le_trans before after⟩

theorem Candidate.le_total (first second : Candidate) :
    (first.le second || second.le first) = true := by
  rw [Bool.or_eq_true, Candidate.le_iff, Candidate.le_iff]
  have names := String.le_total first.name second.name
  rcases Nat.lt_trichotomy first.distance second.distance with near | same | far
  · exact .inl (.inl near)
  · exact names.imp (fun before => .inr ⟨same, before⟩) (fun after => .inr ⟨same.symm, after⟩)
  · exact .inr (.inl far)

theorem Candidate.le_antisymm {first second : Candidate} (before : first.le second = true)
    (after : second.le first = true) : first = second := by
  rw [Candidate.le_iff] at before after
  obtain ⟨distance, name⟩ := first
  obtain ⟨other, partner⟩ := second
  simp only at before after
  have same : distance = other := by omega
  have alike : name = partner :=
    String.le_antisymm (by simpa [same] using before) (by simpa [same] using after)
  rw [same, alike]

theorem mergeSort_le_perm {first second : List Candidate} (perm : first.Perm second) :
    first.mergeSort Candidate.le = second.mergeSort Candidate.le := by
  have sorted := List.pairwise_mergeSort Candidate.le_trans Candidate.le_total
  have same : (first.mergeSort Candidate.le).Perm (second.mergeSort Candidate.le) :=
    (List.mergeSort_perm first _).trans (perm.trans (List.mergeSort_perm second _).symm)
  exact same.eq_of_pairwise (fun _ _ _ _ => Candidate.le_antisymm) (sorted first) (sorted second)

end Order

theorem suggestions_perm (name : String) {available others : List String}
    (perm : others.Perm available) : suggestions name others = suggestions name available := by
  have same : (candidates name others).Perm (candidates name available) :=
    (perm.map _).filter _
  rw [suggestions, suggestions, mergeSort_le_perm same]

theorem suggestions_of_sorted {name : String} {available : List String} {ranked : List Candidate}
    (perm : ranked.Perm (candidates name available))
    (sorted : ranked.Pairwise fun first second => first.le second = true) :
    suggestions name available = (ranked.take maxSuggestions).map Candidate.name := by
  rw [suggestions, ← mergeSort_le_perm perm, List.mergeSort_of_pairwise sorted]

section Distance

theorem IsEditDistance.unique {first second : String} {distance other : Nat}
    (least : IsEditDistance first second distance) (also : IsEditDistance first second other) :
    distance = other :=
  IsLeast.unique least also

theorem isEditDistance_iff {first second : String} {distance : Nat} :
    IsEditDistance first second distance ↔ editDistance first second = distance := by
  have least := editDistance_isEditDistance first second
  exact ⟨least.unique, fun same => same ▸ least⟩

theorem editDistance_self (text : String) : editDistance text text = 0 := by
  rw [editDistance_eq, distance_self]

theorem utf8ByteSize_ofList (text : List Char) :
    (String.ofList text).utf8ByteSize = utf8Length text := by
  induction text with
  | nil => rfl
  | cons letter rest ih =>
    have split : String.ofList (letter :: rest) = String.singleton letter ++ String.ofList rest := by
      simp
    rw [split, String.utf8ByteSize_append, String.utf8ByteSize_singleton, ih, utf8Length_cons]

theorem utf8Size_of_isWordPart {letter : Char} (part : isWordPart letter = true) :
    letter.utf8Size = 1 := by
  rw [isWordPart_iff, isWordStart_iff, isDigit_iff] at part
  rw [Char.utf8Size_eq_one_iff, UInt32.le_iff_toNat_le]
  change letter.toNat ≤ 127
  omega

-- A text of letters, digits and underscores has as many bytes as characters.
theorem utf8Length_of_isWordPart {text : List Char}
    (parts : ∀ letter ∈ text, isWordPart letter = true) : utf8Length text = text.length := by
  induction text with
  | nil => rfl
  | cons letter rest ih =>
    obtain ⟨here, later⟩ := List.forall_mem_cons.mp parts
    rw [utf8Length_cons, utf8Size_of_isWordPart here, ih later, List.length_cons, Nat.add_comm]

theorem maxDistance_of_isWordPart {name : String}
    (parts : ∀ letter ∈ name.toList, isWordPart letter = true) :
    maxDistance name = if name.length <= 3 then 1 else 2 := by
  have size : name.utf8ByteSize = name.length := by
    rw [← String.length_toList, ← utf8Length_of_isWordPart parts, ← utf8ByteSize_ofList,
      String.ofList_toList]
  rw [maxDistance, size]

end Distance

section Ranking

variable {name : String} {available : List String}

theorem mem_candidates {candidate : Candidate} :
    candidate ∈ candidates name available ↔
      candidate.name ∈ available ∧ candidate.distance = editDistance name candidate.name ∧
        0 < candidate.distance ∧ candidate.distance <= maxDistance name := by
  obtain ⟨distance, suggested⟩ := candidate
  simp only [candidates, List.mem_filter, List.mem_map, Candidate.mk.injEq, Bool.and_eq_true,
    decide_eq_true_eq]
  constructor
  · rintro ⟨⟨_, offered, rfl, rfl⟩, near⟩
    exact ⟨offered, rfl, near⟩
  · rintro ⟨offered, rfl, near⟩
    exact ⟨⟨suggested, offered, rfl, rfl⟩, near⟩

def ranking (name : String) (available : List String) : List String :=
  ((candidates name available).mergeSort Candidate.le).map Candidate.name

theorem suggestions_eq_take : suggestions name available = (ranking name available).take 3 := by
  rw [suggestions, ranking, maxSuggestions, List.map_take]

theorem mem_ranking_iff {candidate : String} :
    candidate ∈ ranking name available ↔ candidate ∈ available ∧
      0 < editDistance name candidate ∧ editDistance name candidate <= maxDistance name := by
  simp only [ranking, List.mem_map, List.mem_mergeSort, mem_candidates]
  constructor
  · rintro ⟨⟨distance, suggested⟩, ⟨offered, same, near⟩, rfl⟩
    simp only at same
    exact ⟨offered, same ▸ near⟩
  · rintro ⟨offered, near⟩
    exact ⟨⟨editDistance name candidate, candidate⟩, ⟨offered, rfl, near⟩, rfl⟩

theorem mem_ranking_of_maxDistance (counts : maxDistance name = if name.length <= 3 then 1 else 2)
    {candidate : String} :
    candidate ∈ ranking name available ↔ candidate ∈ available ∧ Eligible name candidate := by
  simp only [mem_ranking_iff, counts, Eligible, isEditDistance_iff]
  constructor
  · rintro ⟨offered, near⟩
    exact ⟨offered, _, rfl, near⟩
  · rintro ⟨offered, _, rfl, near⟩
    exact ⟨offered, near⟩

theorem mem_ranking (parts : ∀ letter ∈ name.toList, isWordPart letter = true)
    {candidate : String} :
    candidate ∈ ranking name available ↔ candidate ∈ available ∧ Eligible name candidate :=
  mem_ranking_of_maxDistance (maxDistance_of_isWordPart parts)

theorem nodup_candidates (distinct : available.Nodup) :
    ((candidates name available).map Candidate.name).Nodup := by
  rw [candidates, List.filter_map, List.map_map, Function.comp_def, List.map_id']
  exact distinct.filter _

theorem pairwise_ranking (distinct : available.Nodup) :
    (ranking name available).Pairwise (Nearer name) := by
  have sorted := List.pairwise_mergeSort Candidate.le_trans Candidate.le_total
    (candidates name available)
  have apart : ((candidates name available).mergeSort Candidate.le).Pairwise
      (fun first second => first.name ≠ second.name) :=
    List.pairwise_map.mp
      (((List.mergeSort_perm _ _).map Candidate.name).nodup_iff.mpr (nodup_candidates distinct))
  rw [ranking, List.pairwise_map]
  refine (sorted.and apart).imp_of_mem ?_
  intro first second firstRanked secondRanked ⟨before, different⟩
  rw [List.mem_mergeSort, mem_candidates] at firstRanked secondRanked
  refine ⟨first.distance, second.distance, isEditDistance_iff.mpr firstRanked.2.1.symm,
    isEditDistance_iff.mpr secondRanked.2.1.symm, ?_⟩
  refine (Candidate.le_iff.mp before).imp_right fun ⟨same, notAfter⟩ => ⟨same, ?_⟩
  exact String.not_le.mp fun notBefore => different (String.le_antisymm notAfter notBefore)

end Ranking

/-- Of the candidates that may be suggested for a word or a number, the suggestions are the first
three. -/
theorem suggestions_best {name : String} {available : List String}
    (parts : ∀ letter ∈ name.toList, isWordPart letter = true) (distinct : available.Nodup) :
    (∃ ranked : List String,
      (∀ candidate, candidate ∈ ranked ↔ candidate ∈ available ∧ Eligible name candidate) ∧
      ranked.Pairwise (Nearer name) ∧ suggestions name available = ranked.take 3) ∧
    (∀ candidate ∈ available, Eligible name candidate ->
      candidate ∉ suggestions name available ->
        (suggestions name available).length = 3 ∧
          ∀ suggestion ∈ suggestions name available, Nearer name suggestion candidate) ∧
    name ∉ suggestions name available ∧
    ∀ others : List String, others.Perm available ->
      suggestions name others = suggestions name available := by
  have sorted : (ranking name available).Pairwise (Nearer name) := pairwise_ranking distinct
  refine ⟨⟨ranking name available, fun _ => mem_ranking parts, sorted, suggestions_eq_take⟩,
    ?best, ?apart, fun others perm => suggestions_perm name perm⟩
  case best =>
    intro candidate offered eligible missing
    rw [suggestions_eq_take] at missing ⊢
    have ranked := (mem_ranking parts).mpr ⟨offered, eligible⟩
    -- What is ranked but not among the first three is ranked behind them.
    rw [← List.take_append_drop 3 (ranking name available)] at ranked sorted
    have later := (List.mem_append.mp ranked).resolve_left missing
    constructor
    · have more := List.length_pos_of_mem later
      rw [List.length_drop] at more
      rw [List.length_take]
      omega
    · intro suggestion suggested
      exact (List.pairwise_append.mp sorted).2.2 suggestion suggested candidate later
  case apart =>
    intro suggested
    rw [suggestions_eq_take] at suggested
    obtain ⟨distance, least, apart, _⟩ := ((mem_ranking parts).mp (List.mem_of_mem_take suggested)).2
    have same := least.unique (editDistance_self name ▸ editDistance_isEditDistance name name)
    omega

def offeredNames : List String :=
  ["stem", "item", "itém", "items", "time", "ite", "Item"]

theorem suggestions_best_item :
    (∀ letter ∈ "item".toList, isWordPart letter = true) ∧ offeredNames.Nodup ∧
      suggestions "item" offeredNames = ["Item", "ite", "items"] ∧
      (∀ suggestion ∈ suggestions "item" offeredNames, Nearer "item" suggestion "stem") ∧
      "item" ∉ suggestions "item" offeredNames ∧
      suggestions "item" offeredNames.reverse = ["Item", "ite", "items"] := by
  have parts : ∀ letter ∈ "item".toList, isWordPart letter = true :=
    List.all_eq_true.mp (by decide)
  have distinct : offeredNames.Nodup := by decide
  have suggested : suggestions "item" offeredNames = ["Item", "ite", "items"] :=
    @suggestions_of_sorted _ _ [⟨1, "Item"⟩, ⟨1, "ite"⟩, ⟨1, "items"⟩, ⟨1, "itém"⟩, ⟨1, "stem"⟩]
      (by decide +kernel) (by decide +kernel)
  have eligible : Eligible "item" "stem" :=
    ⟨1, isEditDistance_iff.mpr (by decide), by decide, by decide⟩
  obtain ⟨-, best, apart, unordered⟩ := suggestions_best parts distinct
  have missing : "stem" ∉ suggestions "item" offeredNames := by
    rw [suggested]
    decide
  exact ⟨parts, distinct, suggested, (best "stem" (by decide) eligible missing).2, apart,
    (unordered offeredNames.reverse offeredNames.reverse_perm).trans suggested⟩

end MessagePattern

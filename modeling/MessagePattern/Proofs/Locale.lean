import Mathlib
import MessagePattern.Locale

set_option autoImplicit false

namespace MessagePattern

namespace Locale

section Letters

variable {letter : Char}

theorem not_isDigit_of_isAlpha (isAlpha : letter.isAlpha = true) : letter.isDigit = false := by
  simp only [Char.isAlpha, Char.isUpper, Char.isLower, Char.isDigit] at *
  grind

theorem toUpper_of_isDigit (isDigit : letter.isDigit = true) : letter.toUpper = letter := by
  refine Char.toUpper_eq_of_not_isLower fun isLower => ?_
  have isAlpha : letter.isAlpha = true := by simp [Char.isAlpha, isLower]
  simp [not_isDigit_of_isAlpha isAlpha] at isDigit

@[simp]
theorem isDigit_toLower (letter : Char) : letter.toLower.isDigit = letter.isDigit := by
  by_cases isUpper : letter.isUpper = true
  · have isAlpha : letter.isAlpha = true := by simp [Char.isAlpha, isUpper]
    have stays : letter.toLower.isAlpha = true := by simpa using isAlpha
    rw [not_isDigit_of_isAlpha isAlpha, not_isDigit_of_isAlpha stays]
  · rw [Char.toLower_eq_of_not_isUpper isUpper]

@[simp]
theorem isAlphanum_toLower (letter : Char) : letter.toLower.isAlphanum = letter.isAlphanum := by
  simp [Char.isAlphanum]

theorem isAlphanum_of_isAlpha (isAlpha : letter.isAlpha = true) : letter.isAlphanum = true := by
  simp [Char.isAlphanum, isAlpha]

theorem isAlphanum_of_isDigit (isDigit : letter.isDigit = true) : letter.isAlphanum = true := by
  simp [Char.isAlphanum, isDigit]

end Letters

-- A kind of subtag whose written form is read as itself, and has no hyphen.
def Settles (read? : List Char -> Option String) : Prop :=
  ∀ subtag text, read? subtag = some text -> read? text.toList = some text ∧ '-' ∉ text.toList

theorem settles_of_written {read? : List Char -> Option String} {accepts : List Char -> Bool}
    {write : List Char -> List Char}
    (reads : ∀ subtag, read? subtag = if accepts subtag then some (.ofList (write subtag)) else none)
    (stays : ∀ subtag, accepts subtag = true ->
      accepts (write subtag) = true ∧ write (write subtag) = write subtag)
    (alphanumeric : ∀ subtag, accepts subtag = true -> ∀ letter ∈ subtag, letter.isAlphanum = true) :
    Settles read? := by
  intro subtag text read
  rw [reads] at read
  split at read
  next accepted =>
    obtain rfl := Option.some.inj read
    obtain ⟨acceptedAgain, same⟩ := stays subtag accepted
    rw [String.toList_ofList, reads, if_pos acceptedAgain, same]
    refine ⟨rfl, fun hyphen => ?_⟩
    exact absurd (alphanumeric _ acceptedAgain _ hyphen) (by decide)
  next => cases read

theorem language?_settles : Settles language? := by
  refine settles_of_written (fun _ => rfl) ?_ ?_
  · intro subtag accepted
    simp only [Bool.and_eq_true, List.all_eq_true] at accepted
    simpa [Function.comp_def, -Bool.decide_and] using accepted
  · intro subtag accepted letter member
    simp only [Bool.and_eq_true, List.all_eq_true] at accepted
    exact isAlphanum_of_isAlpha (accepted.2 letter member)

def capitalized : List Char -> List Char
  | [] => []
  | first :: rest => first.toUpper :: rest.map Char.toLower

theorem script?_eq (subtag : List Char) :
    script? subtag =
      if subtag.length = 4 && subtag.all Char.isAlpha then some (.ofList (capitalized subtag))
      else none := by
  cases subtag <;> rfl

theorem script?_settles : Settles script? := by
  refine settles_of_written script?_eq ?_ ?_
  · intro subtag accepted
    cases subtag with
    | nil => cases accepted
    | cons first rest => simpa [capitalized, Function.comp_def] using accepted
  · intro subtag accepted letter member
    simp only [Bool.and_eq_true, List.all_eq_true] at accepted
    exact isAlphanum_of_isAlpha (accepted.2 letter member)

theorem region?_settles : Settles region? := by
  refine settles_of_written (fun _ => rfl) ?_ ?_
  · intro subtag accepted
    rcases Bool.or_eq_true_iff.mp accepted with letters | digits
    · have stays : (subtag.map Char.toUpper).all Char.isAlpha = subtag.all Char.isAlpha := by
        simp [Function.comp_def]
      simp only [List.length_map, stays, letters, Bool.true_or, List.map_map, true_and]
      simp
    · have areDigits := List.all_eq_true.mp (Bool.and_eq_true_iff.mp digits).2
      have same : subtag.map Char.toUpper = subtag :=
        (List.map_congr_left fun digit member => toUpper_of_isDigit (areDigits digit member)).trans
          (List.map_id _)
      simp only [same, accepted, and_self]
  · intro subtag accepted letter member
    simp only [Bool.or_eq_true, Bool.and_eq_true, List.all_eq_true] at accepted
    rcases accepted with letters | digits
    · exact isAlphanum_of_isAlpha (letters.2 letter member)
    · exact isAlphanum_of_isDigit (digits.2 letter member)

theorem variant?_settles : Settles variant? := by
  refine settles_of_written (fun _ => rfl) ?_ ?_
  · intro subtag accepted
    cases subtag with
    | nil => cases accepted
    | cons first rest => simpa [Function.comp_def] using accepted
  · intro subtag accepted letter member
    simp only [Bool.and_eq_true, List.all_eq_true] at accepted
    exact accepted.2 letter member

-- A script is four letters long, a region shorter, and a variant longer or begun by a digit.
theorem length_of_script? {subtag : List Char} {script : String}
    (read : script? subtag = some script) :
    subtag.length = 4 ∧ ∀ first ∈ subtag.head?, first.isAlpha = true := by
  rw [script?_eq] at read
  split at read
  next accepted =>
    simp only [Bool.and_eq_true, decide_eq_true_eq, List.all_eq_true] at accepted
    exact ⟨accepted.1, fun first isFirst => accepted.2 first (List.mem_of_mem_head? isFirst)⟩
  next => cases read

theorem length_of_region? {subtag : List Char} {region : String}
    (read : region? subtag = some region) : subtag.length < 4 := by
  unfold region? at read
  split at read
  next accepted =>
    simp only [Bool.or_eq_true, Bool.and_eq_true, decide_eq_true_eq] at accepted
    omega
  next => cases read

theorem length_of_variant? {subtag : List Char} {variant : String}
    (read : variant? subtag = some variant) :
    4 < subtag.length ∨
      subtag.length = 4 ∧ ∃ first ∈ subtag.head?, first.isDigit = true := by
  simp only [variant?] at read
  split at read
  next accepted =>
    simp only [Bool.or_eq_true, Bool.and_eq_true, decide_eq_true_eq, Option.any_eq_true] at accepted
    rcases accepted.1 with long | dated
    · exact .inl long.1
    · exact .inr dated
  next => cases read

theorem script?_eq_none_of_region? {subtag : List Char} {region : String}
    (isRegion : region? subtag = some region) : script? subtag = none := by
  refine Option.eq_none_iff_forall_ne_some.mpr fun script isScript => ?_
  have short := length_of_region? isRegion
  have length := (length_of_script? isScript).1
  omega

theorem script?_eq_none_of_variant? {subtag : List Char} {variant : String}
    (isVariant : variant? subtag = some variant) : script? subtag = none := by
  refine Option.eq_none_iff_forall_ne_some.mpr fun script isScript => ?_
  obtain ⟨length, letters⟩ := length_of_script? isScript
  rcases length_of_variant? isVariant with long | ⟨_, first, isFirst, isDigit⟩
  · omega
  · simp [not_isDigit_of_isAlpha (letters first isFirst)] at isDigit

theorem region?_eq_none_of_variant? {subtag : List Char} {variant : String}
    (isVariant : variant? subtag = some variant) : region? subtag = none := by
  refine Option.eq_none_iff_forall_ne_some.mpr fun region isRegion => ?_
  have short := length_of_region? isRegion
  rcases length_of_variant? isVariant with long | ⟨length, _⟩ <;> omega

section Variants

variable {variant : String} {variants inserted : List String}

theorem mem_of_insertNew? (isInserted : insertNew? variant variants = some inserted) {member : String} :
    member ∈ inserted ↔ member = variant ∨ member ∈ variants := by
  induction variants generalizing inserted with
  | nil =>
    cases isInserted
    simp
  | cons first rest ih =>
    rw [insertNew?] at isInserted
    split at isInserted
    next => cases isInserted
    next =>
      split at isInserted
      next =>
        cases isInserted
        simp
      next =>
        obtain ⟨later, laterInserted, rfl⟩ := Option.map_eq_some_iff.mp isInserted
        simp only [List.mem_cons, ih laterInserted]
        tauto

theorem ascending_insertNew? (isInserted : insertNew? variant variants = some inserted)
    (ascending : variants.Pairwise (· < ·)) : inserted.Pairwise (· < ·) := by
  induction variants generalizing inserted with
  | nil =>
    cases isInserted
    simp
  | cons first rest ih =>
    obtain ⟨below, restAscending⟩ := List.pairwise_cons.mp ascending
    rw [insertNew?] at isInserted
    split at isInserted
    next => cases isInserted
    next different =>
      split at isInserted
      next before =>
        cases isInserted
        refine List.pairwise_cons.mpr ⟨?_, ascending⟩
        exact List.forall_mem_cons.mpr
          ⟨before, fun later member => before.trans (below later member)⟩
      next notBefore =>
        obtain ⟨later, laterInserted, rfl⟩ := Option.map_eq_some_iff.mp isInserted
        refine List.pairwise_cons.mpr ⟨?_, ih laterInserted restAscending⟩
        intro member within
        rcases (mem_of_insertNew? laterInserted).mp within with rfl | within
        · exact lt_of_le_of_ne (not_lt.mp notBefore) (Ne.symm different)
        · exact below member within

theorem insertNew?_last (above : ∀ earlier ∈ variants, earlier < variant) :
    insertNew? variant variants = some (variants ++ [variant]) := by
  induction variants with
  | nil => rfl
  | cons first rest ih =>
    have after : first < variant := above first (by simp)
    rw [insertNew?, if_neg after.ne', if_neg after.asymm,
      ih fun earlier member => above earlier (by simp [member])]
    rfl

end Variants

structure Canonical (locale : Locale) : Prop where
  language : language? locale.language.toList = some locale.language
  script : ∀ script ∈ locale.script, script? script.toList = some script
  region : ∀ region ∈ locale.region, region? region.toList = some region
  variants : ∀ variant ∈ locale.variants, variant? variant.toList = some variant
  ascending : locale.variants.Pairwise (· < ·)
  bare : locale.extensions = []

variable {locale result : Locale} {subtags : List (List Char)}

theorem Canonical.readVariants (canonical : locale.Canonical)
    (read : locale.readVariants subtags = .ok result) : result.Canonical := by
  induction subtags generalizing locale with
  | nil =>
    cases read
    exact canonical
  | cons subtag rest ih =>
    rw [Locale.readVariants] at read
    cases inserted : (variant? subtag).bind (insertNew? · locale.variants) with
    | none => simp [inserted] at read
    | some variants =>
      simp only [inserted] at read
      obtain ⟨variant, isVariant, isInserted⟩ := Option.bind_eq_some_iff.mp inserted
      have settled : ∀ text ∈ variants, variant? text.toList = some text := by
        intro text within
        rcases (mem_of_insertNew? isInserted).mp within with rfl | within
        · exact (variant?_settles _ _ isVariant).1
        · exact canonical.variants text within
      have ascending := ascending_insertNew? isInserted canonical.ascending
      have next : Canonical { locale with variants } :=
        { canonical with variants := settled, ascending }
      exact ih next read

theorem Canonical.readRegion (canonical : locale.Canonical)
    (read : locale.readRegion subtags = .ok result) : result.Canonical := by
  unfold Locale.readRegion at read
  split at read
  next =>
    cases read
    exact canonical
  next subtag rest =>
    split at read
    next region isRegion =>
      have settled : ∀ text ∈ some region, region? text.toList = some text := by
        rintro _ ⟨⟩
        exact (region?_settles _ _ isRegion).1
      have next : Canonical { locale with region := some region } :=
        { canonical with region := settled }
      exact next.readVariants read
    next => exact canonical.readVariants read

theorem Canonical.readScript (canonical : locale.Canonical)
    (read : locale.readScript subtags = .ok result) : result.Canonical := by
  unfold Locale.readScript at read
  split at read
  next =>
    cases read
    exact canonical
  next subtag rest =>
    split at read
    next script isScript =>
      have settled : ∀ text ∈ some script, script? text.toList = some text := by
        rintro _ ⟨⟩
        exact (script?_settles _ _ isScript).1
      have next : Canonical { locale with script := some script } :=
        { canonical with script := settled }
      exact next.readRegion read
    next => exact canonical.readRegion read

theorem canonical_of_parse {text : String} (read : parse text = .ok locale) : locale.Canonical := by
  unfold parse at read
  split at read
  next => cases read
  next subtag rest _ =>
    split at read
    next language isLanguage =>
      have canonical : Canonical { language } :=
        { language := (language?_settles _ _ isLanguage).1
          script := by simp
          region := by simp
          variants := by simp
          ascending := .nil
          bare := rfl }
      exact canonical.readScript read
    next => cases read

theorem readVariants_append {variants : List String}
    (settled : ∀ variant ∈ variants, variant? variant.toList = some variant)
    (ascending : (locale.variants ++ variants).Pairwise (· < ·)) :
    locale.readVariants (variants.map String.toList) =
      .ok { locale with variants := locale.variants ++ variants } := by
  induction variants generalizing locale with
  | nil => simp [Locale.readVariants]
  | cons variant rest ih =>
    have above : ∀ earlier ∈ locale.variants, earlier < variant := fun earlier member =>
      (List.pairwise_append.mp ascending).2.2 earlier member variant (by simp)
    rw [List.map_cons, Locale.readVariants, settled variant (by simp), Option.bind_some,
      insertNew?_last above]
    simp only
    rw [ih (fun later member => settled later (by simp [member])) (by simpa using ascending)]
    simp

theorem readRegion_skips (noRegion : ∀ subtag ∈ subtags.head?, region? subtag = none) :
    locale.readRegion subtags = locale.readVariants subtags := by
  cases subtags with
  | nil => rfl
  | cons subtag rest => simp [Locale.readRegion, noRegion subtag rfl]

theorem readScript_skips (noScript : ∀ subtag ∈ subtags.head?, script? subtag = none) :
    locale.readScript subtags = locale.readRegion subtags := by
  cases subtags with
  | nil => rfl
  | cons subtag rest => simp [Locale.readScript, noScript subtag rfl]

section Written

variable {language : String} {script region : Option String} {variants : List String}

theorem readRegion_written (canonical : Canonical { language, script, region, variants }) :
    Locale.readRegion { language, script } ((region.toList ++ variants).map String.toList) =
      .ok { language, script, region, variants } := by
  have ran (region : Option String) :
      Locale.readVariants { language, script, region } (variants.map String.toList) =
        .ok { language, script, region, variants } :=
    readVariants_append canonical.variants canonical.ascending
  cases region with
  | some text =>
    simp [Locale.readRegion, canonical.region text rfl, ran]
  | none =>
    rw [Option.toList_none, List.nil_append, readRegion_skips, ran]
    intro subtag isFirst
    obtain ⟨variant, member, rfl⟩ := List.mem_map.mp (List.mem_of_mem_head? isFirst)
    exact region?_eq_none_of_variant? (canonical.variants variant member)

theorem readScript_written (canonical : Canonical { language, script, region, variants }) :
    Locale.readScript { language }
        ((script.toList ++ region.toList ++ variants).map String.toList) =
      .ok { language, script, region, variants } := by
  cases script with
  | some text =>
    simpa [Locale.readScript, canonical.script text rfl] using readRegion_written canonical
  | none =>
    rw [Option.toList_none, List.nil_append, readScript_skips, readRegion_written canonical]
    intro subtag isFirst
    obtain ⟨text, member, rfl⟩ := List.mem_map.mp (List.mem_of_mem_head? isFirst)
    rcases List.mem_append.mp member with isRegion | isVariant
    · exact script?_eq_none_of_region? (canonical.region text (Option.mem_toList.mp isRegion))
    · exact script?_eq_none_of_variant? (canonical.variants text isVariant)

end Written

theorem Canonical.not_mem_hyphen (canonical : locale.Canonical) :
    ∀ text ∈ locale.language :: (locale.script.toList ++ locale.region.toList ++ locale.variants),
      '-' ∉ text.toList := by
  intro text member
  simp only [List.mem_cons, List.mem_append, Option.mem_toList] at member
  rcases member with rfl | (isScript | isRegion) | isVariant
  · exact (language?_settles _ _ canonical.language).2
  · exact (script?_settles _ _ (canonical.script text isScript)).2
  · exact (region?_settles _ _ (canonical.region text isRegion)).2
  · exact (variant?_settles _ _ (canonical.variants text isVariant)).2

theorem Canonical.rereads (canonical : locale.Canonical) : LocaleReader.Rereads parse locale := by
  have split : locale.tag.toList.splitOn '-' =
      (locale.language :: (locale.script.toList ++ locale.region.toList ++ locale.variants)).map
        String.toList := by
    rw [tag, canonical.bare, List.append_nil, String.toList_intercalate]
    refine List.splitOn_intercalate '-' ?_ (by simp)
    exact List.forall_mem_map.mpr canonical.not_mem_hyphen
  obtain ⟨language, script, region, variants, extensions⟩ := locale
  obtain rfl : extensions = [] := canonical.bare
  rw [LocaleReader.Rereads, parse, split, List.map_cons]
  simp only [canonical.language]
  exact readScript_written canonical

theorem rereads_of_parse {text : String} (read : parse text = .ok locale) :
    LocaleReader.Rereads parse locale :=
  (canonical_of_parse read).rereads

end Locale

end MessagePattern

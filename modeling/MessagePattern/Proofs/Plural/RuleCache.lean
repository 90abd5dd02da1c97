import MessagePattern.Plural.RuleCache
import MessagePattern.Plural.RuleTable
import MessagePattern.Proofs.Outcome

set_option autoImplicit false

namespace MessagePattern

structure RuleRequest where
  locale : Locale
  kind : PluralKind
  operands : Operands

namespace RuleCache

def answer (source : RuleSource) (cache : RuleCache) (request : RuleRequest) :
    Except PluralError PluralCategory × RuleCache :=
  cache.classify source request.locale request.kind request.operands

def answerAll (source : RuleSource) :
    RuleCache -> List RuleRequest -> List (Except PluralError PluralCategory) × RuleCache
  | cache, [] => ([], cache)
  | cache, request :: rest =>
      let (category, after) := cache.answer source request
      let (categories, last) := answerAll source after rest
      (category :: categories, last)

structure Sound (source : RuleSource) (cache : RuleCache) : Prop where
  built : ∀ entry ∈ cache.entries, source entry.1.1 entry.1.2 = .ok entry.2
  distinct : (cache.entries.map Prod.fst).Nodup

variable {source : RuleSource} {cache : RuleCache}

theorem sound_empty : empty.Sound source where
  built := by simp [empty]
  distinct := by simp [empty]

theorem Sound.get? (sound : cache.Sound source) {locale : Locale} {kind : PluralKind}
    {rules : PluralRules} (found : cache.get? locale kind = some rules) :
    source locale kind = .ok rules := by
  obtain ⟨front, back, entries, _⟩ := List.lookup_eq_some_iff.mp found
  exact sound.built ((locale, kind), rules) (by simp [entries])

theorem Sound.add (sound : cache.Sound source) {locale : Locale} {kind : PluralKind}
    {rules : PluralRules} (missing : cache.get? locale kind = none)
    (built : source locale kind = .ok rules) : (cache.add locale kind rules).Sound source where
  built := by
    intro entry member
    rcases List.mem_append.mp member with kept | added
    · exact sound.built entry kept
    · obtain rfl := List.mem_singleton.mp added
      exact built
  distinct := by
    have fresh : (locale, kind) ∉ cache.entries.map Prod.fst := by
      intro present
      obtain ⟨entry, member, same⟩ := List.mem_map.mp present
      simpa [same] using List.lookup_eq_none_iff.mp missing entry member
    rw [RuleCache.add, List.map_append, List.map_singleton, List.nodup_append]
    refine ⟨sound.distinct, by simp, ?_⟩
    rintro key present other added rfl
    obtain rfl := List.mem_singleton.mp added
    exact fresh present

-- What one request can do. The cache grows only where rules are missing and can be built.
theorem answer_cases (source : RuleSource) (cache : RuleCache) (request : RuleRequest) :
    (∃ error, cache.answer source request = (.error error, cache)) ∨
    (∃ category, cache.answer source request = (.ok category, cache)) ∨
    ∃ category rules, cache.get? request.locale request.kind = none ∧
      source request.locale request.kind = .ok rules ∧
      cache.answer source request =
        (.ok category, cache.add request.locale request.kind rules) := by
  rw [answer, classify]
  cases request.operands.seen with
  | error error => exact .inl ⟨error, rfl⟩
  | ok seen =>
    cases missing : cache.get? request.locale request.kind with
    | some rules => exact .inr (.inl ⟨rules.classify seen, rfl⟩)
    | none =>
      cases built : source request.locale request.kind with
      | error error => exact .inl ⟨error, rfl⟩
      | ok rules => exact .inr (.inr ⟨rules.classify seen, rules, rfl, rfl, rfl⟩)

theorem answer_sound (sound : cache.Sound source) (request : RuleRequest) :
    (cache.answer source request).2.Sound source := by
  rcases answer_cases source cache request with
    ⟨_, failed⟩ | ⟨_, found⟩ | ⟨_, rules, missing, built, added⟩
  · rwa [failed]
  · rwa [found]
  · rw [added]
    exact sound.add missing built

theorem answer_eq (sound : cache.Sound source) (request : RuleRequest) :
    (cache.answer source request).1 =
      source.provider request.locale request.kind request.operands := by
  rw [answer, classify, RuleSource.provider]
  cases request.operands.seen with
  | error error => rfl
  | ok seen =>
    rw [ok_bind]
    cases found : cache.get? request.locale request.kind with
    | some rules => rw [sound.get? found, ok_bind, pure_eq_ok]
    | none => cases source request.locale request.kind <;> rfl

theorem answerAll_sound (sound : cache.Sound source) (requests : List RuleRequest) :
    (answerAll source cache requests).2.Sound source := by
  induction requests generalizing cache with
  | nil => exact sound
  | cons request rest ih => exact ih (answer_sound sound request)

theorem answerAll_eq (sound : cache.Sound source) (requests : List RuleRequest) :
    (answerAll source cache requests).1 = requests.map fun request =>
      source.provider request.locale request.kind request.operands := by
  induction requests generalizing cache with
  | nil => rfl
  | cons request rest ih =>
    rw [answerAll, List.map_cons, ← answer_eq sound request, ← ih (answer_sound sound request)]

/-- Whatever is asked for, a cache that was empty at first gives the answers that are given without
one. What it holds then was built for the locale and kind it is kept under, which are there but once,
and a request that fails adds nothing. -/
theorem answers_uncached (source : RuleSource) (requests : List RuleRequest) :
    (answerAll source empty requests).1 = (requests.map fun request =>
      source.provider request.locale request.kind request.operands) ∧
    (answerAll source empty requests).2.Sound source ∧
    ∀ request error,
      ((answerAll source empty requests).2.answer source request).1 = .error error ->
        ((answerAll source empty requests).2.answer source request).2 =
          (answerAll source empty requests).2 := by
  refine ⟨answerAll_eq sound_empty requests, answerAll_sound sound_empty requests, ?_⟩
  intro request error failed
  rcases answer_cases source (answerAll source empty requests).2 request with
    ⟨_, unchanged⟩ | ⟨_, found⟩ | ⟨_, _, _, _, added⟩
  · rw [unchanged]
  · rw [found]
  · rw [added] at failed
    cases failed

def englishRules : RuleSource := fun locale kind =>
  if locale.language = "en" then standardRules locale kind
  else .error (.unsupportedLocale locale.tag "no data")

def wholeRequest (locale : Locale) (kind : PluralKind) (number : Nat) : RuleRequest :=
  { locale, kind, operands := { i := number, v := 0, w := 0, f := 0, t := 0 } }

def frenchRequest : RuleRequest :=
  wholeRequest { language := "fr" } .cardinal 1

def mixedRequests : List RuleRequest :=
  [wholeRequest Locale.english .cardinal 2, frenchRequest, wholeRequest Locale.english .ordinal 2,
    wholeRequest { language := "en", region := some "GB" } .cardinal 1,
    wholeRequest Locale.english .cardinal 1]

theorem answers_uncached_mixed :
    (answerAll englishRules empty mixedRequests).1 =
      [.ok .other, .error (.unsupportedLocale "fr" "no data"), .ok .two, .ok .one, .ok .one] ∧
    (answerAll englishRules empty mixedRequests).2.Sound englishRules ∧
    (answerAll englishRules empty mixedRequests).2.entries.length = 3 ∧
    ((answerAll englishRules empty mixedRequests).2.answer englishRules frenchRequest).1 =
      .error (.unsupportedLocale "fr" "no data") ∧
    ((answerAll englishRules empty mixedRequests).2.answer englishRules frenchRequest).2 =
      (answerAll englishRules empty mixedRequests).2 := by
  obtain ⟨answers, sound, unchanged⟩ := answers_uncached englishRules mixedRequests
  have failed :
      ((answerAll englishRules empty mixedRequests).2.answer englishRules frenchRequest).1 =
        .error (.unsupportedLocale "fr" "no data") := rfl
  exact ⟨answers.trans rfl, sound, rfl, failed, unchanged _ _ failed⟩

end RuleCache

end MessagePattern

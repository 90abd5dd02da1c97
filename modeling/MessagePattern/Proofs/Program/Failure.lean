import MessagePattern.Proofs.Message.Failure
import MessagePattern.Proofs.Plural.SeenDigits
import MessagePattern.Proofs.Program.Agreement
import MessagePattern.Proofs.Program.Emission

set_option autoImplicit false

namespace MessagePattern

inductive Host.Blames (host : Host) (tag field : String) : FormatError -> Prop
  | text {value : Value} (bound : host.bindings.get? field = some value)
      (unwritten : value.render? = none) :
      Blames host tag field (.unsupportedArgumentType field value.kind)
  | number {value : Value} (bound : host.bindings.get? field = some value) :
      Blames host tag field (.expectedNumeric field value.kind)
  | instant {value : Value} (bound : host.bindings.get? field = some value)
      (timeless : value.instant? = none) :
      Blames host tag field (.expectedInstant field value.kind)
  | dateTime {value : Value} {reason : DateTimeError}
      (bound : host.bindings.get? field = some value) :
      Blames host tag field (.dateTime field reason)
  | category {kind : PluralKind} {offset : Int} {locale : Locale} {reduced : Value}
      {reason : PluralError} (read : host.environment.locales tag = .ok locale)
      (reduces : ((host.bindings.get? field).getD .zero).minus? offset = some reduced)
      (failed : host.environment.plurals.category locale kind reduced = .error reason) :
      Blames host tag field (.plural field reason)
  | locale {reason : LocaleError} (unread : host.environment.locales tag = .error reason) :
      Blames host tag field (.invalidLocale tag)

section

variable {host : Host} {tag field : String} {error : FormatError}

theorem readLocale_eq_error :
    host.environment.readLocale tag = .error error ↔
      ∃ reason, host.environment.locales tag = .error reason ∧ .invalidLocale tag = error :=
  mapError_eq_error

theorem readLocale_eq_ok {locale : Locale} :
    host.environment.readLocale tag = .ok locale ↔ host.environment.locales tag = .ok locale :=
  mapError_eq_ok

-- What is missing counts as zero, so only a value that is there can be no number.
theorem bound_of_minus?_eq_none {offset : Int}
    (irreducible : ((host.bindings.get? field).getD .zero).minus? offset = none) :
    ∃ value, host.bindings.get? field = some value ∧
      (host.bindings.get? field).getD .zero = value := by
  cases bound : host.bindings.get? field with
  | none =>
    rw [bound] at irreducible
    cases irreducible
  | some value => exact ⟨value, rfl, rfl⟩

theorem blames_of_printField
    (failed : printField field (host.bindings.get? field) = .error error) :
    host.Blames tag field error := by
  cases bound : host.bindings.get? field with
  | none =>
    rw [bound] at failed
    cases failed
  | some value =>
    rw [bound, printField, printValue_eq_error] at failed
    obtain ⟨unwritten, rfl⟩ := failed
    exact .text bound unwritten

theorem blames_of_reduceValue {offset : Int}
    (failed : reduceValue field ((host.bindings.get? field).getD .zero) offset = .error error) :
    host.Blames tag field error := by
  obtain ⟨irreducible, rfl⟩ := reduceValue_eq_error.mp failed
  obtain ⟨value, bound, same⟩ := bound_of_minus?_eq_none irreducible
  rw [same]
  exact .number bound

theorem blames_of_testSelect {keyword : String}
    (failed : testSelect field (host.bindings.get? field) keyword = .error error) :
    host.Blames tag field error :=
  blames_of_printField (map_eq_error.mp failed)

theorem blames_of_printNumber {offset : Int}
    (failed : printNumber field (host.bindings.get? field) offset = .error error) :
    host.Blames tag field error := by
  rcases bind_eq_error.mp failed with unreduced | ⟨reduced, left, unprinted⟩
  · exact blames_of_reduceValue unreduced
  · have counts := Value.counts_of_minus? (reduceValue_eq_ok.mp left)
    obtain ⟨text, written⟩ := counts.plain.render?
    have unwritten := (printValue_eq_error.mp unprinted).1
    simp [written] at unwritten

theorem blames_of_printInstant {request : DateTimeRequest}
    (failed : host.environment.printInstant tag request field (host.bindings.get? field) =
      .error error) : host.Blames tag field error := by
  unfold Environment.printInstant at failed
  cases bound : host.bindings.get? field with
  | none => simp [bound] at failed
  | some value =>
    simp only [bound] at failed
    cases time : value.instant? with
    | none =>
      simp only [time] at failed
      cases failed
      exact .instant bound time
    | some moment =>
      simp only [time] at failed
      rcases bind_eq_error.mp failed with unread | ⟨locale, _, failed⟩
      · obtain ⟨reason, isUnread, rfl⟩ := readLocale_eq_error.mp unread
        exact .locale isUnread
      · obtain ⟨reason, _, rfl⟩ := mapError_eq_error.mp failed
        exact .dateTime bound

theorem blames_of_testPlural {kind : PluralKind} {offset number : Int} {keyword : String}
    (failed : host.environment.testPlural kind tag offset field (host.bindings.get? field) keyword
      number = .error error) : host.Blames tag field error := by
  simp only [Environment.testPlural] at failed
  split at failed
  · cases equal : ((host.bindings.get? field).getD .zero).equals? number with
    | some holds => simp [equal] at failed
    | none =>
      simp only [equal] at failed
      cases failed
      have irreducible : ((host.bindings.get? field).getD .zero).minus? offset = none :=
        minus?_eq_none_iff.mpr equal
      obtain ⟨value, bound, same⟩ := bound_of_minus?_eq_none irreducible
      rw [same]
      exact .number bound
  · rcases bind_eq_error.mp failed with unread | ⟨locale, read, failed⟩
    · obtain ⟨reason, isUnread, rfl⟩ := readLocale_eq_error.mp unread
      exact .locale isUnread
    rcases bind_eq_error.mp failed with unreduced | ⟨reduced, left, failed⟩
    · exact blames_of_reduceValue unreduced
    rcases bind_eq_error.mp failed with unanswered | ⟨category, _, failed⟩
    · obtain ⟨reason, isUnanswered, rfl⟩ := mapError_eq_error.mp unanswered
      exact .category (readLocale_eq_ok.mp read) (reduceValue_eq_ok.mp left) isUnanswered
    · cases failed

theorem blames_of_fails {nodes : List Node} {instruction : Instruction}
    (emitted : instruction.From tag nodes) (fails : instruction.Fails host error) :
    ∃ node ∈ nodes, ∃ slot, node.slot? = some slot ∧ host.Blames tag slot.key error := by
  cases emitted with
  | text content => cases fails
  | field occurs => exact ⟨_, occurs, _, rfl, blames_of_printField fails⟩
  | dateTime occurs =>
    rw [Instruction.Fails, callText_dateTimeCall] at fails
    exact ⟨_, occurs, _, rfl, blames_of_printInstant fails⟩
  | pound occurs =>
    rw [Instruction.Fails, callText_pound] at fails
    exact ⟨_, occurs, _, rfl, blames_of_printNumber fails⟩
  | select occurs =>
    rw [Instruction.Fails, callBool_selectCall] at fails
    exact ⟨_, occurs, _, rfl, blames_of_testSelect fails⟩
  | plural occurs =>
    rw [Instruction.Fails, callBool_pluralCall] at fails
    exact ⟨_, occurs, _, rfl, blames_of_testPlural fails⟩

end

theorem Message.blames_of_execute {locale : Locale} {message : Message} {program : Program}
    {host : Host} {error : FormatError} (compiled : message.compile locale = .ok program)
    (failed : program.execute host = .error error) :
    ∃ node ∈ message.occurring, ∃ slot, node.slot? = some slot ∧
      host.Blames locale.tag slot.key error := by
  obtain ⟨top, member, instruction, inside, fails⟩ :=
    fails_of_executeAll program.instructions error failed
  exact blames_of_fails (Message.from_of_compile compiled top member instruction inside) fails

-- The argument whose value, category or date an error is about. No other error is about one that
-- was found.
def FormatError.blamed? : FormatError -> Option String
  | .unsupportedArgumentType name _ | .expectedNumeric name _ | .expectedInstant name _
  | .plural name _ | .dateTime name _ => some name
  | .parse _ | .unknownArgument _ _ | .missingSelectOther _ | .missingPluralOther _
  | .poundOutsidePlural | .invalidLocale _ | .malformedCall _ => none

namespace Host.Blames

variable {host : Host} {tag field : String} {locale : Locale} {error : FormatError}

theorem bound_of_category_error {kind : PluralKind} {offset : Int} {reduced : Value}
    {reason : PluralError} (answers : host.environment.plurals.AnswersWhole locale)
    (reduces : ((host.bindings.get? field).getD .zero).minus? offset = some reduced)
    (failed : host.environment.plurals.category locale kind reduced = .error reason) :
    ∃ value, host.bindings.get? field = some value := by
  cases bound : host.bindings.get? field with
  | some value => exact ⟨value, rfl⟩
  | none =>
    rw [bound, Option.getD_none] at reduces
    obtain ⟨integer, whole⟩ := Value.minus?_zero offset
    obtain rfl := Option.some.inj (reduces.symm.trans whole)
    obtain ⟨category, answered⟩ := answers.category kind integer
    rw [answered] at failed
    cases failed

theorem blamed (blames : host.Blames locale.tag field error)
    (readable : host.environment.locales.Rereads locale) : error.blamed? = some field := by
  cases blames with
  | locale unread => cases readable.symm.trans unread
  | _ => rfl

theorem bound (blames : host.Blames locale.tag field error)
    (readable : host.environment.locales.Rereads locale)
    (answers : host.environment.plurals.AnswersWhole locale) :
    ∃ value, host.bindings.get? field = some value := by
  cases blames with
  | text bound | number bound | instant bound | dateTime bound => exact ⟨_, bound⟩
  | category read reduces failed =>
    obtain rfl := Except.ok.inj (readable.symm.trans read)
    exact bound_of_category_error answers reduces failed
  | locale unread => cases readable.symm.trans unread

end Host.Blames

theorem Message.execute_error_blames {locale : Locale} {message : Message} {program : Program}
    (compiled : message.compile locale = .ok program) :
    (∀ host error, host.environment.locales.Rereads locale -> program.execute host = .error error ->
      ∃ name, error.blamed? = some name ∧
        (∃ node ∈ message.occurring, ∃ slot, node.slot? = some slot ∧ slot.key = name) ∧
        (host.environment.plurals.AnswersWhole locale ->
          ∃ value, host.bindings.get? name = some value)) ∧
    ∀ host, host.environment.locales.Rereads locale -> host.bindings = .empty ->
      host.environment.plurals.AnswersWhole locale -> ∃ text, program.execute host = .ok text := by
  constructor
  · intro host error readable failed
    obtain ⟨node, occurs, slot, reads, blames⟩ := Message.blames_of_execute compiled failed
    exact ⟨slot.key, blames.blamed readable, ⟨node, occurs, slot, reads, rfl⟩,
      blames.bound readable⟩
  · intro host readable empty answers
    cases executed : program.execute host with
    | ok text => exact ⟨text, rfl⟩
    | error error =>
      obtain ⟨_, _, _, _, blames⟩ := Message.blames_of_execute compiled executed
      obtain ⟨value, bound⟩ := blames.bound readable answers
      rw [empty, Bindings.get?_empty] at bound
      cases bound

theorem Message.execute_error_blames_guests :
    ∃ program, guestMessage.compile guestTruth.locale = .ok program ∧
      program.execute guestTruth.host = .error (.expectedNumeric "count" .bool) ∧
      (∃ node ∈ guestMessage.occurring, ∃ slot, node.slot? = some slot ∧ slot.key = "count") ∧
      (∃ value, guestTruth.bindings.get? "count" = some value) ∧
      program.execute (guestContext []).host = .ok "none but " := by
  obtain ⟨program, compiled⟩ :
      ∃ program, guestMessage.compile guestTruth.locale = .ok program := ⟨_, rfl⟩
  have readable : guestTruth.environment.locales.Rereads guestTruth.locale :=
    guestContext_rereads _
  have failed : program.execute guestTruth.host = .error (.expectedNumeric "count" .bool) :=
    execute_of_compiled compiled rfl
  have written : program.execute (guestContext []).host = .ok "none but " :=
    execute_of_compiled compiled rfl
  obtain ⟨blames, runs⟩ := Message.execute_error_blames compiled
  obtain ⟨name, isBlamed, occurs, bound⟩ := blames guestTruth.host _ readable failed
  obtain rfl := Option.some.inj isBlamed
  obtain ⟨text, executed⟩ := runs (guestContext []).host (guestContext_rereads _) rfl
    (standardProvider_answersWhole _)
  obtain rfl := Except.ok.inj (written.symm.trans executed)
  exact ⟨program, compiled, failed, occurs, bound (standardProvider_answersWhole _), executed⟩

end MessagePattern

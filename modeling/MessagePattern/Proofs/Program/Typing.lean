import MessagePattern.Proofs.Locale
import MessagePattern.Proofs.Message.Failure
import MessagePattern.Proofs.Plural.SeenDigits
import MessagePattern.Proofs.Program.Agreement
import MessagePattern.Proofs.Program.Gaps
import MessagePattern.Proofs.Program.Segments

set_option autoImplicit false

namespace MessagePattern

def Node.Fits (bindings : Bindings) : Node -> Prop
  | .argument slot | .select slot _ =>
      ∃ value, bindings.get? slot.key = some value ∧ value.Plain
  | .plural slot _ _ _ =>
      ∃ integer, bindings.get? slot.key = some (.number (.integer integer))
  | .dateTime slot _ _ => ∃ moment, bindings.get? slot.key = some (.instant moment)
  | .text _ | .pound => True

def DateTimeService.Answers (service : DateTimeService) (locale : Locale) (zone : String) : Prop :=
  ∀ request moment, ∃ text, service locale zone request moment = .ok text

theorem Node.Fits.bound {bindings : Bindings} {node : Node} (fits : node.Fits bindings)
    {slot : Slot} (reads : node.slot? = some slot) :
    ∃ value, bindings.get? slot.key = some value := by
  cases node with
  | text content => cases reads
  | argument slot =>
    cases reads
    obtain ⟨value, bound, _⟩ := fits
    exact ⟨value, bound⟩
  | dateTime slot kind style =>
    cases reads
    obtain ⟨moment, bound⟩ := fits
    exact ⟨_, bound⟩
  | select slot clauses =>
    cases reads
    obtain ⟨value, bound, _⟩ := fits
    exact ⟨value, bound⟩
  | plural slot kind offset clauses =>
    cases reads
    obtain ⟨integer, bound⟩ := fits
    exact ⟨_, bound⟩
  | pound => cases reads

section

variable {context : FormatContext}

-- Integers wrap around in their own width, and so stay integers.
theorem category_of_integer {kind : PluralKind} {offset : Int} {integer : FixedInteger}
    {reduced : Value} (answers : context.environment.plurals.AnswersWhole context.locale)
    (reduces : (Value.number (.integer integer)).minus? offset = some reduced) :
    ∃ category, context.environment.plurals.category context.locale kind reduced =
      .ok category := by
  obtain rfl := Option.some.inj reduces
  exact answers.category kind (integer.minus offset)

theorem Place.not_fails {place : Place} (complete : place.Complete)
    (fits : place.node.Fits context.bindings)
    (answers : context.environment.plurals.AnswersWhole context.locale)
    (dates : context.environment.dates.Answers context.locale context.environment.timeZone)
    (error : FormatError) : ¬ place.Fails context error := by
  intro fails
  cases fails with
  | gap lacks => exact complete.lacks_nothing _ lacks
  | unbound reads missing =>
    obtain ⟨value, bound⟩ := fits.bound reads
    rw [missing] at bound
    cases bound
  | argument bound unwritten | select bound unwritten =>
    obtain ⟨value, same, plain⟩ := fits
    obtain rfl := Option.some.inj (bound.symm.trans same)
    obtain ⟨text, written⟩ := plain.render?
    rw [unwritten] at written
    cases written
  | instant bound timeless =>
    obtain ⟨moment, same⟩ := fits
    obtain rfl := Option.some.inj (bound.symm.trans same)
    cases timeless
  | dateTime bound timed failed =>
    obtain ⟨text, written⟩ := dates _ _
    rw [failed] at written
    cases written
  | number bound irreducible =>
    obtain ⟨integer, same⟩ := fits
    obtain rfl := Option.some.inj (bound.symm.trans same)
    cases irreducible
  | category bound reduces failed =>
    obtain ⟨integer, same⟩ := fits
    obtain rfl := Option.some.inj (bound.symm.trans same)
    obtain ⟨category, answered⟩ := category_of_integer answers reduces
    rw [failed] at answered
    cases answered

theorem Message.formats_of_fits {message : Message}
    (complete : ∀ place, message.Live place -> place.Complete)
    (fits : ∀ node ∈ message.occurring, node.Fits context.bindings)
    (answers : context.environment.plurals.AnswersWhole context.locale)
    (dates : context.environment.dates.Answers context.locale context.environment.timeZone) :
    ∃ text, message.format context = .ok text := by
  cases formatted : message.format context with
  | ok text => exact ⟨text, rfl⟩
  | error error =>
    obtain ⟨place, live, fails⟩ := Message.fails_of_format formatted
    have fitsHere := fits place.node live.occurs
    exact absurd fails (Place.not_fails (complete place live) fitsHere answers dates error)

end

theorem Message.written_of_fits {context : FormatContext} {message : Message} {program : Program}
    (readable : context.environment.locales.Rereads context.locale)
    (keywords : ∀ node ∈ message.occurring, node.KeywordsNonempty)
    (compiled : message.compile context.locale = .ok program)
    (fits : ∀ node ∈ message.occurring, node.Fits context.bindings)
    (answers : context.environment.plurals.AnswersWhole context.locale)
    (dates : context.environment.dates.Answers context.locale context.environment.timeZone) :
    ∃ text, message.format context = .ok text ∧ program.execute context.host = .ok text ∧
      ∀ escape, ∃ escaped, program.execute { context.host with escape } = .ok escaped := by
  obtain ⟨text, formatted⟩ := Message.formats_of_fits
    (fun _ => Message.complete_of_compile compiled) fits answers dates
  have agrees : Agrees True (message.format context) (program.execute context.host) :=
    Message.agrees readable compiled fun node member =>
      ⟨keywords node member, .inl trivial⟩
  have executed := agrees.eq_of_ok formatted
  exact ⟨text, formatted, executed, fun escape => executeAll_escape escape _ text executed⟩

-- `{who} on {when, date, long} with {guests, plural, offset:1 =9223372036854775807 {none}
-- one {# guest} other {# guests, {all, select, true {all} other {#}}}}`.
def visitMessage : Message :=
  { nodes := [
      .text "", .argument (.name "who"), .text " on ", .dateTime (.name "when") .date .long,
      .text " with ",
      .plural (.name "guests") .cardinal 1 [
        { selector := .exactly 9223372036854775807, body := [.text "none"] },
        { selector := .keyword "one", body := [.text "", .pound, .text " guest"] },
        { selector := .keyword "other"
          body := [
            .text "", .pound, .text " guests, ",
            .select (.name "all") [
              { selector := "true", body := [.text "all"] },
              { selector := "other", body := [.text "#"] }],
            .text ""] }],
      .text ""] }

-- The smallest integer there is, from which no offset can be taken without wrapping around.
def visitContext : FormatContext :=
  guestContext [
    ("who", .text "Ada"), ("when", .instant { seconds := 0, nanoseconds := 0 }),
    ("guests", .number (.integer (.wrap { signed := true, size := .bits64 } (-9223372036854775808)))),
    ("all", .truth true)]

theorem Message.written_of_fits_visit :
    ∃ program, visitMessage.compile visitContext.locale = .ok program ∧
      program.execute visitContext.host =
        .ok "Ada on January 1, 1970 with 9223372036854775807 guests, all" ∧
      ∀ escape, ∃ escaped, program.execute { visitContext.host with escape } = .ok escaped := by
  obtain ⟨program, compiled⟩ :
      ∃ program, visitMessage.compile visitContext.locale = .ok program := ⟨_, rfl⟩
  have readable : visitContext.environment.locales.Rereads visitContext.locale :=
    guestContext_rereads _
  have keywords : ∀ node ∈ visitMessage.occurring, node.KeywordsNonempty := by
    simp [visitMessage, Message.occurring, Node.occurring, Node.occurringAll, occurringPlural,
      occurringSelect, Node.KeywordsNonempty]
  have fits : ∀ node ∈ visitMessage.occurring, node.Fits visitContext.bindings := by
    simp [visitMessage, Message.occurring, Node.occurring, Node.occurringAll, occurringPlural,
      occurringSelect, Node.Fits]
    exact ⟨⟨_, rfl, .text _⟩, ⟨_, rfl⟩, ⟨_, rfl⟩, ⟨_, rfl, .truth _⟩⟩
  have dates : visitContext.environment.dates.Answers visitContext.locale
      visitContext.environment.timeZone := fun _ _ => ⟨_, rfl⟩
  have formatted : visitMessage.format visitContext =
      .ok "Ada on January 1, 1970 with 9223372036854775807 guests, all" := rfl
  obtain ⟨text, same, executed, escapes⟩ := Message.written_of_fits readable keywords compiled fits
    (standardProvider_answersWhole _) dates
  obtain rfl := Except.ok.inj (formatted.symm.trans same)
  exact ⟨program, compiled, executed, escapes⟩

end MessagePattern

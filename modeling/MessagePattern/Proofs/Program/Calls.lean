import MessagePattern.Program.Compile
import MessagePattern.Program.Execute
import MessagePattern.Proofs.Outcome

set_option autoImplicit false

namespace MessagePattern

theorem callBool_selectCall (host : Host) (slot : Slot) (keyword : String) :
    host.callBool (selectCall slot keyword) =
      testSelect slot.key (host.bindings.get? slot.key) keyword := by
  unfold Host.callBool Environment.invoke
  simp only [selectCall, Call.request?, Environment.answer]
  cases testSelect slot.key (host.bindings.get? slot.key) keyword <;> rfl

theorem callBool_pluralCall (host : Host) (tag : String) (slot : Slot) (kind : PluralKind)
    (offset : Int) (selector : Selector) :
    host.callBool (pluralCall tag slot kind offset selector) =
      host.environment.testPlural kind tag offset slot.key (host.bindings.get? slot.key)
        (selector.keyword?.getD "") (selector.number?.getD 0) := by
  unfold Host.callBool Environment.invoke
  simp only [pluralCall, Call.request?, Environment.answer]
  cases host.environment.testPlural kind tag offset slot.key (host.bindings.get? slot.key)
    (selector.keyword?.getD "") (selector.number?.getD 0) <;> rfl

theorem LocaleReader.Rereads.readLocale {environment : Environment} {locale : Locale}
    (readable : environment.locales.Rereads locale) :
    environment.readLocale locale.tag = .ok locale := by
  rw [Environment.readLocale, show environment.locales locale.tag = .ok locale from readable,
    mapError_ok]

def Host.category (host : Host) (tag field : String) (kind : PluralKind) (offset : Int) :
    Except FormatError PluralCategory := do
  let locale <- host.environment.readLocale tag
  let reduced <- reduceValue field ((host.bindings.get? field).getD .zero) offset
  (host.environment.plurals.category locale kind reduced).mapError (.plural field)

theorem callBool_pluralCall_keyword {host : Host} {tag : String} {slot : Slot} {kind : PluralKind}
    {offset : Int} {word : String} (nonempty : word ≠ "") :
    host.callBool (pluralCall tag slot kind offset (.keyword word)) =
      (host.category tag slot.key kind offset).map fun category =>
        Selector.keyword word == .keyword category.keyword := by
  rw [callBool_pluralCall, Environment.testPlural, Host.category]
  rw [if_neg (by simpa [Selector.keyword?] using nonempty)]
  simp only [Selector.keyword?, Option.getD_some]
  cases host.environment.readLocale tag with
  | error error => rfl
  | ok locale =>
    simp only [ok_bind]
    cases reduceValue slot.key ((host.bindings.get? slot.key).getD .zero) offset with
    | error error => rfl
    | ok reduced =>
      simp only [ok_bind]
      cases host.environment.plurals.category locale kind reduced with
      | error error => rfl
      | ok category =>
        have same : (category.keyword == word) =
            (Selector.keyword word == .keyword category.keyword) := by
          rw [Bool.eq_iff_iff]
          simpa using eq_comm
        exact congrArg Except.ok same

theorem callText_dateTimeCall (host : Host) (tag : String) (slot : Slot) (kind : DateTimeKind)
    (style : DateTimeStyle) :
    host.callText (dateTimeCall tag slot kind style) =
      host.environment.printInstant tag (kind.request style) slot.key
        (host.bindings.get? slot.key) := by
  unfold Host.callText Environment.invoke
  simp only [dateTimeCall, Call.request?, DateTimeStyle.ofKeyword?_keyword, Option.map_some,
    Environment.answer]
  cases host.environment.printInstant tag (kind.request style) slot.key
    (host.bindings.get? slot.key) <;> rfl

theorem callText_pound (host : Host) (pound : PoundField) :
    host.callText pound.call =
      printNumber pound.field (host.bindings.get? pound.field) pound.offset := by
  unfold Host.callText Environment.invoke
  simp only [PoundField.call, Call.request?, Environment.answer]
  cases printNumber pound.field (host.bindings.get? pound.field) pound.offset <;> rfl

@[simp] theorem executeAll_singleton (host : Host) (instruction : Instruction) :
    Instruction.executeAll host [instruction] = instruction.execute host := by
  cases executed : instruction.execute host <;> simp [Instruction.executeAll, executed]

theorem executeAll_append (host : Host) (first second : List Instruction) :
    Instruction.executeAll host (first ++ second) = do
      let text <- Instruction.executeAll host first
      let texts <- Instruction.executeAll host second
      return text ++ texts := by
  induction first with
  | nil =>
    cases executed : Instruction.executeAll host second <;>
      simp [Instruction.executeAll, executed]
  | cons instruction rest ih =>
    simp only [List.cons_append, Instruction.executeAll, ih, bind_assoc, pure_bind]
    simp [String.append_assoc]

end MessagePattern

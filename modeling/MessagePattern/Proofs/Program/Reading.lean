import MessagePattern.Proofs.Program.Agreement
import MessagePattern.Proofs.Program.Emission

set_option autoImplicit false

namespace MessagePattern

-- Whether a node finds the same in two sets of bindings. Where a text or a number is asked for, a
-- missing one counts as what stands for it.
def Node.ReadsSame (bindings other : Bindings) : Node -> Prop
  | .argument slot | .select slot _ =>
      printField slot.key (other.get? slot.key) = printField slot.key (bindings.get? slot.key)
  | .plural slot _ _ _ =>
      (other.get? slot.key).getD .zero = (bindings.get? slot.key).getD .zero
  | .dateTime slot _ _ => other.get? slot.key = bindings.get? slot.key
  | .text _ | .pound => True

theorem readsSame_of_agreed {bindings other : Bindings} {node : Node}
    (agreed : ∀ slot, node.slot? = some slot -> other.get? slot.key = bindings.get? slot.key) :
    node.ReadsSame bindings other := by
  cases node with
  | argument slot | select slot clauses => exact congrArg (printField slot.key) (agreed slot rfl)
  | plural slot kind offset clauses => exact congrArg (Option.getD · .zero) (agreed slot rfl)
  | dateTime slot kind style => exact agreed slot rfl
  | text content | pound => trivial

section Depends

variable {host : Host} {other : Bindings} {tag : String} {nodes : List Node}

theorem printNumber_congr {field : String} {value same : Option Value} {offset : Int}
    (equal : same.getD .zero = value.getD .zero) :
    printNumber field same offset = printNumber field value offset := by
  rw [printNumber, printNumber, equal]

theorem testPlural_congr {environment : Environment} {kind : PluralKind} {field keyword : String}
    {value same : Option Value} {offset number : Int}
    (equal : same.getD .zero = value.getD .zero) :
    environment.testPlural kind tag offset field same keyword number =
      environment.testPlural kind tag offset field value keyword number := by
  rw [Environment.testPlural, Environment.testPlural, equal]

theorem sameFor_of_from {instruction : Instruction} (emitted : instruction.From tag nodes)
    (reads : ∀ node ∈ nodes, node.ReadsSame host.bindings other) :
    instruction.SameFor { host with bindings := other } host := by
  cases emitted with
  | text content => rfl
  | field occurs => exact congrArg (Except.map host.escape) (reads _ occurs)
  | dateTime occurs =>
    refine congrArg (Except.map host.escape) ?_
    rw [callText_dateTimeCall, callText_dateTimeCall, reads _ occurs]
  | pound occurs =>
    refine congrArg (Except.map host.escape) ?_
    rw [callText_pound, callText_pound]
    exact printNumber_congr (reads _ occurs)
  | select occurs =>
    rw [Instruction.SameFor, callBool_selectCall, callBool_selectCall]
    exact congrArg (Except.map _) (reads _ occurs)
  | plural occurs =>
    rw [Instruction.SameFor, callBool_pluralCall, callBool_pluralCall]
    exact testPlural_congr (reads _ occurs)

theorem Message.execute_congr {locale : Locale} {message : Message} {program : Program}
    (compiled : message.compile locale = .ok program)
    (reads : ∀ node ∈ message.occurring, node.ReadsSame host.bindings other) :
    program.execute { host with bindings := other } = program.execute host := by
  refine executeAll_congr program.instructions fun top member instruction inside => ?_
  exact sameFor_of_from (Message.from_of_compile compiled top member instruction inside) reads

end Depends

def Node.ReadsText : Node -> Prop
  | .argument _ | .select _ _ => True
  | _ => False

-- Where a node asks for the number of an argument. Its pounds ask for the same one.
def Node.ReadsNumber : Node -> Prop
  | .plural _ _ _ _ => True
  | _ => False

def Message.OccursOnly (message : Message) (key : String) (sort : Node -> Prop) : Prop :=
  ∀ node ∈ message.occurring, ∀ slot, node.slot? = some slot -> slot.key = key -> sort node

section Missing

variable {bindings : Bindings} {key : String} {message : Message}

theorem look_insert {α : Type} {value : Value} (missing : bindings.get? key = none)
    (look : Option Value -> α) (standsFor : look (some value) = look none) (name : String) :
    look ((bindings.insert key value).get? name) = look (bindings.get? name) := by
  rw [Bindings.get?_insert]
  by_cases same : name = key
  · rw [if_pos same, same, missing, standsFor]
  · rw [if_neg same]

theorem readsSame_insert_of_unread {node : Node} {value : Value}
    (unread : ∀ slot, node.slot? = some slot -> slot.key ≠ key) :
    node.ReadsSame bindings (bindings.insert key value) := by
  refine readsSame_of_agreed fun slot reads => ?_
  rw [Bindings.get?_insert, if_neg (unread slot reads)]

theorem readsSame_of_readsText (missing : bindings.get? key = none)
    (texts : message.OccursOnly key Node.ReadsText) :
    ∀ node ∈ message.occurring, node.ReadsSame bindings (bindings.insert key (.text "")) := by
  intro node occurs
  cases node with
  | argument slot | select slot clauses =>
    exact look_insert missing (printField slot.key) rfl slot.key
  | plural slot kind offset clauses | dateTime slot kind style | text content | pound =>
    exact readsSame_insert_of_unread (texts _ occurs)

theorem readsSame_of_readsNumber (missing : bindings.get? key = none)
    (numbers : message.OccursOnly key Node.ReadsNumber) :
    ∀ node ∈ message.occurring, node.ReadsSame bindings (bindings.insert key .zero) := by
  intro node occurs
  cases node with
  | plural slot kind offset clauses =>
    exact look_insert missing (Option.getD · .zero) rfl slot.key
  | argument slot | select slot clauses | dateTime slot kind style | text content | pound =>
    exact readsSame_insert_of_unread (numbers _ occurs)

end Missing

theorem Message.execute_missing {locale : Locale} {message : Message} {program : Program}
    (compiled : message.compile locale = .ok program) (host : Host) (key : String)
    (missing : host.bindings.get? key = none) :
    (message.OccursOnly key Node.ReadsText ->
      program.execute { host with bindings := host.bindings.insert key (.text "") } =
        program.execute host) ∧
    (message.OccursOnly key Node.ReadsNumber ->
      program.execute { host with bindings := host.bindings.insert key .zero } =
        program.execute host) := by
  constructor
  · intro texts
    exact Message.execute_congr compiled (readsSame_of_readsText missing texts)
  · intro numbers
    exact Message.execute_congr compiled (readsSame_of_readsNumber missing numbers)

def hostlessGuests : FormatContext :=
  guestContext [("count", guestCount 4)]

def uncountedGuests : FormatContext :=
  guestContext [("last", .text "me")]

theorem Message.execute_missing_guests :
    ∃ program, guestMessage.compile Locale.english = .ok program ∧
      hostlessGuests.bindings.get? "host" = none ∧
      guestMessage.OccursOnly "host" Node.ReadsText ∧
      program.execute { hostlessGuests.host with
        bindings := hostlessGuests.bindings.insert "host" (.text "") } =
          program.execute hostlessGuests.host ∧
      program.execute hostlessGuests.host = .ok "3 guests of #" ∧
      uncountedGuests.bindings.get? "count" = none ∧
      guestMessage.OccursOnly "count" Node.ReadsNumber ∧
      program.execute { uncountedGuests.host with
        bindings := uncountedGuests.bindings.insert "count" .zero } =
          program.execute uncountedGuests.host ∧
      program.execute uncountedGuests.host = .ok "none but me" := by
  obtain ⟨program, compiled⟩ :
      ∃ program, guestMessage.compile Locale.english = .ok program := ⟨_, rfl⟩
  have hostless : hostlessGuests.bindings.get? "host" = none := rfl
  have texts : guestMessage.OccursOnly "host" Node.ReadsText := by
    simp [guestMessage, Message.OccursOnly, Message.occurring, Node.slot?, Node.ReadsText, Slot.key]
  have uncounted : uncountedGuests.bindings.get? "count" = none := rfl
  have numbers : guestMessage.OccursOnly "count" Node.ReadsNumber := by
    simp [guestMessage, Message.OccursOnly, Message.occurring, Node.slot?, Node.ReadsNumber, Slot.key]
  have anyHost : program.execute hostlessGuests.host = .ok "3 guests of #" :=
    execute_of_compiled compiled rfl
  have noCount : program.execute uncountedGuests.host = .ok "none but me" :=
    execute_of_compiled compiled rfl
  exact ⟨program, compiled, hostless, texts,
    (Message.execute_missing compiled hostlessGuests.host "host" hostless).1 texts, anyHost,
    uncounted, numbers,
    (Message.execute_missing compiled uncountedGuests.host "count" uncounted).2 numbers, noCount⟩

end MessagePattern

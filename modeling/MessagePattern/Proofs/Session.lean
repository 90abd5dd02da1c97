import MessagePattern.Proofs.Message.Pound
import MessagePattern.Proofs.Program.StaticCheck
import MessagePattern.Session

set_option autoImplicit false

namespace MessagePattern

def SessionAnswer.isFailure : SessionAnswer -> Bool
  | .localeError _ | .syntaxError _ | .compileError _ | .formatError _ | .noSuchId => true
  | .configured _ | .count _ | .display _ | .text _ => false

namespace Session

def after : Session -> List SessionStep -> Session
  | session, [] => session
  | session, next :: rest => (session.step next).2.after rest

structure Sound (session : Session) : Prop where
  read : ∀ entry ∈ session.messages, ∃ limit pattern, Message.parse limit pattern = .ok entry.2
  compiled : ∀ entry ∈ session.programs, ∃ limit pattern message locale,
    Message.parse limit pattern = .ok message ∧ message.compile locale = .ok entry.2

-- All that a step can do. What it answers tells what it changes.
inductive Changes (session : Session) : SessionAnswer × Session -> Prop
  | stays (answer : SessionAnswer) : Changes session (answer, session)
  | configured (formatter : Formatter) :
      Changes session (.configured formatter, { session with formatter })
  | bound (bindings : Bindings) : Changes session (.count bindings.size, { session with bindings })
  | read (id : String) {limit : Nat} {pattern : String} {message : Message}
      (parsed : Message.parse limit pattern = .ok message) :
      Changes session (.count message.nodes.length,
        { session with messages := (id, message) :: session.messages })
  | compiled (id : String) {locale : Locale} {message : Message} {program : Program}
      (readable : session.Sound -> ∃ limit pattern, Message.parse limit pattern = .ok message)
      (compiled : message.compile locale = .ok program) :
      Changes session (.display program.display,
        { session with programs := (id, program) :: session.programs })

variable {session : Session}

theorem sound_new (formatter : Formatter) (bindings : Bindings) :
    Sound { formatter, bindings } :=
  ⟨List.forall_mem_nil _, List.forall_mem_nil _⟩

theorem Sound.of_lookup (sound : session.Sound) {id : String} {message : Message}
    (found : session.messages.lookup id = some message) :
    ∃ limit pattern, Message.parse limit pattern = .ok message := by
  obtain ⟨front, back, messages, _⟩ := List.lookup_eq_some_iff.mp found
  exact sound.read (id, message) (by simp [messages])

theorem Sound.of_lookup_program (sound : session.Sound) {id : String} {program : Program}
    (found : session.programs.lookup id = some program) :
    ∃ limit pattern message locale,
      Message.parse limit pattern = .ok message ∧ message.compile locale = .ok program := by
  obtain ⟨front, back, programs, _⟩ := List.lookup_eq_some_iff.mp found
  exact sound.compiled (id, program) (by simp [programs])

theorem compile_eq_ok {formatter : Formatter} {pattern : String} {program : Program} :
    formatter.compile pattern = .ok program ↔
      ∃ message, Message.parse formatter.maxDepth pattern = .ok message ∧
        message.compile formatter.locale = .ok program := by
  rw [Formatter.compile, bind_eq_ok]
  simp only [mapError_eq_ok]
  rfl

theorem step_changes (session : Session) (next : SessionStep) :
    session.Changes (session.step next) := by
  cases next with
  | configure settings =>
    rw [step]
    cases settings.formatter with
    | error error => exact .stays _
    | ok formatter => exact .configured formatter
  | bind name value => exact .bound _
  | unbind name => exact .bound _
  | parse id pattern =>
    rw [step]
    cases parsed : session.formatter.parse pattern with
    | error error => exact .stays _
    | ok message => exact .read id parsed
  | compile id pattern =>
    cases pattern with
    | some pattern =>
      simp only [step, keep]
      cases compiled : session.formatter.compile pattern with
      | error error => exact .stays _
      | ok program =>
        obtain ⟨message, parsed, compiled⟩ := compile_eq_ok.mp compiled
        exact .compiled id (fun _ => ⟨_, _, parsed⟩) compiled
    | none =>
      rw [step]
      cases found : session.messages.lookup id with
      | none => exact .stays _
      | some message =>
        simp only [keep]
        cases compiled : session.formatter.compileMessage message with
        | error error => exact .stays _
        | ok program => exact .compiled id (fun sound => sound.of_lookup found) compiled
  | format id =>
    rw [step]
    cases session.messages.lookup id <;> exact .stays _
  | render id escape =>
    rw [step]
    cases session.programs.lookup id <;> exact .stays _

theorem Changes.eq_of_failure {result : SessionAnswer × Session} (changes : session.Changes result)
    (failed : result.1.isFailure = true) : result.2 = session := by
  cases changes with
  | stays answer => rfl
  | configured formatter | bound bindings | read id parsed | compiled id readable compiled =>
    cases failed

theorem Changes.sound {result : SessionAnswer × Session} (changes : session.Changes result)
    (sound : session.Sound) : result.2.Sound := by
  cases changes with
  | stays answer => exact sound
  | configured formatter => exact ⟨sound.read, sound.compiled⟩
  | bound bindings => exact ⟨sound.read, sound.compiled⟩
  | read id parsed =>
    refine ⟨List.forall_mem_cons.mpr ⟨⟨_, _, parsed⟩, sound.read⟩, sound.compiled⟩
  | compiled id readable compiled =>
    obtain ⟨limit, pattern, parsed⟩ := readable sound
    refine ⟨sound.read, List.forall_mem_cons.mpr ⟨?_, sound.compiled⟩⟩
    exact ⟨limit, pattern, _, _, parsed, compiled⟩

theorem step_of_failure {next : SessionStep} (failed : (session.step next).1.isFailure = true) :
    (session.step next).2 = session :=
  (session.step_changes next).eq_of_failure failed

theorem run_append (session : Session) (first second : List SessionStep) :
    session.run (first ++ second) = session.run first ++ (session.after first).run second := by
  induction first generalizing session with
  | nil => rfl
  | cons next rest ih => exact congrArg _ (ih (session.step next).2)

theorem after_append (session : Session) (first second : List SessionStep) :
    session.after (first ++ second) = (session.after first).after second := by
  induction first generalizing session with
  | nil => rfl
  | cons next rest ih => exact ih (session.step next).2

theorem Sound.after (sound : session.Sound) (steps : List SessionStep) :
    (session.after steps).Sound := by
  induction steps generalizing session with
  | nil => exact sound
  | cons next rest ih => exact ih ((session.step_changes next).sound sound)

def effective : Session -> List SessionStep -> List SessionStep
  | _, [] => []
  | session, next :: rest =>
      let (answer, after) := session.step next
      if answer.isFailure then after.effective rest else next :: after.effective rest

-- Steps that fail leave no trace in the answers to the others.
theorem run_effective (session : Session) (steps : List SessionStep) :
    session.run (session.effective steps) =
        (session.run steps).filter (fun answer => !answer.isFailure) ∧
      session.after (session.effective steps) = session.after steps := by
  induction steps generalizing session with
  | nil => exact ⟨rfl, rfl⟩
  | cons next rest ih =>
    obtain ⟨answers, last⟩ := ih (session.step next).2
    cases failed : (session.step next).1.isFailure with
    | true =>
      have unchanged := step_of_failure failed
      rw [unchanged] at answers last
      simp only [effective, run, after, failed, if_true, unchanged, answers, last]
      simp [failed]
    | false =>
      simp only [effective, run, after, failed, Bool.false_eq_true, if_false, answers, last]
      simp [failed]

@[simp] theorem textAnswer_eq_formatError {outcome : Except FormatError String}
    {error : FormatError} : textAnswer outcome = .formatError error ↔ outcome = .error error := by
  cases outcome <;> simp [textAnswer]

@[simp] theorem textAnswer_ne_compileError {outcome : Except FormatError String}
    {error : CompileError} : textAnswer outcome ≠ .compileError error := by
  cases outcome <;> simp [textAnswer]

@[simp] theorem keep_ne_formatError {id : String} {compiled : Except CompileError Program}
    {error : FormatError} : (session.keep id compiled).1 ≠ .formatError error := by
  cases compiled <;> simp [keep]

@[simp] theorem keep_eq_compileError {id : String} {compiled : Except CompileError Program}
    {error : CompileError} :
    (session.keep id compiled).1 = .compileError error ↔ compiled = .error error := by
  cases compiled <;> simp [keep]

theorem step_eq_formatError {next : SessionStep} {error : FormatError}
    (failed : (session.step next).1 = .formatError error) :
    (∃ id message, session.messages.lookup id = some message ∧
      session.formatter.formatMessage message session.bindings = .error error) ∨
    ∃ id escape program, session.programs.lookup id = some program ∧
      session.formatter.execute program session.bindings escape = .error error := by
  cases next with
  | configure settings => cases made : settings.formatter <;> simp [step, made] at failed
  | bind name value | unbind name => cases failed
  | parse id pattern => cases parsed : session.formatter.parse pattern <;> simp [step, parsed] at failed
  | compile id pattern =>
    cases pattern with
    | some pattern => simp [step] at failed
    | none => cases found : session.messages.lookup id <;> simp [step, found] at failed
  | format id =>
    cases found : session.messages.lookup id with
    | none => simp [step, found] at failed
    | some message =>
      simp only [step, found, textAnswer_eq_formatError] at failed
      exact .inl ⟨id, message, found, failed⟩
  | render id escape =>
    cases found : session.programs.lookup id with
    | none => simp [step, found] at failed
    | some program =>
      simp only [step, found, textAnswer_eq_formatError] at failed
      exact .inr ⟨id, escape, program, found, failed⟩

theorem step_eq_compileError {next : SessionStep} {error : CompileError}
    (failed : (session.step next).1 = .compileError error) :
    (∃ pattern, session.formatter.compile pattern = .error error) ∨
    ∃ id message, session.messages.lookup id = some message ∧
      session.formatter.compileMessage message = .error error := by
  cases next with
  | configure settings => cases made : settings.formatter <;> simp [step, made] at failed
  | bind name value | unbind name => cases failed
  | parse id pattern => cases parsed : session.formatter.parse pattern <;> simp [step, parsed] at failed
  | compile id pattern =>
    cases pattern with
    | some pattern => exact .inl ⟨pattern, by simpa [step] using failed⟩
    | none =>
      cases found : session.messages.lookup id with
      | none => simp [step, found] at failed
      | some message =>
        simp only [step, found, keep_eq_compileError] at failed
        exact .inr ⟨id, message, found, failed⟩
  | format id => cases found : session.messages.lookup id <;> simp [step, found] at failed
  | render id escape => cases found : session.programs.lookup id <;> simp [step, found] at failed

theorem step_ne_poundOutsidePlural (sound : session.Sound) (next : SessionStep) :
    (session.step next).1 ≠ .formatError .poundOutsidePlural ∧
      (session.step next).1 ≠ .compileError .poundOutsidePlural := by
  constructor
  · intro failed
    rcases step_eq_formatError failed with
      ⟨id, message, found, failed⟩ | ⟨id, escape, program, found, failed⟩
    · obtain ⟨limit, pattern, parsed⟩ := sound.of_lookup found
      exact Message.format_ne_poundOutsidePlural parsed _ failed
    · obtain ⟨limit, pattern, message, locale, parsed, compiled⟩ := sound.of_lookup_program found
      exact Message.execute_ne_gap compiled .poundNumber _ failed
  · intro failed
    rcases step_eq_compileError failed with ⟨pattern, failed⟩ | ⟨id, message, found, failed⟩
    · rcases bind_eq_error.mp failed with unread | ⟨message, read, failed⟩
      · obtain ⟨cause, _, other⟩ := mapError_eq_error.mp unread
        cases other
      · exact Message.compile_ne_poundOutsidePlural (mapError_eq_ok.mp read) _ failed
    · obtain ⟨limit, pattern, parsed⟩ := sound.of_lookup found
      exact Message.compile_ne_poundOutsidePlural parsed _ failed

theorem run_ne_poundOutsidePlural (sound : session.Sound) (steps : List SessionStep) :
    ∀ answer ∈ session.run steps,
      answer ≠ .formatError .poundOutsidePlural ∧ answer ≠ .compileError .poundOutsidePlural := by
  induction steps generalizing session with
  | nil => exact List.forall_mem_nil _
  | cons next rest ih =>
    have later := ih ((session.step_changes next).sound sound)
    exact List.forall_mem_cons.mpr ⟨step_ne_poundOutsidePlural sound next, later⟩

theorem render_ne_gap (sound : session.Sound) (steps : List SessionStep) (id : String)
    (escape : String -> String) (gap : Gap) :
    ((session.after steps).step (.render id escape)).1 ≠ .formatError gap.formatError := by
  cases found : (session.after steps).programs.lookup id with
  | none => simp [step, found]
  | some program =>
    obtain ⟨limit, pattern, message, locale, _, compiled⟩ :=
      (sound.after steps).of_lookup_program found
    simp only [step, found, ne_eq, textAnswer_eq_formatError]
    exact Message.execute_ne_gap compiled gap _

end Session

end MessagePattern

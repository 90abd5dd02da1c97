import MessagePattern.Formatter

set_option autoImplicit false

namespace MessagePattern

structure Session where
  formatter : Formatter
  bindings : Bindings := Bindings.empty
  messages : List (String × Message) := []
  programs : List (String × Program) := []

inductive SessionStep
  | configure (settings : FormatterSettings)
  | bind (name : String) (value : Value)
  | unbind (name : String)
  | parse (id : String) (pattern : String)
  -- Compiles a pattern, or else the message of the name, and keeps the program.
  | compile (id : String) (pattern : Option String)
  | format (id : String)
  | render (id : String) (escape : String -> String)

inductive SessionAnswer
  | configured (formatter : Formatter)
  | count (number : Nat)
  | display (program : String)
  | text (content : String)
  | localeError (error : LocaleError)
  | syntaxError (error : SyntaxError)
  | compileError (error : CompileError)
  | formatError (error : FormatError)
  | noSuchId

namespace Session

def textAnswer : Except FormatError String -> SessionAnswer
  | .ok content => .text content
  | .error error => .formatError error

def keep (session : Session) (id : String) (compiled : Except CompileError Program) :
    SessionAnswer × Session :=
  match compiled with
  | .error error => (.compileError error, session)
  | .ok program =>
      (.display program.display, { session with programs := (id, program) :: session.programs })

def step (session : Session) : SessionStep -> SessionAnswer × Session
  | .configure settings =>
      match settings.formatter with
      | .error error => (.localeError error, session)
      | .ok formatter => (.configured formatter, { session with formatter })
  | .bind name value =>
      let bindings := session.bindings.insert name value
      (.count bindings.size, { session with bindings })
  | .unbind name =>
      let bindings := session.bindings.erase name
      (.count bindings.size, { session with bindings })
  | .parse id pattern =>
      match session.formatter.parse pattern with
      | .error error => (.syntaxError error, session)
      | .ok message =>
          (.count message.nodes.length,
            { session with messages := (id, message) :: session.messages })
  | .compile id (some pattern) => session.keep id (session.formatter.compile pattern)
  | .compile id none =>
      match session.messages.lookup id with
      | none => (.noSuchId, session)
      | some message => session.keep id (session.formatter.compileMessage message)
  | .format id =>
      match session.messages.lookup id with
      | none => (.noSuchId, session)
      | some message =>
          (textAnswer (session.formatter.formatMessage message session.bindings), session)
  | .render id escape =>
      match session.programs.lookup id with
      | none => (.noSuchId, session)
      | some program =>
          (textAnswer (session.formatter.execute program session.bindings escape), session)

def run : Session -> List SessionStep -> List SessionAnswer
  | _, [] => []
  | session, next :: rest =>
      let (answer, after) := session.step next
      answer :: after.run rest

end Session

end MessagePattern

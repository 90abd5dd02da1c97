import MessagePattern.DateTime.English
import MessagePattern.Pattern.Parse
import MessagePattern.Plural.RuleTable
import MessagePattern.Program.Compile
import MessagePattern.Program.Execute

set_option autoImplicit false

namespace MessagePattern

def Environment.standard : Environment :=
  { locales := Locale.parse, plurals := standardProvider, dates := English.service
    timeZone := "UTC" }

structure Formatter where
  locale : Locale := Locale.english
  environment : Environment := Environment.standard
  maxDepth : Nat := defaultMaxDepth

namespace Formatter

def parse (formatter : Formatter) (pattern : String) : Except SyntaxError Message :=
  Message.parse formatter.maxDepth pattern

def formatMessage (formatter : Formatter) (message : Message) (bindings : Bindings) :
    Except FormatError String :=
  message.format
    { bindings, locale := formatter.locale, environment := formatter.environment }

def format (formatter : Formatter) (pattern : String) (bindings : Bindings) :
    Except FormatError String := do
  let message <- (formatter.parse pattern).mapError .parse
  formatter.formatMessage message bindings

def formatValues (formatter : Formatter) (pattern : String) (values : List Value) :
    Except FormatError String :=
  formatter.format pattern (Bindings.ofValues values)

def compileMessage (formatter : Formatter) (message : Message) : Except CompileError Program :=
  message.compile formatter.locale

def compile (formatter : Formatter) (pattern : String) : Except CompileError Program := do
  let message <- (formatter.parse pattern).mapError .parse
  formatter.compileMessage message

def execute (formatter : Formatter) (program : Program) (bindings : Bindings)
    (escape : String -> String) : Except FormatError String :=
  program.execute { bindings, environment := formatter.environment, escape }

end Formatter

structure FormatterSettings where
  locale : String := "en"
  timeZone : String := "UTC"
  maxDepth : Nat := defaultMaxDepth
  locales : LocaleReader := Locale.parse
  plurals : PluralProvider := standardProvider
  dates : DateTimeService := English.service

def FormatterSettings.formatter (settings : FormatterSettings) : Except LocaleError Formatter :=
  (settings.locales settings.locale).map fun locale =>
    { locale
      environment :=
        { locales := settings.locales, plurals := settings.plurals, dates := settings.dates
          timeZone := settings.timeZone }
      maxDepth := settings.maxDepth }

end MessagePattern

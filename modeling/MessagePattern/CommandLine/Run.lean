import MessagePattern.CommandLine.Invocation
import MessagePattern.CommandLine.Table
import MessagePattern.CommandLine.TypedValue
import MessagePattern.Formatter
import MessagePattern.Message.Json
import MessagePattern.Pattern.Diagnostic
import MessagePattern.Plural.RuleCache
import MessagePattern.Program.Html

set_option autoImplicit false

namespace MessagePattern.CommandLine

structure Outcome where
  code : Nat
  output : String
  error : String
deriving DecidableEq, Repr

namespace Outcome

def success (text : String) : Outcome :=
  { code := 0, output := text ++ "\n", error := "" }

def usage (error : UsageError) : Outcome :=
  { code := 2, output := "", error := "error: " ++ error.message ++ "\n" }

def unreadable (message : String) : Outcome :=
  { code := 70, output := "", error := message ++ "\n" }

def heading (color : ColorChoice) (text : String) : String :=
  if color = .always then "\x1b[31m" ++ text ++ "\x1b[39m" else text

def failure (color : ColorChoice) (title message : String) : Outcome :=
  { code := 65, output := "", error := heading color title ++ " " ++ message ++ "\n" }

def documentFailure (message : String) : Outcome :=
  { code := 65
    output := ""
    error := (Json.object [("error", .string message)]).pretty ++ "\n" }

end Outcome

def readLocaleTag (tag : String) : Except Outcome Locale :=
  (Locale.parse tag).mapError fun error =>
    Outcome.unreadable ("Invalid locale '" ++ tag ++ "': " ++ error.message)

def syntaxOutcome (pattern : String) (error : SyntaxError) : Outcome :=
  Outcome.unreadable (error.diagnostic pattern).message

def runFormat (formatter : Formatter) (color : ColorChoice) (pattern : String)
    (arguments : GivenArguments) (json : Bool) : Outcome :=
  match formatter.format pattern (readBindings arguments.named arguments.ordered) with
  | .ok text =>
      Outcome.success (if json then (Json.object [("result", .string text)]).pretty else text)
  | .error (.parse error) => syntaxOutcome pattern error
  | .error error =>
      if json then Outcome.documentFailure error.message
      else Outcome.failure color "Formatting error:" error.message

def runParse (formatter : Formatter) (pattern : String) (compact : Bool) : Outcome :=
  match formatter.parse pattern with
  | .ok message =>
      Outcome.success (if compact then message.toJson.compact else message.toJson.pretty)
  | .error error => syntaxOutcome pattern error

def withProgram (formatter : Formatter) (color : ColorChoice) (pattern : String)
    (next : Program -> Outcome) : Outcome :=
  match formatter.compile pattern with
  | .ok program => next program
  | .error (.parse error) => syntaxOutcome pattern error
  | .error error => Outcome.failure color "Compile error:" error.message

def runRender (formatter : Formatter) (color : ColorChoice) (pattern : String)
    (arguments : GivenArguments) (html : Bool) : Outcome :=
  withProgram formatter color pattern fun program =>
    let bindings := readBindings arguments.named arguments.ordered
    match formatter.execute program bindings (if html then escapeHtml else id) with
    | .ok text => Outcome.success text
    | .error error => Outcome.failure color "Rendering error:" error.message

structure OperandRow where
  number : String
  operands : Operands
  cardinal : PluralCategory
  ordinal : PluralCategory
deriving DecidableEq, Repr

namespace OperandRow

def ofNumber (cache : RuleCache) (locale : Locale) (number : String) :
    Except Outcome (OperandRow × RuleCache) := do
  let refuse (message : String) := Outcome.unreadable (number ++ ": " ++ message)
  let operands <- (Operands.ofDecimal number).mapError fun error => refuse error.message
  let (cardinal, cache) := cache.classify standardRules locale .cardinal operands
  let cardinal <- cardinal.mapError fun error => refuse error.message
  let (ordinal, cache) := cache.classify standardRules locale .ordinal operands
  let ordinal <- ordinal.mapError fun error => refuse error.message
  return ({ number, operands, cardinal, ordinal }, cache)

def ofNumbers (locale : Locale) : RuleCache -> List String -> Except Outcome (List OperandRow)
  | _, [] => .ok []
  | cache, number :: rest => do
      let (row, cache) <- ofNumber cache locale number
      let rows <- ofNumbers locale cache rest
      return row :: rows

def header : List String :=
  ["Value", "i", "v", "w", "f", "t", "Cardinal", "Ordinal"]

def cells (row : OperandRow) : List String :=
  [row.number, row.operands.i.repr, row.operands.v.repr, row.operands.w.repr,
    row.operands.f.repr, row.operands.t.repr, row.cardinal.keyword, row.ordinal.keyword]

def toJson (row : OperandRow) : Json :=
  .object [("value", .string row.number), ("i", .number row.operands.i),
    ("v", .number row.operands.v), ("w", .number row.operands.w), ("f", .number row.operands.f),
    ("t", .number row.operands.t), ("cardinal", .string row.cardinal.keyword),
    ("ordinal", .string row.ordinal.keyword)]

end OperandRow

def runOperands (locale : Locale) (numbers : List String) (json : Bool) : Outcome :=
  match OperandRow.ofNumbers locale RuleCache.empty numbers with
  | .error outcome => outcome
  | .ok rows =>
      if json then Outcome.success (Json.array (rows.map OperandRow.toJson)).pretty
      else
        { code := 0
          output := table OperandRow.header (rows.map OperandRow.cells)
          error := "" }

def Invocation.run (invocation : Invocation) : Outcome :=
  match readLocaleTag invocation.locale with
  | .error outcome => outcome
  | .ok locale =>
      let formatter : Formatter :=
        { locale
          environment := { Environment.standard with timeZone := invocation.timeZone }
          maxDepth := invocation.maxDepth }
      match invocation.command with
      | .format pattern arguments json =>
          runFormat formatter invocation.color pattern arguments json
      | .parse pattern compact => runParse formatter pattern compact
      | .compile pattern =>
          withProgram formatter invocation.color pattern fun program =>
            Outcome.success program.display
      | .render pattern arguments html =>
          runRender formatter invocation.color pattern arguments html
      | .operands numbers json => runOperands locale numbers json

def run (surroundings : Surroundings) (arguments : List String) : Outcome :=
  match Invocation.parse surroundings arguments with
  | .error error => Outcome.usage error
  | .ok invocation => invocation.run

end MessagePattern.CommandLine

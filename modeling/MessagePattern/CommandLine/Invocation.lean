import MessagePattern.CommandLine.Scan
import MessagePattern.Decimal.FloatLiteral
import MessagePattern.Pattern.Parse

set_option autoImplicit false

namespace MessagePattern.CommandLine

inductive ColorChoice
  | auto
  | always
  | never
deriving DecidableEq, Repr

def ColorChoice.ofKeyword? (word : String) : Option ColorChoice :=
  match word with
  | "auto" => some .auto
  | "always" => some .always
  | "never" => some .never
  | _ => none

structure GivenArguments where
  named : List (String × String)
  ordered : List String
deriving DecidableEq, Repr

inductive Command
  | format (pattern : String) (arguments : GivenArguments) (json : Bool)
  | parse (pattern : String) (compact : Bool)
  | compile (pattern : String)
  | render (pattern : String) (arguments : GivenArguments) (html : Bool)
  | operands (numbers : List String) (json : Bool)
deriving DecidableEq, Repr

structure Invocation where
  color : ColorChoice
  locale : String
  timeZone : String
  maxDepth : Nat
  command : Command
deriving DecidableEq, Repr

abbrev Surroundings := String -> Option String

def maxDepthLimit : Nat := Nat.pow 2 64 - 1

def readDepth? (text : String) : Option Nat :=
  let digits :=
    match text.toList with
    | '+' :: rest => rest
    | all => all
  if digits.isEmpty || !digits.all Char.isDigit then none
  else
    let depth := Nat.ofDigitChars 10 digits 0
    if depth <= maxDepthLimit then some depth else none

def splitNamed? (text : String) : Option (String × String) :=
  let name := text.toList.takeWhile (· != '=')
  match text.toList.dropWhile (· != '=') with
  | [] => none
  | _ :: value => some (String.ofList name, String.ofList value)

def readValues {α : Type} (scan : Scan) (flag : Flag) (read : String -> Option α) :
    Except UsageError (List α) :=
  (scan.values flag).mapM fun value =>
    match read value with
    | some result => .ok result
    | none => .error (.invalidValue flag value)

def readColor (before after : Scan) : Except UsageError ColorChoice := do
  let outer <- readValues before .color ColorChoice.ofKeyword?
  let inner <- readValues after .color ColorChoice.ofKeyword?
  return (inner.head? <|> outer.head?).getD .auto

def readPattern (scan : Scan) : Except UsageError String :=
  match scan.words with
  | [] => .error .missingArgument
  | [pattern] => .ok pattern
  | _ :: extra :: _ => .error (.unexpectedArgument extra)

def readArguments (scan : Scan) : Except UsageError GivenArguments := do
  let named <- readValues scan .param splitNamed?
  return { named, ordered := scan.values .arg }

def readCommand (name : CommandName) (scan : Scan) : Except UsageError Command :=
  match name with
  | .format => do
      let pattern <- readPattern scan
      let arguments <- readArguments scan
      return .format pattern arguments (scan.has .json)
  | .parse => do
      let pattern <- readPattern scan
      return .parse pattern (scan.has .compact)
  | .compile => do
      let pattern <- readPattern scan
      let arguments <- readArguments scan
      if scan.has .render then return .render pattern arguments (scan.has .html)
      else if scan.has .html then throw (.requires .html .render)
      else return .compile pattern
  | .operands =>
      if scan.words.isEmpty then .error .missingArgument
      else .ok (.operands scan.words (scan.has .json))

def Invocation.parse (surroundings : Surroundings) (arguments : List String) :
    Except UsageError Invocation := do
  let (before, word, rest) <- Scan.runToWord Flag.shared {} arguments
  match CommandName.ofSpelling? word with
  | none => throw (.unknownCommand word)
  | some name =>
      let after <- Scan.run name.flags name.takesNumbers {} rest
      let color <- readColor before after
      let depths <- readValues after .maxDepth readDepth?
      let command <- readCommand name after
      return {
        color
        locale := ((after.values .locale).head? <|> surroundings "MF_LOCALE").getD "en"
        timeZone := ((after.values .timeZone).head? <|> surroundings "MF_TIME_ZONE").getD "UTC"
        maxDepth := depths.head?.getD defaultMaxDepth
        command }

end MessagePattern.CommandLine

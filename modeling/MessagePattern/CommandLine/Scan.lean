import MessagePattern.CommandLine.Flag

set_option autoImplicit false

namespace MessagePattern.CommandLine

inductive UsageError
  | unexpectedArgument (argument : String)
  | unexpectedValue (flag : Flag)
  | missingValue (flag : Flag)
  | invalidValue (flag : Flag) (value : String)
  | repeatedFlag (flag : Flag)
  | missingArgument
  | missingCommand
  | unknownCommand (word : String)
  | requires (flag needed : Flag)
deriving DecidableEq, Repr

namespace UsageError

def message : UsageError -> String
  | .unexpectedArgument argument => "unexpected argument '" ++ argument ++ "'"
  | .unexpectedValue flag => "unexpected value for '--" ++ flag.long ++ "'"
  | .missingValue flag => "a value is required for '--" ++ flag.long ++ "'"
  | .invalidValue flag value => "invalid value '" ++ value ++ "' for '--" ++ flag.long ++ "'"
  | .repeatedFlag flag => "'--" ++ flag.long ++ "' cannot be used multiple times"
  | .missingArgument => "a required argument was not provided"
  | .missingCommand => "a command is required"
  | .unknownCommand word => "unrecognized command '" ++ word ++ "'"
  | .requires flag needed => "'--" ++ flag.long ++ "' requires '--" ++ needed.long ++ "'"

end UsageError

structure GivenFlag where
  flag : Flag
  value : String
deriving DecidableEq, Repr

structure Scan where
  given : List GivenFlag := []
  words : List String := []
  pending : Option Flag := none
  wordsOnly : Bool := false
deriving DecidableEq, Repr

inductive ArgumentShape
  | separator
  | long (name : String) (value : Option String)
  | short (letters : List Char)
  | word
deriving DecidableEq, Repr

def ArgumentShape.ofArgument (argument : String) : ArgumentShape :=
  match argument.toList with
  | ['-', '-'] => .separator
  | '-' :: '-' :: rest =>
      let name := String.ofList (rest.takeWhile (· != '='))
      match rest.dropWhile (· != '=') with
      | [] => .long name none
      | _ :: value => .long name (some (String.ofList value))
  | '-' :: letter :: rest => .short (letter :: rest)
  | _ => .word

namespace Scan

def record (scan : Scan) (flag : Flag) (value : String) : Except UsageError Scan :=
  if !flag.repeats && scan.given.any (·.flag = flag) then .error (.repeatedFlag flag)
  else .ok { scan with given := scan.given ++ [{ flag, value }], pending := none }

def word (runOn : Bool) (scan : Scan) (argument : String) : Except UsageError Scan :=
  match scan.pending with
  | some flag => scan.record flag argument
  | none =>
      .ok { scan with words := scan.words ++ [argument], wordsOnly := scan.wordsOnly || runOn }

def long (scan : Scan) (flag : Flag) (value : Option String) : Except UsageError Scan :=
  match flag.takesValue, value with
  | true, some value => scan.record flag value
  | true, none => .ok { scan with pending := some flag }
  | false, some _ => .error (.unexpectedValue flag)
  | false, none => scan.record flag ""

-- Flags by their letters. The first that takes a value takes what is left, if anything is.
def short (allowed : List Flag) (argument : String) : Scan -> List Char -> Except UsageError Scan
  | scan, [] => .ok scan
  | scan, letter :: rest =>
      match allowed.find? fun flag => flag.short? == some letter with
      | none => .error (.unexpectedArgument argument)
      | some flag =>
          if flag.takesValue then
            match rest with
            | [] => .ok { scan with pending := some flag }
            | '=' :: value => scan.record flag (String.ofList value)
            | value => scan.record flag (String.ofList value)
          else
            match scan.record flag "" with
            | .error error => .error error
            | .ok next => short allowed argument next rest

def notPending (scan : Scan) : Except UsageError Unit :=
  match scan.pending with
  | some flag => .error (.missingValue flag)
  | none => .ok ()

-- Takes one argument. With `runOn`, an argument that is not exactly a known flag is a word.
def step (allowed : List Flag) (runOn : Bool) (scan : Scan) (argument : String) :
    Except UsageError Scan :=
  if scan.wordsOnly then scan.word runOn argument
  else
    match ArgumentShape.ofArgument argument with
    | .separator => do
        scan.notPending
        return { scan with wordsOnly := true }
    | .long name value =>
        match allowed.find? fun flag => flag.long == name with
        | some flag => do
            scan.notPending
            scan.long flag value
        | none =>
            if runOn then scan.word runOn argument else .error (.unexpectedArgument argument)
    | .short letters =>
        let known := letters.all fun letter => allowed.any fun flag => flag.short? == some letter
        if runOn && !known then scan.word runOn argument
        else do
          scan.notPending
          scan.short allowed argument letters
    | .word => scan.word runOn argument

def run (allowed : List Flag) (runOn : Bool) (scan : Scan) (arguments : List String) :
    Except UsageError Scan := do
  let scan <- arguments.foldlM (step allowed runOn) scan
  scan.notPending
  return scan

def runToWord (allowed : List Flag) :
    Scan -> List String -> Except UsageError (Scan × String × List String)
  | _, [] => .error .missingCommand
  | scan, argument :: rest =>
      match scan.step allowed false argument with
      | .error error => .error error
      | .ok next =>
          if next.wordsOnly then .error .missingCommand
          else if next.words.isEmpty then runToWord allowed next rest
          else .ok (next, argument, rest)

def has (scan : Scan) (flag : Flag) : Bool :=
  scan.given.any (·.flag = flag)

def values (scan : Scan) (flag : Flag) : List String :=
  (scan.given.filter (·.flag = flag)).map GivenFlag.value

end Scan

end MessagePattern.CommandLine

import MessagePattern.Bindings
import MessagePattern.Calendar

set_option autoImplicit false

namespace MessagePattern.CommandLine

abbrev Reader (α : Type) := List Char -> Option (α × List Char)

def readDigits (count : Nat) : Reader Nat := fun text =>
  let digits := text.take count
  if digits.length = count && digits.all Char.isDigit then
    some (Nat.ofDigitChars 10 digits 0, text.drop count)
  else
    none

def readOneOf (characters : List Char) : Reader Unit := fun text =>
  match text with
  | first :: rest => if characters.contains first then some ((), rest) else none
  | [] => none

-- A fraction of a second in nanoseconds, if a point comes next. Digits after the ninth are dropped.
def readFraction : Reader Nat := fun text =>
  match text with
  | '.' :: rest =>
      let digits := rest.takeWhile Char.isDigit
      if digits.isEmpty then none
      else
        let nine := (digits ++ List.replicate 9 '0').take 9
        some (Nat.ofDigitChars 10 nine 0, rest.dropWhile Char.isDigit)
  | _ => some (0, text)

def readHoursAndMinutes : Reader Nat := fun text => do
  let (hours, text) <- readDigits 2 text
  let (_, text) <- readOneOf [':'] text
  let (minutes, text) <- readDigits 2 text
  if hours <= 23 && minutes <= 59 then some ((hours * 60 + minutes) * 60, text) else none

def readOffset : Reader Int := fun text =>
  match text with
  | 'Z' :: rest | 'z' :: rest => some (0, rest)
  | '+' :: rest => (readHoursAndMinutes rest).map fun (seconds, rest) => ((seconds : Int), rest)
  | '-' :: rest | '\u2212' :: rest =>
      (readHoursAndMinutes rest).map fun (seconds, rest) => (-(seconds : Int), rest)
  | _ => none

-- A date and a time with an offset, as in `2009-11-10T23:00:00Z`. A second 60 is a leap second.
def readInstant? (text : String) : Option Instant := do
  let (year, rest) <- readDigits 4 text.toList
  let (_, rest) <- readOneOf ['-'] rest
  let (month, rest) <- readDigits 2 rest
  let (_, rest) <- readOneOf ['-'] rest
  let (day, rest) <- readDigits 2 rest
  let (_, rest) <- readOneOf ['T', 't', ' '] rest
  let (hour, rest) <- readDigits 2 rest
  let (_, rest) <- readOneOf [':'] rest
  let (minute, rest) <- readDigits 2 rest
  let (_, rest) <- readOneOf [':'] rest
  let (second, rest) <- readDigits 2 rest
  let (nanoseconds, rest) <- readFraction rest
  let (offset, rest) <- readOffset rest
  let date : CalendarDate := { year, month, day }
  if date.isValid && hour <= 23 && minute <= 59 && second <= 60 && rest.isEmpty then
    let leap := if second = 60 then 1000000000 else 0
    some (Instant.ofCivil date hour minute (min second 59) (nanoseconds + leap) offset)
  else
    none

def argumentInteger : IntegerType := { signed := true, size := .bits64 }

def readFixedInteger? (text : String) : Option FixedInteger := do
  let value <- readInteger? text.toList
  if fits : argumentInteger.Holds value then some { type := argumentInteger, value, holds := fits }
  else none

def readValue (text : String) : Value :=
  if text = "true" then .truth true
  else if text = "false" then .truth false
  else
    match readFixedInteger? text with
    | some integer => .number (.integer integer)
    | none =>
        match readInstant? text with
        | some instant => .instant instant
        | none => .text text

-- Bindings of values in order and of named ones, which go before those in order.
def readBindings (named : List (String × String)) (ordered : List String) : Bindings :=
  named.foldl (fun bindings pair => bindings.insert pair.1 (readValue pair.2))
    (Bindings.ofValues (ordered.map readValue))

end MessagePattern.CommandLine

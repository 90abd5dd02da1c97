import MessagePattern.Calendar
import MessagePattern.DateTime.Service
import MessagePattern.Decimal.Positional

set_option autoImplicit false

namespace MessagePattern

namespace English

def twoDigits (number : Nat) : String :=
  String.ofList (DecimalNumber.padded 2 number)

def monthName (month : Nat) : String :=
  match month with
  | 1 => "January"
  | 2 => "February"
  | 3 => "March"
  | 4 => "April"
  | 5 => "May"
  | 6 => "June"
  | 7 => "July"
  | 8 => "August"
  | 9 => "September"
  | 10 => "October"
  | 11 => "November"
  | _ => "December"

def shortMonthName (month : Nat) : String :=
  String.ofList ((monthName month).toList.take 3)

def weekdayName (weekday : Nat) : String :=
  match weekday with
  | 0 => "Sunday"
  | 1 => "Monday"
  | 2 => "Tuesday"
  | 3 => "Wednesday"
  | 4 => "Thursday"
  | 5 => "Friday"
  | _ => "Saturday"

-- A year with four digits at least. Years outside the four digits carry a sign.
def yearText (year : Int) : String :=
  let sign := if year < 0 then "-" else if 9999 < year then "+" else ""
  sign ++ String.ofList (DecimalNumber.padded 4 year.natAbs)

def dateText (style : DateTimeStyle) (instant : Instant) : String :=
  let date := instant.date
  match style with
  | .short =>
      date.month.repr ++ "/" ++ date.day.repr ++ "/" ++ twoDigits (date.year % 100).toNat
  | .medium =>
      shortMonthName date.month ++ " " ++ date.day.repr ++ ", " ++ yearText date.year
  | .long =>
      monthName date.month ++ " " ++ date.day.repr ++ ", " ++ yearText date.year
  | .full =>
      weekdayName instant.weekday ++ ", " ++ monthName date.month ++ " " ++ date.day.repr ++
        ", " ++ yearText date.year

def clockHour (hour : Nat) : Nat :=
  if hour % 12 = 0 then 12 else hour % 12

def halfDay (hour : Nat) : String :=
  if hour < 12 then "AM" else "PM"

structure Zone where
  short : String
  long : String
deriving DecidableEq, Repr

def zone? (name : String) : Except DateTimeError Zone :=
  match name with
  | "Local" => .error .localTimeZoneUnsupported
  | "UTC" | "Etc/UTC" => .ok { short := "UTC", long := "Coordinated Universal Time" }
  | "GMT" | "Etc/GMT" => .ok { short := "GMT", long := "Greenwich Mean Time" }
  | _ => .error (.unknownTimeZone name)

def timeText (zone : Zone) (style : DateTimeStyle) (instant : Instant) : String :=
  let time := instant.time
  let minutes := (clockHour time.hour).repr ++ ":" ++ twoDigits time.minute
  let seconds := minutes ++ ":" ++ twoDigits time.second
  match style with
  | .short => minutes ++ " " ++ halfDay time.hour
  | .medium => seconds ++ " " ++ halfDay time.hour
  | .long => seconds ++ " " ++ halfDay time.hour ++ " " ++ zone.short
  | .full => seconds ++ " " ++ halfDay time.hour ++ " " ++ zone.long

def joiner : DateTimeStyle -> String
  | .short | .medium => ", "
  | .long | .full => " at "

def write (zone : Zone) (request : DateTimeRequest) (instant : Instant) : String :=
  match request.date, request.time with
  | some date, some time =>
      dateText date instant ++ joiner date ++ timeText zone time instant
  | some date, none => dateText date instant
  | none, some time => timeText zone time instant
  | none, none => ""

-- The service for English locales. The zone is looked at before the locale.
def service : DateTimeService := fun locale zoneName request instant =>
  match zone? zoneName with
  | .error error => .error error
  | .ok zone =>
      if locale.language = "en" then .ok (write zone request instant)
      else .error (.unsupportedLocale locale.tag)

end English

end MessagePattern

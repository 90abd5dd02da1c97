import MessagePattern.Value

set_option autoImplicit false

namespace MessagePattern

structure CalendarDate where
  year : Int
  month : Nat
  day : Nat
deriving DecidableEq, Repr

structure TimeOfDay where
  hour : Nat
  minute : Nat
  -- Sixty in a leap second.
  second : Nat
deriving DecidableEq, Repr

namespace CalendarDate

def cycleDays : Nat := 146097

-- The days from the first of March of the year zero to the first of January 1970.
def epochDay : Int := 719468

def yearOfCycle (day : Nat) : Nat :=
  (day - day / 1460 + day / 36524 - day / 146096) / 365

def daysBeforeYear (year : Nat) : Nat :=
  365 * year + year / 4 - year / 100

def ofDays (days : Int) : CalendarDate :=
  let shifted := days + epochDay
  let cycle := shifted / cycleDays
  let day := (shifted % cycleDays).toNat
  let year := yearOfCycle day
  let dayOfYear := day - daysBeforeYear year
  let month := (5 * dayOfYear + 2) / 153
  let dayOfMonth := dayOfYear - (153 * month + 2) / 5 + 1
  let marchYear := (year : Int) + cycle * 400
  if month < 10 then { year := marchYear, month := month + 3, day := dayOfMonth }
  else { year := marchYear + 1, month := month - 9, day := dayOfMonth }

def toDays (date : CalendarDate) : Int :=
  let marchYear := if date.month <= 2 then date.year - 1 else date.year
  let month := if date.month <= 2 then date.month + 9 else date.month - 3
  let dayOfYear := (153 * month + 2) / 5 + date.day - 1
  let year := (marchYear % 400).toNat
  marchYear / 400 * cycleDays + (daysBeforeYear year + dayOfYear : Nat) - epochDay

def isLeapYear (year : Int) : Bool :=
  year % 4 == 0 && (year % 100 != 0 || year % 400 == 0)

def daysInMonth (year : Int) (month : Nat) : Nat :=
  if month = 2 then (if isLeapYear year then 29 else 28)
  else if month = 4 || month = 6 || month = 9 || month = 11 then 30
  else 31

def isValid (date : CalendarDate) : Bool :=
  1 <= date.month && date.month <= 12 && 1 <= date.day &&
    date.day <= daysInMonth date.year date.month

end CalendarDate

namespace Instant

def daySeconds : Nat := 86400

def days (instant : Instant) : Int :=
  instant.seconds / daySeconds

def date (instant : Instant) : CalendarDate :=
  CalendarDate.ofDays instant.days

def weekday (instant : Instant) : Nat :=
  ((instant.days + 4) % 7).toNat

def time (instant : Instant) : TimeOfDay :=
  let second := (instant.seconds % daySeconds).toNat
  { hour := second / 3600
    minute := second / 60 % 60
    second := second % 60 + instant.nanoseconds / 1000000000 }

def ofCivil (date : CalendarDate) (hour minute second nanoseconds : Nat) (offset : Int) : Instant :=
  { seconds := date.toDays * daySeconds + (hour * 3600 + minute * 60 + second : Nat) - offset
    nanoseconds }

end Instant

end MessagePattern

import MessagePattern.DateTime.Style
import MessagePattern.Locale
import MessagePattern.Value

set_option autoImplicit false

namespace MessagePattern

inductive DateTimeError
  | localTimeZoneUnsupported
  | unknownTimeZone (name : String)
  | unsupportedLocale (locale : String)
deriving DecidableEq, Repr

def DateTimeError.message : DateTimeError -> String
  | .localTimeZoneUnsupported => "local time zone is not supported"
  | .unknownTimeZone name => "unknown time zone '" ++ name ++ "'"
  | .unsupportedLocale locale => "no date/time patterns for locale '" ++ locale ++ "'"

structure DateTimeRequest where
  date : Option DateTimeStyle
  time : Option DateTimeStyle
deriving DecidableEq, Repr

def DateTimeKind.request (kind : DateTimeKind) (style : DateTimeStyle) : DateTimeRequest :=
  { date := kind.dateStyle style, time := kind.timeStyle style }

abbrev DateTimeService :=
  Locale -> String -> DateTimeRequest -> Instant -> Except DateTimeError String

end MessagePattern

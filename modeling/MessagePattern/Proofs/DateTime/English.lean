import MessagePattern.DateTime.English
import MessagePattern.Proofs.Calendar
import MessagePattern.Proofs.Digits

set_option autoImplicit false

namespace MessagePattern

open DecimalNumber

theorem append_mark_inj {front other rest later : List Char} {mark : Char} (absent : mark ∉ front)
    (otherAbsent : mark ∉ other) (same : front ++ mark :: rest = other ++ mark :: later) :
    front = other ∧ rest = later := by
  induction front generalizing other with
  | nil =>
    cases other with
    | nil => exact ⟨rfl, (List.cons.inj same).2⟩
    | cons first others =>
      obtain ⟨isMark, -⟩ := List.cons.inj same
      simp [isMark] at otherAbsent
  | cons first front ih =>
    cases other with
    | nil =>
      obtain ⟨isMark, -⟩ := List.cons.inj same
      simp [isMark] at absent
    | cons second others =>
      obtain ⟨rfl, behind⟩ := List.cons.inj same
      rw [List.mem_cons, not_or] at absent otherAbsent
      obtain ⟨rfl, sameRest⟩ := ih absent.2 otherAbsent.2 behind
      exact ⟨rfl, sameRest⟩

theorem IsDigits.not_mem {digits : List Char} (isDigits : IsDigits digits) {mark : Char}
    (notDigit : mark.isDigit = false) : mark ∉ digits := by
  intro member
  rw [isDigits mark member] at notDigit
  cases notDigit

namespace English

section Fields

theorem toList_twoDigits (number : Nat) : (twoDigits number).toList = padded 2 number :=
  String.toList_ofList

theorem padded_injective {width first second : Nat}
    (same : padded width first = padded width second) : first = second := by
  rw [← numberOf_padded width first, same, numberOf_padded]

theorem toDigits_injective {first second : Nat}
    (same : Nat.toDigits 10 first = Nat.toDigits 10 second) : first = second := by
  rw [← numberOf_toDigits first, same, numberOf_toDigits]

theorem toList_yearText (year : Int) :
    (yearText year).toList =
      (if year < 0 then ['-'] else if 9999 < year then ['+'] else []) ++
        padded 4 year.natAbs := by
  unfold yearText
  rw [String.toList_append, String.toList_ofList]
  split
  next => rfl
  next => split <;> rfl

theorem not_mem_yearText {mark : Char} (year : Int) (notDigit : mark.isDigit = false)
    (notMinus : mark ≠ '-') (notPlus : mark ≠ '+') : mark ∉ (yearText year).toList := by
  rw [toList_yearText, List.mem_append, not_or]
  refine ⟨?_, (isDigits_padded 4 year.natAbs).not_mem notDigit⟩
  split
  next => simpa using notMinus
  next => split <;> simp [notPlus]

theorem yearText_injective : Function.Injective yearText := by
  intro first second same
  have digits (year : Int) :
      (yearText year).toList.filter Char.isDigit = padded 4 year.natAbs := by
    have kept := List.filter_eq_self.mpr (isDigits_padded 4 year.natAbs)
    rw [toList_yearText, List.filter_append, kept]
    split
    next => rfl
    next => split <;> rfl
  have minus (year : Int) : '-' ∈ (yearText year).toList ↔ year < 0 := by
    have notDigit : '-' ∉ padded 4 year.natAbs := (isDigits_padded 4 year.natAbs).not_mem rfl
    rw [toList_yearText, List.mem_append, or_iff_left notDigit]
    split
    next negative => simp [negative]
    next positive => split <;> simp [positive]
  have size : first.natAbs = second.natAbs :=
    padded_injective (by rw [← digits, ← digits, same])
  have sign : first < 0 ↔ second < 0 := by rw [← minus, ← minus, same]
  omega

theorem shortMonthName_injective {first second : Nat} (month : 1 <= first ∧ first <= 12)
    (otherMonth : 1 <= second ∧ second <= 12)
    (same : shortMonthName first = shortMonthName second) : first = second := by
  have distinct : ∀ first < 13, ∀ second < 13, 1 <= first -> 1 <= second ->
      shortMonthName first = shortMonthName second -> first = second := by decide
  exact distinct first (by omega) second (by omega) month.1 otherMonth.1 same

theorem monthName_injective {first second : Nat} (month : 1 <= first ∧ first <= 12)
    (otherMonth : 1 <= second ∧ second <= 12) (same : monthName first = monthName second) :
    first = second :=
  shortMonthName_injective month otherMonth (by rw [shortMonthName, same, shortMonthName])

theorem not_mem_monthName (month : Nat) : ' ' ∉ (monthName month).toList := by
  unfold monthName
  split <;> decide

theorem not_mem_weekdayName (weekday : Nat) : ',' ∉ (weekdayName weekday).toList := by
  unfold weekdayName
  split <;> decide

end Fields

section Dates

def calendarText (nameOf : Nat -> String) (date : CalendarDate) : List Char :=
  (nameOf date.month).toList ++
    ' ' :: (Nat.toDigits 10 date.day ++ ',' :: ' ' :: (yearText date.year).toList)

theorem calendarText_append_inj {nameOf : Nat -> String} {days otherDays : Int}
    {rest later : List Char} {mark : Char} (oneWord : ∀ month, ' ' ∉ (nameOf month).toList)
    (distinct : ∀ {first second : Nat}, 1 <= first ∧ first <= 12 -> 1 <= second ∧ second <= 12 ->
      nameOf first = nameOf second -> first = second)
    (endsYear : ∀ year, mark ∉ (yearText year).toList)
    (same : calendarText nameOf (CalendarDate.ofDays days) ++ mark :: rest =
      calendarText nameOf (CalendarDate.ofDays otherDays) ++ mark :: later) :
    days = otherDays ∧ rest = later := by
  simp only [calendarText, List.append_assoc, List.cons_append] at same
  obtain ⟨names, same⟩ := append_mark_inj (oneWord _) (oneWord _) same
  have comma (day : Nat) : ',' ∉ Nat.toDigits 10 day := (isDigits_toDigits day).not_mem rfl
  obtain ⟨dayDigits, same⟩ := append_mark_inj (comma _) (comma _) same
  obtain ⟨years, sameRest⟩ :=
    append_mark_inj (endsYear _) (endsYear _) (List.cons.inj same).2
  have month := distinct (CalendarDate.month_ofDays days) (CalendarDate.month_ofDays otherDays)
    (String.toList_inj.mp names)
  have day := toDigits_injective dayDigits
  have year := yearText_injective (String.toList_inj.mp years)
  exact ⟨CalendarDate.ofDays_injective (CalendarDate.ext year month day), sameRest⟩

theorem toList_dateText_medium (instant : Instant) :
    (dateText .medium instant).toList = calendarText shortMonthName instant.date := by
  simp [dateText, calendarText, Nat.toList_repr]

theorem toList_dateText_long (instant : Instant) :
    (dateText .long instant).toList = calendarText monthName instant.date := by
  simp [dateText, calendarText, Nat.toList_repr]

theorem toList_dateText_full (instant : Instant) :
    (dateText .full instant).toList = (weekdayName instant.weekday).toList ++
      ',' :: ' ' :: calendarText monthName instant.date := by
  simp [dateText, calendarText, Nat.toList_repr]

theorem dateText_append_inj {style : DateTimeStyle} (notShort : style ≠ .short) {mark : Char}
    (endsDate : mark = ',' ∨ mark = ' ') {first second : Instant} {rest later : List Char}
    (same : (dateText style first).toList ++ mark :: rest =
      (dateText style second).toList ++ mark :: later) :
    first.days = second.days ∧ rest = later := by
  have endsYear (year : Int) : mark ∉ (yearText year).toList := by
    rcases endsDate with rfl | rfl <;>
      exact not_mem_yearText year rfl (by decide) (by decide)
  have oneWord (month : Nat) : ' ' ∉ (shortMonthName month).toList := by
    rw [shortMonthName, String.toList_ofList]
    exact fun member => not_mem_monthName month (List.mem_of_mem_take member)
  cases style with
  | short => exact absurd rfl notShort
  | medium =>
    rw [toList_dateText_medium, toList_dateText_medium] at same
    exact calendarText_append_inj oneWord shortMonthName_injective endsYear same
  | long =>
    rw [toList_dateText_long, toList_dateText_long] at same
    exact calendarText_append_inj not_mem_monthName monthName_injective endsYear same
  | full =>
    rw [toList_dateText_full, toList_dateText_full, List.append_assoc, List.append_assoc] at same
    obtain ⟨-, behind⟩ :=
      append_mark_inj (not_mem_weekdayName _) (not_mem_weekdayName _) same
    exact calendarText_append_inj not_mem_monthName monthName_injective endsYear
      (List.cons.inj behind).2

end Dates

section Times

def clockText (time : TimeOfDay) : List Char :=
  Nat.toDigits 10 (clockHour time.hour) ++ ':' :: (padded 2 time.minute ++
    ':' :: (padded 2 time.second ++ ' ' :: (halfDay time.hour).toList))

def zoneText (zone : Zone) : DateTimeStyle -> List Char
  | .short | .medium => []
  | .long => ' ' :: zone.short.toList
  | .full => ' ' :: zone.long.toList

theorem toList_timeText (zone : Zone) {style : DateTimeStyle} (notShort : style ≠ .short)
    (instant : Instant) :
    (timeText zone style instant).toList = clockText instant.time ++ zoneText zone style := by
  cases style with
  | short => exact absurd rfl notShort
  | medium | long | full =>
    simp [timeText, clockText, zoneText, Nat.toList_repr, toList_twoDigits]

theorem hour_eq_of_clock {first second : Nat} (inDay : first < 24) (alsoInDay : second < 24)
    (clock : clockHour first = clockHour second) (half : halfDay first = halfDay second) :
    first = second := by
  unfold clockHour at clock
  have before : first < 12 ↔ second < 12 := by
    by_cases early : first < 12 <;> by_cases alsoEarly : second < 12 <;>
      simp [halfDay, early, alsoEarly] at half ⊢
  split at clock <;> split at clock <;> omega

theorem timeText_inj {zone : Zone} {style : DateTimeStyle} (notShort : style ≠ .short)
    {first second : Instant} (same : timeText zone style first = timeText zone style second) :
    first.time = second.time := by
  have clocks := congrArg String.toList same
  rw [toList_timeText zone notShort, toList_timeText zone notShort] at clocks
  have clocks := List.append_cancel_right clocks
  have digits (number : Nat) : IsDigits (Nat.toDigits 10 number) := isDigits_toDigits number
  have fields (number : Nat) : IsDigits (padded 2 number) := isDigits_padded 2 number
  obtain ⟨clock, clocks⟩ :=
    append_mark_inj ((digits _).not_mem rfl) ((digits _).not_mem rfl) clocks
  obtain ⟨minute, clocks⟩ :=
    append_mark_inj ((fields _).not_mem rfl) ((fields _).not_mem rfl) clocks
  obtain ⟨seconds, half⟩ :=
    append_mark_inj ((fields _).not_mem rfl) ((fields _).not_mem rfl) clocks
  have hour := hour_eq_of_clock first.hour_lt second.hour_lt (toDigits_injective clock)
    (String.toList_inj.mp half)
  exact TimeOfDay.ext hour (padded_injective minute) (padded_injective seconds)

end Times

theorem service_eq_ok {locale : Locale} {zoneName : String} {zone : Zone}
    (accepted : zone? zoneName = .ok zone) (english : locale.language = "en")
    (request : DateTimeRequest) (instant : Instant) :
    service locale zoneName request instant = .ok (write zone request instant) := by
  simp [service, accepted, english]

theorem write_dateTime_inj {zone : Zone} {style : DateTimeStyle} (notShort : style ≠ .short)
    {first second : Instant}
    (same : write zone { date := some style, time := some style } first =
      write zone { date := some style, time := some style } second) :
    first.days = second.days ∧ first.time = second.time := by
  have texts := congrArg String.toList same
  obtain ⟨mark, space, endsDate, joined⟩ : ∃ mark space, (mark = ',' ∨ mark = ' ') ∧
      (joiner style).toList = mark :: space := by
    cases style with
    | short | medium => exact ⟨',', _, .inl rfl, rfl⟩
    | long | full => exact ⟨' ', _, .inr rfl, rfl⟩
  simp only [write, String.toList_append, joined, List.append_assoc, List.cons_append] at texts
  obtain ⟨days, times⟩ := dateText_append_inj notShort endsDate texts
  have times := List.append_cancel_left times
  exact ⟨days, timeText_inj notShort (String.toList_inj.mp times)⟩

/-- In the styles from medium on, the text of a date and a time tells the second of an instant, that
of a date the day, and that of a time the second of the day. -/
theorem service_tells_second {locale : Locale} {zoneName : String} {zone : Zone}
    {style : DateTimeStyle} {first second : Instant} (accepted : zone? zoneName = .ok zone)
    (english : locale.language = "en") (notShort : style ≠ .short) (onClock : first.OnClock)
    (alsoOnClock : second.OnClock) :
    (∀ request, ∃ text, service locale zoneName request first = .ok text) ∧
    (service locale zoneName { date := some style, time := some style } first =
      service locale zoneName { date := some style, time := some style } second ->
        first.SameSecond second) ∧
    (service locale zoneName { date := some style, time := none } first =
      service locale zoneName { date := some style, time := none } second ->
        first.days = second.days) ∧
    (service locale zoneName { date := none, time := some style } first =
      service locale zoneName { date := none, time := some style } second ->
        first.time = second.time) := by
  simp only [service_eq_ok accepted english, Except.ok.injEq]
  refine ⟨fun request => ⟨_, rfl⟩, ?dateTime, ?date, ?time⟩
  case dateTime =>
    intro same
    obtain ⟨days, time⟩ := write_dateTime_inj notShort same
    exact Instant.sameSecond_of_time onClock alsoOnClock days time
  case date =>
    intro same
    -- The date alone ends where a comma would follow.
    have marked : (dateText style first).toList ++ [','] = (dateText style second).toList ++ [','] :=
      congrArg (·.toList ++ [',']) same
    exact (dateText_append_inj notShort (.inl rfl) marked).1
  case time => exact timeText_inj notShort

def leapSecond (nanoseconds : Nat) : Instant :=
  { seconds := 1483228799, nanoseconds := 1000000000 + nanoseconds }

theorem service_tells_second_leap :
    zone? "Etc/UTC" = .ok { short := "UTC", long := "Coordinated Universal Time" } ∧
      Locale.english.language = "en" ∧ DateTimeStyle.long ≠ .short ∧ (leapSecond 0).OnClock ∧
      (leapSecond 5).OnClock ∧
      service Locale.english "Etc/UTC" { date := some .long, time := some .long } (leapSecond 0) =
        .ok "December 31, 2016 at 11:59:60 PM UTC" ∧
      (leapSecond 0).SameSecond (leapSecond 5) ∧ (leapSecond 0).days = (leapSecond 5).days ∧
      (leapSecond 0).time = (leapSecond 5).time := by
  have accepted : zone? "Etc/UTC" =
    .ok { short := "UTC", long := "Coordinated Universal Time" } := rfl
  have english : Locale.english.language = "en" := rfl
  have notShort : DateTimeStyle.long ≠ .short := nofun
  have onClock : (leapSecond 0).OnClock := by decide
  have alsoOnClock : (leapSecond 5).OnClock := by decide
  obtain ⟨-, dateTime, date, time⟩ :=
    service_tells_second accepted english notShort onClock alsoOnClock
  exact ⟨accepted, english, notShort, onClock, alsoOnClock, by decide +kernel,
    dateTime (by decide +kernel), date (by decide +kernel), time (by decide +kernel)⟩

end English

end MessagePattern

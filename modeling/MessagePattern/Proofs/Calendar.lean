import Mathlib.Tactic.IntervalCases
import MessagePattern.Calendar

set_option autoImplicit false

namespace MessagePattern

attribute [ext] CalendarDate TimeOfDay

namespace CalendarDate

-- The days before a year of the cycle follow from its century, which the day tells as well.
theorem yearOfCycle_century {day : Nat} (within : day < 146096) :
    yearOfCycle day / 100 = day / 36524 := by
  unfold yearOfCycle
  have whole : day / 146096 = 0 := by omega
  have few : day / 36524 < 4 := by omega
  rw [whole]
  generalize same : day / 36524 = century at few
  interval_cases century <;> omega

theorem yearOfCycle_bounds {day : Nat} (within : day < cycleDays) :
    yearOfCycle day < 400 ∧ daysBeforeYear (yearOfCycle day) <= day ∧
      day <= daysBeforeYear (yearOfCycle day) + 365 := by
  by_cases last : day = 146096
  · subst last
    decide
  · unfold cycleDays at within
    have inCentury := @yearOfCycle_century day (by omega)
    have whole : day / 146096 = 0 := by omega
    have few : day / 36524 < 4 := by omega
    unfold daysBeforeYear
    rw [inCentury]
    unfold yearOfCycle at inCentury ⊢
    rw [whole] at inCentury ⊢
    generalize same : day / 36524 = century at inCentury few ⊢
    interval_cases century <;> omega

def ofMarch (marchYear : Int) (dayOfYear : Nat) : CalendarDate :=
  let month := (5 * dayOfYear + 2) / 153
  let day := dayOfYear - (153 * month + 2) / 5 + 1
  if month < 10 then { year := marchYear, month := month + 3, day }
  else { year := marchYear + 1, month := month - 9, day }

theorem month_ofMarch (marchYear : Int) {dayOfYear : Nat} (within : dayOfYear <= 365) :
    1 <= (ofMarch marchYear dayOfYear).month ∧ (ofMarch marchYear dayOfYear).month <= 12 := by
  unfold ofMarch
  simp only
  split <;> simp only <;> omega

theorem toDays_ofMarch (marchYear : Int) {dayOfYear : Nat} (within : dayOfYear <= 365) :
    (ofMarch marchYear dayOfYear).toDays = marchYear / 400 * cycleDays +
      (daysBeforeYear (marchYear % 400).toNat + dayOfYear : Nat) - epochDay := by
  have begun : (153 * ((5 * dayOfYear + 2) / 153) + 2) / 5 <= dayOfYear := by omega
  unfold ofMarch toDays
  simp only
  split
  next =>
    have late : ¬ (5 * dayOfYear + 2) / 153 + 3 <= 2 := by omega
    simp only [if_neg late, Nat.add_sub_cancel]
    omega
  next =>
    have early : (5 * dayOfYear + 2) / 153 - 9 <= 2 := by omega
    have month : (5 * dayOfYear + 2) / 153 - 9 + 9 = (5 * dayOfYear + 2) / 153 := by omega
    simp only [if_pos early, month, Int.add_sub_cancel]
    omega

theorem exists_ofMarch (days : Int) :
    ∃ marchYear dayOfYear, dayOfYear <= 365 ∧ ofDays days = ofMarch marchYear dayOfYear ∧
      days = marchYear / 400 * cycleDays +
        (daysBeforeYear (marchYear % 400).toNat + dayOfYear : Nat) - epochDay := by
  have within : ((days + epochDay) % cycleDays).toNat < cycleDays := by
    unfold cycleDays
    omega
  obtain ⟨inCycle, begun, notOver⟩ := yearOfCycle_bounds within
  refine ⟨_, _, ?_, rfl, ?_⟩
  · omega
  · have cycle : ((yearOfCycle ((days + epochDay) % cycleDays).toNat : Int) +
        (days + epochDay) / cycleDays * 400) / 400 = (days + epochDay) / cycleDays := by omega
    have year : (((yearOfCycle ((days + epochDay) % cycleDays).toNat : Int) +
        (days + epochDay) / cycleDays * 400) % 400).toNat =
          yearOfCycle ((days + epochDay) % cycleDays).toNat := by omega
    rw [cycle, year]
    have whole := Int.ediv_mul_add_emod (days + epochDay) cycleDays
    have notBefore := Int.emod_nonneg (days + epochDay) (b := cycleDays) (by decide)
    omega

theorem month_ofDays (days : Int) : 1 <= (ofDays days).month ∧ (ofDays days).month <= 12 := by
  obtain ⟨marchYear, dayOfYear, within, same, -⟩ := exists_ofMarch days
  rw [same]
  exact month_ofMarch marchYear within

theorem toDays_ofDays (days : Int) : (ofDays days).toDays = days := by
  obtain ⟨marchYear, dayOfYear, within, same, isDays⟩ := exists_ofMarch days
  rw [same, toDays_ofMarch marchYear within, ← isDays]

theorem ofDays_injective : Function.Injective ofDays :=
  Function.LeftInverse.injective toDays_ofDays

end CalendarDate

namespace Instant

def InLeapSecond (instant : Instant) : Prop :=
  1000000000 <= instant.nanoseconds

-- The instants that a clock can show: a leap second comes only after the second 59 of a minute.
def OnClock (instant : Instant) : Prop :=
  instant.nanoseconds < 2000000000 ∧ (instant.InLeapSecond -> instant.seconds % 60 = 59)

-- Whether two instants fall in one second. A leap second is one of its own.
def SameSecond (first second : Instant) : Prop :=
  first.seconds = second.seconds ∧ (first.InLeapSecond ↔ second.InLeapSecond)

instance (instant : Instant) : Decidable instant.InLeapSecond :=
  inferInstanceAs (Decidable (_ <= _))

instance (instant : Instant) : Decidable instant.OnClock :=
  inferInstanceAs (Decidable (_ ∧ _))

theorem hour_lt (instant : Instant) : instant.time.hour < 24 := by
  unfold time daySeconds
  simp only
  omega

theorem sameSecond_of_time {first second : Instant} (onClock : first.OnClock)
    (alsoOnClock : second.OnClock) (day : first.days = second.days)
    (time : first.time = second.time) : first.SameSecond second := by
  obtain ⟨small, leap⟩ := onClock
  obtain ⟨alsoSmall, alsoLeap⟩ := alsoOnClock
  unfold InLeapSecond at leap alsoLeap
  unfold days daySeconds at day
  unfold Instant.time daySeconds at time
  obtain ⟨hour, minute, second⟩ := TimeOfDay.mk.inj time
  unfold SameSecond InLeapSecond
  omega

end Instant

end MessagePattern

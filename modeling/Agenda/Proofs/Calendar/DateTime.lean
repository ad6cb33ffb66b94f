import Agenda.Calendar.DateTime

/-!
# Days and instants

A day takes up the instants from its midnight on, up to the midnight of the day after
(`DateTime.instant_bounds`). So comparing a date-time with the midnight of a date is comparing days
(`Date.midnight_le_iff`), and the same goes for the last second of a date, as long as the date-time
has no part of a second that would put it behind that second (`Date.le_endOfDay_iff`).
-/

namespace Agenda

variable {d : Date} {t later : DateTime}

/-- An instant lies in its day. -/
theorem DateTime.instant_bounds (t : DateTime) :
    t.date.day * nanosPerDay ≤ t.instant ∧ t.instant < (t.date.day + 1) * nanosPerDay := by
  have hlt := t.time.nanos_lt
  unfold instant
  rw [Int.add_mul]
  omega

namespace Date

/-- **A date-time is not before the midnight of a date exactly when its day is not before the
date.** -/
theorem midnight_le_iff : d.at .midnight ≤ t ↔ d.day ≤ t.date.day := by
  obtain ⟨hlow, hhigh⟩ := t.instant_bounds
  have hmidnight : (d.at .midnight).instant = d.day * nanosPerDay := Int.add_zero _
  show (d.at .midnight).instant ≤ t.instant ↔ _
  rw [hmidnight]
  unfold nanosPerDay nanosPerSecond at *
  omega

/-- **A full second is not after the last second of a date exactly when its day is not after the
date.** -/
theorem le_endOfDay_iff (h : t.time.fraction = 0) :
    t ≤ d.at .endOfDay ↔ t.date.day ≤ d.day := by
  have hlt := t.time.nanos_lt
  show t.date.day * nanosPerDay + t.time.nanos
    ≤ d.day * nanosPerDay + (86399 * nanosPerSecond : Nat) ↔ _
  unfold TimeOfDay.fraction nanosPerSecond at h
  unfold nanosPerDay nanosPerSecond at *
  omega

end Date

/-- Later date-times do not lie in earlier days. -/
theorem DateTime.day_le_of_le (h : t ≤ later) : t.date.day ≤ later.date.day := by
  have hmidnight : t.date.at .midnight ≤ t := Date.midnight_le_iff.mpr (Int.le_refl _)
  exact Date.midnight_le_iff.mp (Int.le_trans hmidnight h)

end Agenda

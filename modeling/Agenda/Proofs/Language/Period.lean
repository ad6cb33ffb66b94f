import Agenda.Language.Period

/-!
# Times that lines can name

A clock shows hours, minutes and full seconds, and what a line leaves open is filled in with the
first and the last full second of a day. So the times of a period have no part of a second
(`isWhole_ofSegments`). Two endpoints make a period only in their order, so no period ends before it
begins (`le_of_ofSegments`).
-/

namespace Agenda

theorem TimeOfDay.fraction_midnight : midnight.fraction = 0 := by
  decide

theorem TimeOfDay.fraction_endOfDay : endOfDay.fraction = 0 := by
  decide

/-- A time of day that a clock shows is a full second. -/
theorem TimeOfDay.fraction_of_ofClock? {hour minute second : Nat} {t : TimeOfDay}
    (h : ofClock? hour minute second = some t) : t.fraction = 0 := by
  unfold ofClock? ofNanos? at h
  split at h
  · split at h
    · cases h
      show (hour * 3600 + minute * 60 + second) * nanosPerSecond % nanosPerSecond = 0
      exact Nat.mul_mod_left ..
    · cases h
  · cases h

namespace Period

variable {e e' : Endpoint} {today : Date}

theorem Figures.fraction_of_time? {f : Figures} {t : TimeOfDay} (h : f.time? = some t) :
    t.fraction = 0 := by
  unfold Figures.time? at h
  dsimp only at h
  split at h
  · split at h
    · exact TimeOfDay.fraction_of_ofClock? h
    · cases h
  · split at h
    · exact TimeOfDay.fraction_of_ofClock? h
    · cases h

/-! ### Endpoints -/

/-- The time of an endpoint, if it has one, is a full second. -/
def Endpoint.IsWhole (e : Endpoint) : Prop :=
  ∀ time ∈ e.time, time.fraction = 0

theorem Endpoint.isWhole_setDate {date : Date} (he : e.IsWhole) (h : e.setDate date = .ok e') :
    e'.IsWhole := by
  unfold Endpoint.setDate at h
  split at h
  · cases h
  · cases h
    exact he

theorem Endpoint.isWhole_setTime {time : TimeOfDay} (htime : time.fraction = 0)
    (h : e.setTime time = .ok e') : e'.IsWhole := by
  unfold Endpoint.setTime at h
  split at h
  · cases h
  · cases h
    intro other hother
    cases hother
    exact htime

theorem Endpoint.isWhole_addWords {ws : List (List Char)} (he : e.IsWhole)
    (h : e.addWords today ws = .ok e') : e'.IsWhole := by
  fun_induction Endpoint.addWords today e ws
  case case1 =>
    cases h
    exact he
  -- a date
  case case3 hset ih => exact ih (isWhole_setDate he hset) h
  -- a clock time, with its half of the day in the next word or in the same one
  case case7 htime _ hset ih =>
    exact ih (isWhole_setTime (Figures.fraction_of_time? htime) hset) h
  case case10 htime _ hset ih =>
    exact ih (isWhole_setTime (Figures.fraction_of_time? htime) hset) h
  case case13 htime _ hset _ ih =>
    exact ih (isWhole_setTime (Figures.fraction_of_time? htime) hset) h
  all_goals cases h

theorem Endpoint.isWhole_ofText {text : List Char} (h : Endpoint.ofText today text = .ok e) :
    e.IsWhole := by
  unfold Endpoint.ofText at h
  split at h
  · cases h
  · refine Endpoint.isWhole_addWords ?_ h
    intro time htime
    cases htime

theorem Endpoint.fraction_asEnd (he : e.IsWhole) : (e.asEnd today).time.fraction = 0 := by
  unfold Endpoint.asEnd
  cases htime : e.time with
  | none => exact TimeOfDay.fraction_endOfDay
  | some time => exact he time htime

theorem Endpoint.fraction_asStart (he : e.IsWhole) : (e.asStart today).time.fraction = 0 := by
  unfold Endpoint.asStart
  cases htime : e.time with
  | none => exact TimeOfDay.fraction_midnight
  | some time => exact he time htime

/-! ### Periods -/

/-- The times of a period are full seconds. -/
structure IsWhole (p : Period) : Prop where
  starts : ∀ time ∈ p.starts, time.time.fraction = 0
  ends : p.ends.time.fraction = 0

theorem isWhole_between {first second : Endpoint} {p : Period} (hfirst : first.IsWhole)
    (hsecond : second.IsWhole) (h : between today first second = .ok p) : p.IsWhole := by
  unfold between at h
  dsimp only at h
  split at h
  · cases h
  · cases h
    refine ⟨fun time htime => ?_, ?_⟩
    · cases htime
      exact Endpoint.fraction_asStart (e := { first with date := _ }) hfirst
    · exact Endpoint.fraction_asEnd (e := { second with date := _ }) hsecond

/-- **A text in figures names one endpoint, which is an end, or two.** -/
theorem cases_of_ofFigures {phrase : String} {text : List Char} {p : Period}
    (h : ofFigures today phrase text = .ok p) :
    (∃ single e, Endpoint.ofText today single = .ok e ∧
      p = { starts := none, ends := e.asEnd today }) ∨
    ∃ first second e e', Endpoint.ofText today first = .ok e ∧
      Endpoint.ofText today second = .ok e' ∧ between today e e' = .ok p := by
  unfold ofFigures at h
  split at h
  · cases h
  split at h
  · rename_i single _
    -- no dash: one endpoint
    left
    cases hsingle : Endpoint.ofText today single with
    | error cause =>
      rw [hsingle] at h
      cases h
    | ok e =>
      rw [hsingle] at h
      cases h
      exact ⟨single, e, hsingle, rfl⟩
  · -- one dash: two endpoints, each of which is read, and then what lies between them
    right
    split at h
    · cases h
    split at h
    · cases h
    rename_i hfirst
    split at h
    · cases h
    rename_i hsecond
    exact ⟨_, _, _, _, hfirst, hsecond, h⟩
  · cases h

theorem exists_of_ofSegments {segments : List String} {now : DateTime} {p : Period}
    (h : ofSegments segments now = .read (some p)) :
    ∃ phrase text, ofFigures now.date phrase text = .ok p := by
  unfold ofSegments at h
  split at h
  · cases h
  split at h
  · cases h
  rename_i days _
  rw [Reading.ofExcept_eq_read_iff] at h
  cases hfigures : ofFigures now.date (" ".intercalate segments)
      (Phrase.inFigures days (" ".intercalate segments)) with
  | error cause =>
    rw [hfigures] at h
    cases h
  | ok period =>
    rw [hfigures] at h
    cases h
    exact ⟨_, _, hfigures⟩

/-- **The times that a line names are full seconds.** -/
theorem isWhole_ofSegments {segments : List String} {now : DateTime} {p : Period}
    (h : ofSegments segments now = .read (some p)) : p.IsWhole := by
  obtain ⟨phrase, text, hfigures⟩ := exists_of_ofSegments h
  rcases cases_of_ofFigures hfigures with ⟨single, e, he, rfl⟩ | ⟨_, _, e, e', he, he', hbetween⟩
  · refine ⟨fun time htime => ?_, Endpoint.fraction_asEnd (Endpoint.isWhole_ofText he)⟩
    cases htime
  · exact isWhole_between (Endpoint.isWhole_ofText he) (Endpoint.isWhole_ofText he') hbetween

theorem le_of_between {first second : Endpoint} {p : Period}
    (h : between today first second = .ok p) : ∀ starts ∈ p.starts, starts ≤ p.ends := by
  unfold between at h
  dsimp only at h
  split at h
  · cases h
  · rename_i hlt
    cases h
    intro starts hstarts
    cases hstarts
    exact Int.not_lt.mp hlt

/-- **A period does not end before it begins.** -/
theorem le_of_ofSegments {segments : List String} {now : DateTime} {p : Period}
    (h : ofSegments segments now = .read (some p)) : ∀ starts ∈ p.starts, starts ≤ p.ends := by
  obtain ⟨phrase, text, hfigures⟩ := exists_of_ofSegments h
  rcases cases_of_ofFigures hfigures with ⟨single, e, -, rfl⟩ | ⟨_, _, e, e', -, -, hbetween⟩
  · intro starts hstarts
    cases hstarts
  · exact le_of_between hbetween

end Period

end Agenda

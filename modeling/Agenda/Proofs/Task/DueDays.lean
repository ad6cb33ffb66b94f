import Agenda.Proofs.Calendar.Date
import Agenda.Proofs.Calendar.DateTime
import Agenda.Task.Basic

/-!
# Days on which tasks are due

Whether a task is due today or tomorrow is asked in one way for a task that is overdue and in
another way for one that is not, and each way leaves out comparisons that this makes superfluous.
What comes out is the same as asking for the day of the end (`Task.due_on_calendar_days`), provided
that the end is a full second, as all ends are that have been typed or loaded.
-/

namespace Agenda.Task

variable {t : Task} {now ends : DateTime} {d tomorrow : Date}

/-- The task has an end, and it falls on a date. -/
def EndsOn (t : Task) (d : Date) : Prop :=
  ∃ ends ∈ t.ends, ends.date = d

instance (t : Task) (d : Date) : Decidable (t.EndsOn d) :=
  match h : t.ends with
  | none => isFalse (by simp [EndsOn, h])
  | some ends => decidable_of_iff (ends.date = d) (by simp [EndsOn, h])

theorem endsOn_iff (h : t.ends = some ends) : t.EndsOn d ↔ ends.date.day = d.day := by
  constructor
  · rintro ⟨ends', hends', rfl⟩
    rw [h] at hends'
    rw [Option.some.inj hends']
  · exact fun hday => ⟨ends, h, Date.eq_of_day_eq hday⟩

theorem not_endsOn (h : t.ends = none) : ¬t.EndsOn d := by
  rintro ⟨ends, hends, -⟩
  rw [h] at hends
  cases hends

theorem isOverdue_iff (h : t.ends = some ends) : t.isOverdue now = true ↔ ends < now := by
  unfold isOverdue
  rw [h]
  exact decide_eq_true_iff

/-- The end of an overdue task does not lie in a later day. -/
theorem day_le_of_isOverdue (h : t.ends = some ends) (hoverdue : t.isOverdue now = true) :
    ends.date.day ≤ now.date.day :=
  DateTime.day_le_of_le (Int.le_of_lt ((isOverdue_iff h).mp hoverdue))

/-- The end of a task that is not overdue does not lie in an earlier day. -/
theorem day_le_of_not_isOverdue (h : t.ends = some ends) (hopen : ¬t.isOverdue now = true) :
    now.date.day ≤ ends.date.day :=
  DateTime.day_le_of_le (Int.not_lt.mp fun hlt => hopen ((isOverdue_iff h).mpr hlt))

/-- **A task is due today when its end falls on this day.** -/
theorem isDueToday_iff (hwhole : ∀ ends ∈ t.ends, ends.time.fraction = 0) :
    t.isDueToday now = true ↔ t.EndsOn now.date := by
  unfold isDueToday
  split
  · rename_i ends hends
    rw [endsOn_iff hends]
    split
    · rename_i hoverdue
      -- the end does not lie after today, so it is only compared with the midnight
      have hle := day_le_of_isOverdue hends hoverdue
      rw [decide_eq_true_iff, Date.midnight_le_iff]
      omega
    · rename_i hopen
      -- the end does not lie before today, so it is only compared with the last second
      have hle := day_le_of_not_isOverdue hends hopen
      rw [decide_eq_true_iff, Date.le_endOfDay_iff (hwhole ends hends)]
      omega
  · rename_i hends
    have hnot := not_endsOn (d := now.date) hends
    exact ⟨fun hfalse => absurd hfalse Bool.false_ne_true, fun hday => absurd hday hnot⟩

/-- **A task is due tomorrow when its end falls on the day after this one.** -/
theorem isDueTomorrow?_eq (hwhole : ∀ ends ∈ t.ends, ends.time.fraction = 0)
    (htomorrow : now.date.addDays? 1 = some tomorrow) :
    t.isDueTomorrow? now = some (decide (t.EndsOn tomorrow)) := by
  have hday := Date.day_of_addDays? htomorrow
  unfold isDueTomorrow?
  split
  · rename_i hends
    rw [decide_eq_false (not_endsOn hends)]
  · rename_i ends hends
    rw [htomorrow]
    dsimp only
    split
    · rename_i hoverdue
      -- the end of an overdue task is not tomorrow, and it is not after its midnight
      have hle := day_le_of_isOverdue hends hoverdue
      refine congrArg some (decide_eq_decide.mpr ?_)
      rw [Date.midnight_le_iff, endsOn_iff hends]
      omega
    · rw [← Bool.decide_and]
      refine congrArg some (decide_eq_decide.mpr ?_)
      rw [Date.midnight_le_iff, Date.le_endOfDay_iff (hwhole ends hends), endsOn_iff hends]
      omega

/-- **A task is due on a date when its end has passed or falls on the date.** -/
theorem isDueOn_iff (hwhole : ∀ ends ∈ t.ends, ends.time.fraction = 0) :
    t.isDueOn d now = true ↔ (∃ ends ∈ t.ends, ends < now) ∨ t.EndsOn d := by
  unfold isDueOn
  split
  · rename_i ends hends
    have hpassed : (∃ ends' ∈ t.ends, ends' < now) ↔ ends < now := by
      rw [hends]
      simp
    rw [Bool.or_eq_true, Bool.and_eq_true, decide_eq_true_iff, decide_eq_true_iff,
      isOverdue_iff hends, Date.midnight_le_iff, Date.le_endOfDay_iff (hwhole ends hends), hpassed,
      endsOn_iff hends]
    refine or_congr_right ?_
    omega
  · rename_i hends
    refine ⟨fun hfalse => absurd hfalse Bool.false_ne_true, ?_⟩
    rintro (⟨ends, hmem, -⟩ | hday)
    · rw [hends] at hmem
      cases hmem
    · exact absurd hday (not_endsOn hends)

/-- **Tasks are due on calendar days.** For a task whose end, if it has one, is a full second: it is
due today exactly when its end falls on this day, and due tomorrow exactly when its end falls on the
day after, whatever the time of the day is now; and it is due on a date exactly when its end has
passed or falls on the date. -/
theorem due_on_calendar_days (now : DateTime)
    (hwhole : ∀ ends ∈ t.ends, ends.time.fraction = 0) :
    (t.isDueToday now = true ↔ t.EndsOn now.date) ∧
    (∀ tomorrow : Date, tomorrow.day = now.date.day + 1 →
      t.isDueTomorrow? now = some (decide (t.EndsOn tomorrow))) ∧
    ∀ d, t.isDueOn d now = true ↔ (∃ ends ∈ t.ends, ends < now) ∨ t.EndsOn d := by
  refine ⟨isDueToday_iff hwhole, fun tomorrow hday => ?_, fun d => isDueOn_iff hwhole⟩
  exact isDueTomorrow?_eq hwhole (Date.addDays?_eq_some_iff.mpr hday)

/-- The last second of a day belongs to it, and is not due tomorrow when half of it has passed. -/
theorem due_in_the_last_second :
    let today : Date := ⟨20000, by decide, by decide⟩
    let tomorrow : Date := ⟨20001, by decide, by decide⟩
    let now : DateTime := today.at ⟨86399500000000, by decide⟩
    let t : Task := { description := "tea", ends := some (today.at .endOfDay) }
    (∀ ends ∈ t.ends, ends.time.fraction = 0) ∧ tomorrow.day = now.date.day + 1 ∧
      t.isDueToday now = true ∧ t.isDueTomorrow? now = some false ∧
      t.isDueOn tomorrow now = true := by
  intro today tomorrow now t
  have hwhole : ∀ ends ∈ t.ends, ends.time.fraction = 0 := by
    intro ends hends
    rw [← Option.some.inj hends]
    decide
  have hday : tomorrow.day = now.date.day + 1 := by decide
  obtain ⟨htoday, htomorrow, hon⟩ := due_on_calendar_days now hwhole
  have hends : t.EndsOn today := ⟨_, rfl, rfl⟩
  have hpassed : ∃ ends ∈ t.ends, ends < now := ⟨_, rfl, by decide⟩
  exact ⟨hwhole, hday, htoday.mpr hends, htomorrow tomorrow hday,
    (hon tomorrow).mpr (Or.inl hpassed)⟩

end Agenda.Task

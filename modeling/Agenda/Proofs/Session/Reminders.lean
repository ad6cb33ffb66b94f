import Agenda.Proofs.Store.Upcoming
import Agenda.Session
import Mathlib.Algebra.Order.Group.Abs
import Mathlib.Algebra.Order.Group.Int
import Mathlib.Order.Bounds.Defs

/-!
# Reminders

A session reminds of the next task when it begins within some minutes. It looks at that one task
only, and this is enough: if any task is due to begin in that time, the next one is
(`Session.next_task_reminded`).

The message tells the minutes that are left. They are found by dropping the part of a second and
rounding up what remains, so they are too few by one when less than a second is left above a whole
number of minutes, and right otherwise (`Session.minutes_told`).
-/

namespace Agenda

/-- The nanoseconds of a minute. -/
def nanosPerMinute : ℕ :=
  60 * nanosPerSecond

namespace Session

variable {s : Session} {now starts : DateTime} {minutes span n : ℤ} {r : Reminder}

/-! ### When there is a reminder -/

theorem spanOfMinutes?_eq_some_iff : spanOfMinutes? minutes = some span ↔
    |minutes * 60000| ≤ Int64.maxValue.toInt ∧ span = minutes * nanosPerMinute := by
  have hspan : minutes * 60 * nanosPerSecond = minutes * nanosPerMinute := by
    unfold nanosPerMinute nanosPerSecond
    omega
  unfold spanOfMinutes?
  rw [abs_le, hspan]
  split
  · rename_i hbounds
    simp [hbounds, eq_comm]
  · rename_i hbounds
    simp [hbounds]

/-- **A reminder is of the next task**, if it begins in time. -/
theorem reminder?_eq_some_some_iff : s.reminder? now minutes = some (some r) ↔
    ∃ starts span, s.store.soonest? now = some (starts, r.task) ∧
      spanOfMinutes? minutes = some span ∧ now.nanosUntil starts ≤ span ∧
      r.message = reminderMessage r.task (now.secondsUntil starts) := by
  unfold reminder?
  constructor
  · intro h
    split at h
    · cases h
    · rename_i starts t hsoonest
      obtain ⟨span, hspan, hreminder⟩ := Option.map_eq_some_iff.mp h
      split at hreminder
      · cases hreminder
      · rename_i hle
        cases hreminder
        exact ⟨starts, span, hsoonest, hspan, Int.not_lt.mp hle, rfl⟩
  · rintro ⟨starts, span, hsoonest, hspan, hle, hmessage⟩
    obtain ⟨t, message⟩ := r
    dsimp only at hsoonest hmessage
    rw [hsoonest, hspan, hmessage]
    exact congrArg some (if_neg (Int.not_lt.mpr hle))

/-- There is an answer for all minutes that a span of time can hold. -/
theorem exists_reminder? (s : Session) (now : DateTime)
    (hspan : |minutes * 60000| ≤ Int64.maxValue.toInt) :
    ∃ answer, s.reminder? now minutes = some answer := by
  unfold reminder?
  split
  · exact ⟨_, rfl⟩
  · rw [spanOfMinutes?_eq_some_iff.mpr ⟨hspan, rfl⟩]
    exact ⟨_, rfl⟩

/-- A time lies within a span exactly if it is not later than the end of the span. -/
theorem nanosUntil_le_iff : now.nanosUntil starts ≤ span ↔ starts.instant ≤ now.instant + span := by
  unfold DateTime.nanosUntil
  omega

/-- **The next task is found, and the reminder is of it.** The task that the store finds is the
first one in the list among the tasks that begin soonest after `now`, of those that are not done,
and it finds none only if there is none. For all minutes that a span of time can hold, there is a
reminder exactly if some task begins after `now` and within these minutes, and then it is of the
next task. -/
theorem next_task_reminded (s : Session) (now : DateTime)
    (hspan : |minutes * 60000| ≤ Int64.maxValue.toInt) :
    (∀ t, s.store.soonest now = .ok t ↔ ∃ starts, Store.IsNext s.store.tasks now starts t) ∧
    (∀ error, s.store.soonest now = .error error ↔
      error = .noTask ∧ ∀ t ∈ s.store.tasks, ∀ starts, ¬t.IsUpcoming now starts) ∧
    ∃ answer, s.reminder? now minutes = some answer ∧
      (answer.isSome ↔ ∃ t ∈ s.store.tasks, ∃ starts, t.IsUpcoming now starts ∧
        starts.instant ≤ now.instant + minutes * nanosPerMinute) ∧
      ∀ r ∈ answer, ∃ starts, Store.IsNext s.store.tasks now starts r.task ∧
        starts.instant ≤ now.instant + minutes * nanosPerMinute := by
  refine ⟨fun t => Store.soonest_eq_ok_iff, fun error => Store.soonest_eq_error_iff, ?_⟩
  obtain ⟨answer, hanswer⟩ := s.exists_reminder? now hspan
  have hnext : ∀ r ∈ answer, ∃ starts, Store.IsNext s.store.tasks now starts r.task ∧
      starts.instant ≤ now.instant + minutes * nanosPerMinute := by
    rintro r rfl
    obtain ⟨starts, span, hsoonest, hminutes, hle, -⟩ := reminder?_eq_some_some_iff.mp hanswer
    obtain ⟨-, rfl⟩ := spanOfMinutes?_eq_some_iff.mp hminutes
    exact ⟨starts, Store.soonest?_eq_some_iff.mp hsoonest, nanosUntil_le_iff.mp hle⟩
  refine ⟨answer, hanswer, ⟨fun h => ?_, ?_⟩, hnext⟩
  · obtain ⟨r, hr⟩ := Option.isSome_iff_exists.mp h
    obtain ⟨starts, hisNext, hle⟩ := hnext r hr
    exact ⟨r.task, hisNext.mem, starts, hisNext.1, hle⟩
  · rintro ⟨t, ht, starts, hupcoming, hle⟩
    -- the next task begins no later, so it is in time as well
    cases hsoonest : s.store.soonest? now with
    | none => exact absurd hupcoming (Store.soonest?_eq_none_iff.mp hsoonest t ht starts)
    | some next =>
      obtain ⟨starts', t'⟩ := next
      have hle' : starts'.instant ≤ starts.instant :=
        (Store.soonest?_eq_some_iff.mp hsoonest).le_of_mem ht hupcoming
      have hreminder : s.reminder? now minutes
          = some (some ⟨t', reminderMessage t' (now.secondsUntil starts')⟩) :=
        reminder?_eq_some_some_iff.mpr ⟨starts', _, hsoonest,
          spanOfMinutes?_eq_some_iff.mpr ⟨hspan, rfl⟩,
          nanosUntil_le_iff.mpr (hle'.trans hle), rfl⟩
      rw [Option.some.inj (hanswer.symm.trans hreminder)]
      rfl

/-- Of two tasks that begin at the same time the first one is reminded of, and a task that is done
does not count. -/
theorem tea_reminded_before_cake :
    let today : Date := ⟨20745, by decide, by decide⟩
    let now : DateTime := today.at ⟨43200500000000, by decide⟩
    let sooner : DateTime := today.at ⟨43300 * nanosPerSecond, by decide⟩
    let starts : DateTime := today.at ⟨43500 * nanosPerSecond, by decide⟩
    let milk : Task := { description := "milk", starts := some sooner, done := true }
    let tea : Task := { description := "tea", starts := some starts }
    let cake : Task := { description := "cake", starts := some starts }
    let s : Session :=
      { store := { list := { tasks := [milk, tea, cake] }, repository := .memory [] false } }
    |(5 : ℤ) * 60000| ≤ Int64.maxValue.toInt ∧ s.store.soonest now = .ok tea ∧
      ∃ r, s.reminder? now 5 = some (some r) ∧ r.task = tea := by
  intro today now sooner starts milk tea cake s
  have hspan : |(5 : ℤ) * 60000| ≤ Int64.maxValue.toInt := by decide
  obtain ⟨hok, -, answer, hanswer, hsome, htask⟩ := s.next_task_reminded now hspan
  have htea : tea.IsUpcoming now starts := ⟨rfl, rfl, by decide⟩
  have hnext : Store.IsNext s.store.tasks now starts tea := by
    refine ⟨htea, [milk], [cake], rfl, ?_, ?_⟩
    · intro t ht starts' hupcoming
      obtain rfl := List.mem_singleton.mp ht
      cases hupcoming.undone
    · intro t ht starts' hupcoming
      obtain rfl := List.mem_singleton.mp ht
      rw [← Option.some.inj hupcoming.starts_eq]
      exact Int.le_refl _
  have hin : answer.isSome := hsome.mpr ⟨tea, hnext.mem, starts, htea, by decide⟩
  obtain ⟨r, rfl⟩ := Option.isSome_iff_exists.mp hin
  obtain ⟨starts', hr, -⟩ := htask r rfl
  have hsoonest : s.store.soonest now = .ok tea := (hok tea).mpr ⟨starts, hnext⟩
  have hsame := hsoonest.symm.trans ((hok r.task).mpr ⟨starts', hr⟩)
  exact ⟨hspan, hsoonest, r, hanswer, (Except.ok.inj hsame).symm⟩

/-! ### The minutes that are told -/

/-- The minutes that a reminder tells. -/
def minutesTold (now starts : DateTime) : ℤ :=
  (now.secondsUntil starts + 59).tdiv 60

theorem minutesTold_eq (h : now < starts) :
    minutesTold now starts = (now.nanosUntil starts / nanosPerSecond + 59) / 60 := by
  have hpos : 0 < now.nanosUntil starts := Int.sub_pos.mpr h
  unfold minutesTold DateTime.secondsUntil
  unfold nanosPerSecond
  rw [Int.tdiv_eq_ediv_of_nonneg hpos.le, Int.tdiv_eq_ediv_of_nonneg (by omega)]

/-- **The minutes told are the least ones with less than a second left above them.** -/
theorem minutesTold_isLeast (h : now < starts) :
    IsLeast {m : ℤ | now.nanosUntil starts < m * nanosPerMinute + nanosPerSecond}
      (minutesTold now starts) := by
  rw [minutesTold_eq h]
  unfold nanosPerMinute nanosPerSecond
  refine ⟨?_, fun m hm => ?_⟩
  · rw [Set.mem_ofPred_eq]
    omega
  · rw [Set.mem_ofPred_eq] at hm
    omega

/-- **The minutes told are the minutes left, rounded up,** unless less than a second is left above a
whole number of minutes. -/
theorem minutesTold_isLeast_iff (h : now < starts) :
    IsLeast {m : ℤ | now.nanosUntil starts ≤ m * nanosPerMinute} (minutesTold now starts) ↔
      now.nanosUntil starts % nanosPerMinute = 0 ∨
        nanosPerSecond ≤ now.nanosUntil starts % nanosPerMinute := by
  -- what is left of the nanoseconds above a whole minute decides, and all is linear in it
  rw [minutesTold_eq h]
  unfold nanosPerMinute nanosPerSecond
  constructor
  · rintro ⟨hmem, -⟩
    rw [Set.mem_ofPred_eq] at hmem
    omega
  · intro hleft
    refine ⟨?_, fun m hm => ?_⟩
    · rw [Set.mem_ofPred_eq]
      omega
    · rw [Set.mem_ofPred_eq] at hm
      omega

/-- Less than a minute is told as none exactly when it is less than a second. -/
theorem one_le_minutesTold_iff (h : now < starts) :
    1 ≤ minutesTold now starts ↔ nanosPerSecond ≤ now.nanosUntil starts := by
  rw [minutesTold_eq h]
  unfold nanosPerSecond
  omega

/-- **The minutes in a reminder are those left, rounded up, except within a second above a whole
minute.** The message of a reminder tells the least minutes above which less than a second is left
until the task begins. These are the least minutes in which it begins exactly if no time is left
above a whole number of minutes, or a second at least; and they are at least one exactly if a second
at least is left. -/
theorem minutes_told (h : s.reminder? now minutes = some (some r)) :
    ∃ starts, r.task.starts = some starts ∧ ∃ told : ℤ,
      r.message = "Next task: " ++ r.task.description ++ " begins in " ++ toString told
        ++ (if told = 1 then " minute." else " minutes.") ∧
      IsLeast {m : ℤ | now.nanosUntil starts < m * nanosPerMinute + nanosPerSecond} told ∧
      (IsLeast {m : ℤ | now.nanosUntil starts ≤ m * nanosPerMinute} told ↔
        now.nanosUntil starts % nanosPerMinute = 0 ∨
          nanosPerSecond ≤ now.nanosUntil starts % nanosPerMinute) ∧
      (1 ≤ told ↔ nanosPerSecond ≤ now.nanosUntil starts) := by
  obtain ⟨starts, span, hsoonest, -, -, hmessage⟩ := reminder?_eq_some_some_iff.mp h
  obtain ⟨hstarts, hahead⟩ := Store.starts_of_soonest? hsoonest
  exact ⟨starts, hstarts, minutesTold now starts, hmessage, minutesTold_isLeast hahead,
    minutesTold_isLeast_iff hahead, one_le_minutesTold_iff hahead⟩

/-- Seven minutes and a quarter of a second more than half a minute are told as eight. -/
theorem tea_in_eight_minutes :
    let today : Date := ⟨20745, by decide, by decide⟩
    let now : DateTime := today.at ⟨43200 * nanosPerSecond, by decide⟩
    let starts : DateTime := today.at ⟨43650250000000, by decide⟩
    let tea : Task := { description := "tea", starts := some starts }
    let s : Session := { store := { list := { tasks := [tea] }, repository := .memory [] false } }
    s.reminder? now 10 = some (some ⟨tea, "Next task: tea begins in 8 minutes."⟩) ∧
      ∃ told : ℤ, "Next task: tea begins in 8 minutes."
          = "Next task: tea begins in " ++ toString told
            ++ (if told = 1 then " minute." else " minutes.") ∧
        IsLeast {m : ℤ | now.nanosUntil starts ≤ m * nanosPerMinute} told ∧ 1 ≤ told := by
  intro today now starts tea s
  have h : s.reminder? now 10 = some (some ⟨tea, "Next task: tea begins in 8 minutes."⟩) := by
    decide +kernel
  obtain ⟨starts', hstarts, told, hmessage, -, hceil, hone⟩ := minutes_told h
  rw [← Option.some.inj hstarts] at hceil hone
  exact ⟨h, told, hmessage, hceil.mpr (Or.inr (by decide)), hone.mpr (by decide)⟩

/-- A task that begins in half a second begins in no minutes. -/
theorem tea_in_no_minutes :
    let today : Date := ⟨20745, by decide, by decide⟩
    let now : DateTime := today.at ⟨43200500000000, by decide⟩
    let starts : DateTime := today.at ⟨43201 * nanosPerSecond, by decide⟩
    let ends : DateTime := today.at ⟨45000 * nanosPerSecond, by decide⟩
    let tea : Task := { description := "tea", starts := some starts, ends := some ends }
    let s : Session :=
      { store := { list := { tasks := [tea] }, repository := .memory [tea] false } }
    s.reminder? now 10 = some (some ⟨tea, "Next task: tea begins in 0 minutes."⟩) ∧
      ¬IsLeast {m : ℤ | now.nanosUntil starts ≤ m * nanosPerMinute} 0 := by
  intro today now starts ends tea s
  refine ⟨by decide +kernel, fun hleast => ?_⟩
  have hpassed : now.nanosUntil starts ≤ 0 * nanosPerMinute := hleast.1
  revert hpassed
  decide

end Session

end Agenda

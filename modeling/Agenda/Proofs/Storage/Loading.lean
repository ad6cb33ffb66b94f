import Agenda.Proofs.Storage.Record

/-!
# What loading makes of a record

A task file may hold records that no task has: more than ten tags, tags that are repeated, times
that are zero or outside the calendar. Loading keeps the first ten different tags and the times that
a task can have (`Record.loaded`), and it does so once and for all. What it makes of a record is
written back and loaded again without any further change, and a task that has not been loaded
differs from what is loaded for it exactly if it has a part of a second or the beginning of 1970 in
one of its times (`loading_normalizes`).
-/

namespace Agenda

namespace Record

variable {time : DateTime} {stored : Option Int64}

theorem bind_time?_eq_some_iff : stored.bind time? = some time ↔ ∃ seconds ∈ stored,
    seconds ≠ 0 ∧ time.epochSeconds = seconds.toInt ∧ time.time.fraction = 0 := by
  rw [Option.bind_eq_some_iff]
  simp only [DateTime.time?_eq_some_iff, Option.mem_def]

/-- A time that is loaded is not the beginning of 1970, which stands for no time. -/
theorem ne_unixEpoch_of_time? {seconds : Int64} (h : time? seconds = some time) :
    time ≠ DateTime.unixEpoch := by
  obtain ⟨hzero, hseconds, -⟩ := DateTime.time?_eq_some_iff.mp h
  rintro rfl
  -- it would have been written as zero, which is read as no time
  rw [DateTime.epochSeconds_eq_zero_iff.mpr rfl] at hseconds
  exact hzero (Int64.toInt_inj.mp hseconds.symm)

/-- **What is loaded comes back unchanged.** -/
theorem reloaded_toTask (r : Record) : r.toTask.reloaded = r.toTask := by
  have htime : ∀ stored : Option Int64, ∀ time ∈ stored.bind time?,
      time.time.fraction = 0 ∧ time ≠ DateTime.unixEpoch := by
    intro stored time h
    obtain ⟨seconds, -, hseconds⟩ := Option.bind_eq_some_iff.mp h
    exact ⟨DateTime.fraction_of_time? hseconds, ne_unixEpoch_of_time? hseconds⟩
  exact Task.reloaded_eq_self_iff.mpr ⟨htime r.starts, htime r.ends⟩

/-- **Loading normalizes once and for all, and loses what records cannot hold.** What has been
loaded from a record is written and loaded again unchanged; a task is written and loaded unchanged
exactly if no time of it has a part of a second or is the beginning of 1970; and what is loaded from
a record has its description and its mark, the first ten different tags, and the times that are full
seconds in the calendar, other than the beginning of 1970. -/
theorem loading_normalizes :
    (∀ r : Record, (ofTask r.toTask).toTask = r.toTask) ∧
    (∀ t : Task, (ofTask t).toTask = t ↔
      (∀ time ∈ t.starts, time.time.fraction = 0 ∧ time ≠ DateTime.unixEpoch) ∧
        ∀ time ∈ t.ends, time.time.fraction = 0 ∧ time ≠ DateTime.unixEpoch) ∧
    ∀ r : Record, r.toTask.description = r.description ∧ r.toTask.done = r.done ∧
      (∀ name, name ∈ r.toTask.tags ↔
        name ∈ r.tags ∧ (r.tags.takeWhile (· ≠ name)).toFinset.card < maximumTags) ∧
      (∀ time, r.toTask.starts = some time ↔ ∃ seconds ∈ r.starts,
        seconds ≠ 0 ∧ time.epochSeconds = seconds.toInt ∧ time.time.fraction = 0) ∧
      ∀ time, r.toTask.ends = some time ↔ ∃ seconds ∈ r.ends,
        seconds ≠ 0 ∧ time.epochSeconds = seconds.toInt ∧ time.time.fraction = 0 := by
  refine ⟨fun r => ?_, fun t => ?_, fun r => ⟨rfl, rfl, fun _ => TagSet.mem_ofList_iff,
    fun _ => bind_time?_eq_some_iff, fun _ => bind_time?_eq_some_iff⟩⟩
  · rw [toTask_ofTask, reloaded_toTask]
  · rw [toTask_ofTask, Task.reloaded_eq_self_iff]

/-- A record with a repeated tag and a beginning that stands for none. -/
example : ({ description := "tea", starts := some 0, ends := some 86400, tags := ["b", "a", "b"] } :
    Record).toTask = { description := "tea", ends := DateTime.ofEpochSeconds? 86400
                       tags := ⟨["a", "b"], by decide, by decide⟩ } := by
  decide

end Record

end Agenda

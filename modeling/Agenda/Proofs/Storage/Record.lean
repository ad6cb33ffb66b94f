import Agenda.Proofs.Json.Value
import Agenda.Proofs.Task.TagSet
import Agenda.Storage.Record

/-!
# What a task file keeps

The records in a task file are read back as they were written (`parse?_print`). A record can hold
the full seconds in the calendar, except for the beginning of 1970, since zero stands for no time
(`time?_eq_some_iff`). So a task is read back without the parts of a second and without the times at
the very beginning of 1970 (`toTask_ofTask`). Nothing else is lost: `reloaded_eq_self_iff` says
which tasks come back unchanged, and `reloaded_of_isWhole` what comes back of a task with full
seconds only.
-/

namespace Agenda

/-! ### Times -/

/-- The last full second that is not after a time of day. -/
def TimeOfDay.floor (t : TimeOfDay) : TimeOfDay where
  nanos := t.seconds * nanosPerSecond
  nanos_lt := by
    have h := t.nanos_lt
    unfold TimeOfDay.seconds nanosPerDay nanosPerSecond at *
    omega

namespace DateTime

variable {t : DateTime}

/-- The last full second that is not after a date-time. -/
def floor (t : DateTime) : DateTime :=
  t.date.at t.time.floor

/-- The beginning of 1970, from which seconds are counted. -/
def unixEpoch : DateTime :=
  ⟨⟨0, by decide, by decide⟩, .midnight⟩

/-- What becomes of a time in a task file. -/
def reloaded? (t : DateTime) : Option DateTime :=
  if t.floor = unixEpoch then none else some t.floor

theorem seconds_lt (t : TimeOfDay) : t.seconds < 86400 := by
  have h := t.nanos_lt
  unfold nanosPerDay nanosPerSecond at h
  unfold TimeOfDay.seconds nanosPerSecond
  omega

theorem floor_eq_self_iff : t.floor = t ↔ t.time.fraction = 0 := by
  obtain ⟨date, nanos, hnanos⟩ := t
  simp only [floor, Date.at, TimeOfDay.floor, TimeOfDay.seconds, TimeOfDay.fraction,
    DateTime.mk.injEq, TimeOfDay.mk.injEq, true_and]
  unfold nanosPerSecond
  omega

/-- The full second of a date-time is found again from its number. -/
theorem ofEpochSeconds?_epochSeconds (t : DateTime) :
    ofEpochSeconds? t.epochSeconds = some t.floor := by
  have hlt := seconds_lt t.time
  -- dividing by the seconds of a day takes date and time apart again
  have hday : t.epochSeconds / 86400 = t.date.day := by
    unfold epochSeconds
    omega
  have hseconds : (t.epochSeconds % 86400).toNat = t.time.seconds := by
    unfold epochSeconds
    omega
  have hdate : Date.ofDay? t.date.day = some t.date := dif_pos ⟨t.date.first_le, t.date.le_last⟩
  have htime : TimeOfDay.ofNanos? (t.time.seconds * nanosPerSecond) = some t.time.floor :=
    dif_pos t.time.floor.nanos_lt
  unfold ofEpochSeconds?
  rw [hday, hseconds, hdate, htime]
  rfl

theorem epochSeconds_eq_zero_iff : t.epochSeconds = 0 ↔ t.floor = unixEpoch := by
  obtain ⟨⟨day, hfirst, hlast⟩, time⟩ := t
  have hlt := seconds_lt time
  simp only [epochSeconds, floor, Date.at, TimeOfDay.floor, unixEpoch, TimeOfDay.midnight,
    DateTime.mk.injEq, Date.mk.injEq, TimeOfDay.mk.injEq]
  unfold nanosPerSecond
  omega

example : unixEpoch.date.civil = ⟨1970, 1, 1⟩ ∧ unixEpoch.epochSeconds = 0 := by decide

theorem toInt_epoch (t : DateTime) : (Record.epoch t).toInt = t.epochSeconds := by
  have hlt := seconds_lt t.time
  have hfirst := t.date.first_le
  have hlast := t.date.le_last
  unfold firstDay at hfirst
  unfold lastDay at hlast
  -- the first and the last day of the calendar are far within 64 bits
  rw [Record.epoch, Int64.toInt_ofInt_of_le]
  · unfold epochSeconds
    omega
  · unfold epochSeconds
    omega

/-- A time goes through a task file without its part of a second, and not at all if it is the
beginning of 1970. -/
theorem time?_epoch (t : DateTime) : Record.time? (Record.epoch t) = t.reloaded? := by
  have hzero : Record.epoch t = 0 ↔ t.floor = unixEpoch := by
    rw [← Int64.toInt_inj, toInt_epoch, ← epochSeconds_eq_zero_iff]
    rfl
  unfold Record.time? reloaded?
  by_cases h : t.floor = unixEpoch
  · rw [if_pos (hzero.mpr h), if_pos h]
  · rw [if_neg (hzero.not.mpr h), if_neg h, toInt_epoch, ofEpochSeconds?_epochSeconds]

/-- The date-time that is found for a number of seconds is the full second with this number. -/
theorem ofEpochSeconds?_eq_some_iff {seconds : Int} :
    ofEpochSeconds? seconds = some t ↔ t.epochSeconds = seconds ∧ t.time.fraction = 0 := by
  constructor
  · intro h
    unfold ofEpochSeconds? at h
    split at h
    · rename_i date time hdate htime
      cases h
      unfold Date.ofDay? at hdate
      unfold TimeOfDay.ofNanos? at htime
      split at hdate
      · split at htime
        · cases hdate
          cases htime
          refine ⟨?_, Nat.mul_mod_left ..⟩
          have hseconds : (seconds % 86400).toNat * nanosPerSecond / nanosPerSecond
              = (seconds % 86400).toNat := Nat.mul_div_cancel _ (by decide)
          unfold epochSeconds TimeOfDay.seconds
          dsimp only
          omega
        · cases htime
      · cases hdate
    · cases h
  · rintro ⟨rfl, hfraction⟩
    rw [ofEpochSeconds?_epochSeconds, floor_eq_self_iff.mpr hfraction]

/-- **The times that a record can hold** are the full seconds other than the beginning of 1970. -/
theorem time?_eq_some_iff {seconds : Int64} : Record.time? seconds = some t ↔
    seconds ≠ 0 ∧ t.epochSeconds = seconds.toInt ∧ t.time.fraction = 0 := by
  unfold Record.time?
  by_cases hzero : seconds = 0
  · simp [hzero]
  · rw [if_neg hzero, ofEpochSeconds?_eq_some_iff]
    exact (and_iff_right hzero).symm

/-- A time that is read from a task file is a full second. -/
theorem fraction_of_time? {seconds : Int64} (h : Record.time? seconds = some t) :
    t.time.fraction = 0 :=
  (time?_eq_some_iff.mp h).2.2

theorem reloaded?_eq_some_self_iff :
    t.reloaded? = some t ↔ t.time.fraction = 0 ∧ t ≠ unixEpoch := by
  rw [← floor_eq_self_iff, reloaded?]
  constructor
  · intro h
    split at h
    · cases h
    · rename_i hne
      have hfloor := Option.some.inj h
      rw [hfloor] at hne
      exact ⟨hfloor, hne⟩
  · rintro ⟨hfloor, hne⟩
    rw [hfloor, if_neg hne]

end DateTime

/-! ### Tasks -/

namespace Task

/-- What becomes of a task in a task file. -/
def reloaded (t : Task) : Task :=
  { t with starts := t.starts.bind DateTime.reloaded?, ends := t.ends.bind DateTime.reloaded? }

theorem bind_reloaded?_eq_self_iff {time : Option DateTime} :
    time.bind DateTime.reloaded? = time ↔
      ∀ t ∈ time, t.time.fraction = 0 ∧ t ≠ DateTime.unixEpoch := by
  cases time with
  | none => simp
  | some t =>
    rw [Option.bind_some, DateTime.reloaded?_eq_some_self_iff]
    constructor
    · intro h time htime
      rw [Option.mem_def, Option.some.injEq] at htime
      rw [← htime]
      exact h
    · exact fun h => h t rfl

/-- **The tasks that come back unchanged** are those whose times are full seconds other than the
beginning of 1970. -/
theorem reloaded_eq_self_iff {t : Task} : t.reloaded = t ↔
    (∀ time ∈ t.starts, time.time.fraction = 0 ∧ time ≠ DateTime.unixEpoch) ∧
      ∀ time ∈ t.ends, time.time.fraction = 0 ∧ time ≠ DateTime.unixEpoch := by
  rw [← bind_reloaded?_eq_self_iff, ← bind_reloaded?_eq_self_iff]
  obtain ⟨description, tags, starts, ends, done⟩ := t
  simp [reloaded]

/-- The times of a task are full seconds. -/
structure IsWhole (t : Task) : Prop where
  starts : ∀ time ∈ t.starts, time.time.fraction = 0
  ends : ∀ time ∈ t.ends, time.time.fraction = 0

/-- The task without a time at the beginning of 1970. -/
def withoutUnixEpoch (t : Task) : Task :=
  { t with
    starts := t.starts.filter (· ≠ DateTime.unixEpoch)
    ends := t.ends.filter (· ≠ DateTime.unixEpoch) }

theorem filter_ne_eq_self_iff {time : Option DateTime} :
    time.filter (· ≠ DateTime.unixEpoch) = time ↔ time ≠ some DateTime.unixEpoch := by
  cases time with
  | none => simp
  | some t => simp [Option.filter]

theorem withoutUnixEpoch_eq_self_iff {t : Task} : t.withoutUnixEpoch = t ↔
    t.starts ≠ some DateTime.unixEpoch ∧ t.ends ≠ some DateTime.unixEpoch := by
  rw [← filter_ne_eq_self_iff, ← filter_ne_eq_self_iff]
  obtain ⟨description, tags, starts, ends, done⟩ := t
  simp [withoutUnixEpoch]

theorem map_withoutUnixEpoch_eq_self_iff {tasks : List Task} :
    tasks.map withoutUnixEpoch = tasks ↔
      ∀ t ∈ tasks, t.starts ≠ some DateTime.unixEpoch ∧ t.ends ≠ some DateTime.unixEpoch := by
  simp only [← withoutUnixEpoch_eq_self_iff]
  have hmap := List.map_inj_left (f := withoutUnixEpoch) (g := id) (l := tasks)
  rw [List.map_id] at hmap
  exact hmap

theorem bind_reloaded?_of_whole {time : Option DateTime}
    (h : ∀ t ∈ time, t.time.fraction = 0) :
    time.bind DateTime.reloaded? = time.filter (· ≠ DateTime.unixEpoch) := by
  cases time with
  | none => rfl
  | some t =>
    have hfloor := DateTime.floor_eq_self_iff.mpr (h t rfl)
    rw [Option.bind_some, DateTime.reloaded?, hfloor]
    by_cases heq : t = DateTime.unixEpoch
    · simp [Option.filter, heq]
    · simp [Option.filter, heq]

/-- **Full seconds are only lost at the beginning of 1970.** -/
theorem reloaded_of_isWhole {t : Task} (h : t.IsWhole) : t.reloaded = t.withoutUnixEpoch := by
  unfold reloaded withoutUnixEpoch
  rw [bind_reloaded?_of_whole h.starts, bind_reloaded?_of_whole h.ends]

end Task

namespace Record

/-- A task that is read from a record has full seconds only. -/
theorem isWhole_toTask (r : Record) : r.toTask.IsWhole := by
  have htime : ∀ stored : Option Int64, ∀ time ∈ stored.bind time?, time.time.fraction = 0 := by
    intro stored time h
    obtain ⟨seconds, -, hseconds⟩ := Option.bind_eq_some_iff.mp h
    exact DateTime.fraction_of_time? hseconds
  exact ⟨htime r.starts, htime r.ends⟩

/-- **A task goes through a record.** -/
theorem toTask_ofTask (t : Task) : (ofTask t).toTask = t.reloaded := by
  have htime : ∀ time : Option DateTime,
      (time.map epoch).bind time? = time.bind DateTime.reloaded? := by
    intro time
    cases time with
    | none => rfl
    | some t => exact DateTime.time?_epoch t
  unfold ofTask toTask Task.reloaded
  simp only [TagSet.ofList_names, htime]

/-! ### Records in JSON -/

theorem isMeaningful_toJson (r : Record) : r.toJson.IsMeaningful := by
  have htime : ∀ (name : String) (time : Option Int64),
      ∀ member ∈ timeMember name time, member.2.IsMeaningful := by
    intro name time member hmember
    cases time with
    | none => cases hmember
    | some seconds =>
      rw [List.mem_singleton.mp hmember]
      exact .integer _
  have htags : (Json.array (r.tags.map .text)).IsMeaningful := by
    refine .array fun item hitem => ?_
    obtain ⟨tag, -, rfl⟩ := List.mem_map.mp hitem
    exact .text tag
  refine .object fun member hmember => ?_
  simp only [List.mem_append, List.mem_cons, List.not_mem_nil, or_false] at hmember
  rcases hmember with ((rfl | hmember) | hmember) | rfl | rfl
  · exact .text _
  · exact htime _ _ _ hmember
  · exact htime _ _ _ hmember
  · exact .bool _
  · exact htags

theorem int64?_integer (seconds : Int64) : (Json.integer seconds.toInt).int64? = some seconds := by
  have hrange : Int64.minValue.toInt ≤ seconds.toInt ∧ seconds.toInt ≤ Int64.maxValue.toInt :=
    ⟨seconds.minValue_le_toInt, seconds.toInt_le⟩
  show (if _ then _ else _) = _
  rw [if_pos hrange, Int64.ofInt_toInt]

theorem texts?_map (tags : List String) : (Json.array (tags.map .text)).texts? = some tags :=
  Json.mapM_map_of_forall (f := Json.text) (g := Json.text?) (fun _ => rfl) tags

/-- The fields of the object of a record. -/
theorem fields?_toJson (r : Record) :
    r.toJson.fields? ["description", "begin", "end", "done", "tags"]
      = some [some (.text r.description), r.starts.map fun seconds => .integer seconds.toInt,
        r.ends.map fun seconds => .integer seconds.toInt, some (.bool r.done),
        some (.array (r.tags.map .text))] := by
  unfold toJson
  cases r.starts <;> cases r.ends <;> rfl

theorem fieldOr_timeField? (time : Option Int64) :
    Json.fieldOr none timeField? (time.map fun seconds => .integer seconds.toInt) = some time := by
  cases time with
  | none => rfl
  | some seconds =>
    show (Json.integer seconds.toInt).int64?.map some = some (some seconds)
    rw [int64?_integer]
    rfl

/-- **A record is read back from its object.** -/
theorem ofJson?_toJson (r : Record) : ofJson? r.toJson = some r := by
  have htags : Json.fieldOr [] Json.texts? (some (.array (r.tags.map .text))) = some r.tags :=
    texts?_map r.tags
  have hdone : Json.fieldOr false Json.bool? (some (.bool r.done)) = some r.done := rfl
  unfold ofJson?
  rw [fields?_toJson]
  simp only [Option.bind_eq_bind, Option.bind_some, Json.text?, fieldOr_timeField?, htags, hdone]
  rfl

end Record

namespace TaskFile

/-- The document in a task file is the array of the objects of its records. -/
theorem json_print (records : List Record) :
    Json.parse? (print records).toUTF8.toList = some (.array (records.map Record.toJson)) := by
  have hmeaningful : (Json.array (records.map Record.toJson)).IsMeaningful := by
    refine .array fun item hitem => ?_
    obtain ⟨r, -, rfl⟩ := List.mem_map.mp hitem
    exact r.isMeaningful_toJson
  exact Json.parse?_print hmeaningful

/-- **The records of a task file are read back as they were written.** -/
theorem parse?_print (records : List Record) :
    parse? (print records).toUTF8.toList = some records := by
  unfold parse?
  rw [json_print]
  exact Json.mapM_map_of_forall Record.ofJson?_toJson records

end TaskFile

end Agenda

import Agenda.Proofs.Language.Body
import Agenda.Proofs.Language.Edit
import Agenda.Proofs.Language.Period
import Agenda.Proofs.Session.Tasks
import Agenda.Proofs.Storage.Record

/-!
# Well-formed tasks

What lines keep of a task is looked at part by part: the description, the tags and the times of a
task come from the body of a line or stay as they were (`keptByLines_description`,
`keptByLines_tags`, `keptByLines_times`). Put together, lines keep tasks well-formed
(`Task.keptByLines_wellFormed`), and so all tasks of a session are, in its list and in its history
(`allTasks_wellFormed_after`).
-/

namespace Agenda

/-! ### Parts of tasks -/

namespace KeptByLines

variable {P Q : Task → Prop}

theorem and (hP : KeptByLines P) (hQ : KeptByLines Q) : KeptByLines fun t => P t ∧ Q t where
  new hbody htask hperiod := ⟨hP.new hbody htask hperiod, hQ.new hbody htask hperiod⟩
  edited ht hbody hperiod hafter :=
    ⟨hP.edited ht.1 hbody hperiod hafter, hQ.edited ht.2 hbody hperiod hafter⟩
  marked ht done := ⟨hP.marked ht.1 done, hQ.marked ht.2 done⟩

theorem congr (hP : KeptByLines P) (h : ∀ t, P t ↔ Q t) : KeptByLines Q := by
  have heq : P = Q := funext fun t => propext (h t)
  rwa [← heq]

end KeptByLines

/-- Lines leave no task without a description. -/
theorem keptByLines_description : KeptByLines fun t => t.description ≠ "" where
  new _ htask _ := by
    obtain ⟨hdescription, tags, -, rfl⟩ := Action.newTask_spec htask
    rw [Action.description_withPeriod]
    exact hdescription
  edited ht _ _ hafter := by
    rw [(Action.edited_spec hafter).description]
    split
    · exact ht
    · assumption
  marked ht _ := ht

/-- **Lines keep what holds of the tags that bodies add.** -/
theorem keptByLines_tags {Q : String → Prop}
    (hadd : ∀ {text : String} {body : Body} {name : String}, Body.ofText text = .ok body →
      .add name ∈ body.tags → Q name) : KeptByLines fun t => ∀ name ∈ t.tags, Q name where
  new hbody htask _ := by
    obtain ⟨-, tags, htags, rfl⟩ := Action.newTask_spec htask
    intro name hname
    rw [Action.tags_withPeriod] at hname
    rcases (Action.mem_newTags htags).mp hname with hname | hname
    · exact absurd hname TagSet.notMem_empty
    · exact hadd hbody hname
  edited ht hbody _ hafter := by
    intro name hname
    rcases (Action.mem_gainTags (Action.edited_spec hafter).tags).mp hname with hname | hname
    · exact ht name (Action.mem_loseTags.mp hname).1
    · exact hadd hbody hname
  marked ht _ := ht

/-- **Lines keep what holds of the times that lines name.** -/
theorem keptByLines_times {Q : Option DateTime → Option DateTime → Prop} (hnone : Q none none)
    (hperiod : ∀ {segments : List String} {now : DateTime} {period : Period},
      Period.ofSegments segments now = .read (some period) → Q period.starts (some period.ends)) :
    KeptByLines fun t => Q t.starts t.ends where
  new {_ _ _ period _} _ htask hread := by
    obtain ⟨-, tags, -, rfl⟩ := Action.newTask_spec htask
    rw [Action.starts_withPeriod, Action.ends_withPeriod]
    cases period with
    | none => exact hnone
    | some period => exact hperiod hread
  edited {_ body period _ _ _} ht _ hread hafter := by
    have hedited := Action.edited_spec hafter
    rw [hedited.starts, hedited.ends]
    cases period with
    | none =>
      -- without new times, a task keeps both or loses both
      cases body.dropsTime
      · exact ht
      · exact hnone
    | some period => exact hperiod hread
  marked ht _ := ht

/-! ### Well-formed tasks -/

/-- The times of a task: it begins only if it ends, and not after that, and both are full
seconds. -/
structure TimesFit (starts ends : Option DateTime) : Prop where
  ends_isSome : starts.isSome → ends.isSome
  le : ∀ start ∈ starts, ∀ «end» ∈ ends, start ≤ «end»
  whole_starts : ∀ start ∈ starts, start.time.fraction = 0
  whole_ends : ∀ «end» ∈ ends, «end».time.fraction = 0

namespace Task

/-- A task as lines make it: it has a description, at most ten tags whose names are not empty and
have no blanks in them, and times that fit together. -/
structure WellFormed (t : Task) : Prop where
  description_ne : t.description ≠ ""
  size_le : t.tags.size ≤ maximumTags
  isWord : ∀ name ∈ t.tags, Text.IsWord name.toList
  times : TimesFit t.starts t.ends

theorem keptByLines_timesFit : KeptByLines fun t => TimesFit t.starts t.ends := by
  refine keptByLines_times ?_ fun hread => ?_
  · exact ⟨fun h => h, fun _ h => (nomatch h), fun _ h => (nomatch h), fun _ h => (nomatch h)⟩
  · -- times that a line names make up a period, which does not end before it begins
    have hwhole := Period.isWhole_ofSegments hread
    refine ⟨fun _ => rfl, fun starts hstarts «end» hend => ?_, hwhole.starts, fun «end» hend => ?_⟩
    · cases hend
      exact Period.le_of_ofSegments hread starts hstarts
    · cases hend
      exact hwhole.ends

/-- **Lines keep tasks well-formed.** -/
theorem keptByLines_wellFormed : KeptByLines WellFormed := by
  have htags : KeptByLines fun t => ∀ name ∈ t.tags, Text.IsWord name.toList :=
    keptByLines_tags Body.isWord_of_mem_tags
  refine (keptByLines_description.and (htags.and keptByLines_timesFit)).congr fun t => ?_
  constructor
  · rintro ⟨hdescription, hword, htimes⟩
    exact ⟨hdescription, t.tags.length_le, hword, htimes⟩
  · intro h
    exact ⟨h.description_ne, h.isWord, h.times⟩

/-- **Lines keep tasks with full seconds only.** -/
theorem keptByLines_isWhole : KeptByLines IsWhole := by
  have hwhole : KeptByLines fun t => (∀ time ∈ t.starts, time.time.fraction = 0) ∧
      ∀ time ∈ t.ends, time.time.fraction = 0 := by
    refine keptByLines_times (Q := fun starts ends => (∀ time ∈ starts, time.time.fraction = 0) ∧
      ∀ time ∈ ends, time.time.fraction = 0) ?_ fun hread => ?_
    · exact ⟨fun _ h => (nomatch h), fun _ h => (nomatch h)⟩
    · have hperiod := Period.isWhole_ofSegments hread
      refine ⟨hperiod.starts, fun time htime => ?_⟩
      cases htime
      exact hperiod.ends
  exact hwhole.congr fun t => ⟨fun h => ⟨h.1, h.2⟩, fun h => ⟨h.starts, h.ends⟩⟩

end Task

/-! ### Sessions -/

namespace Session

/-- **All tasks of a session are well-formed if the first ones are.** Whatever lines are given to
the session and whichever saves fail, each task in the list is well-formed, and so is each task in
the commands that can be undone or redone. -/
theorem allTasks_wellFormed_after (store : Store) (implicitAdd : Bool)
    (hlist : ∀ t ∈ store.list.tasks, t.WellFormed) (events : List Event) :
    AllTasks Task.WellFormed (({ store, implicitAdd } : Session).after events) := by
  have hstart : OnTimeline store.list.bag { store, implicitAdd } := ⟨rfl, trivial⟩
  refine allTasks_after Task.keptByLines_wellFormed hlist hstart ?_ events
  intro c hc
  cases hc

/-- Edits that are refused, carried out and taken back, on a list of one task. -/
theorem wellFormed_after_edits :
    let milk : Task := { description := "milk" }
    let store : Store := { list := { tasks := [milk] }, repository := .memory [milk] false }
    let now : DateTime := ⟨⟨20000, by decide, by decide⟩, .midnight⟩
    (∀ t ∈ store.list.tasks, t.WellFormed) ∧
      AllTasks Task.WellFormed (({ store } : Session).after
        [.line "edit 1 #cold @ 3/1/2030 - 2/1/2030" now,
          .line "edit 1 #cold @ 2/1/2030 - 3/1/2030" now, .line "undo" now,
          .line "redo" now]) := by
  intro milk store now
  have hmilk : milk.WellFormed :=
    ⟨by decide, by decide, fun _ h => (nomatch h), ⟨fun h => h, fun _ h => (nomatch h),
      fun _ h => (nomatch h), fun _ h => (nomatch h)⟩⟩
  have hlist : ∀ t ∈ store.list.tasks, t.WellFormed := by
    intro t ht
    rw [List.mem_singleton.mp ht]
    exact hmilk
  exact ⟨hlist, allTasks_wellFormed_after store false hlist _⟩

end Session

end Agenda

import Agenda.Proofs.Session.Timeline

/-!
# Properties of all tasks of a session

A property of tasks that new tasks have, and that edits and marks keep (`KeptByLines`), holds of
every task that a session ever has in its list or in its history (`allTasks_after`), if it holds of
the first ones. Only commands have to be looked at: on the timeline, each task in the list is one of
the first ones or comes from a command (`Command.mem_effects`).
-/

namespace Agenda

/-! ### Tasks of commands -/

namespace Command

variable {c : Command} {cs : List Command} {M : Multiset Task} {t : Task}

/-- The tasks that a command takes away and puts in. -/
def tasks : Command → List Task
  | add task => [task]
  | remove targets => targets.map (·.task)
  | edit targets => targets.map (·.before) ++ targets.map (·.after)
  | mark targets done => targets.map (·.task) ++ targets.map fun t => { t.task with done := done }
  | clear tasks => tasks

theorem mem_effect (h : t ∈ c.effect M) : t ∈ M ∨ t ∈ c.tasks := by
  cases c with
  | add task =>
    rcases Multiset.mem_cons.mp h with rfl | h
    · exact Or.inr (List.mem_singleton_self _)
    · exact Or.inl h
  | remove targets => exact Or.inl (Multiset.mem_of_le (Multiset.sub_le_self ..) h)
  | edit targets =>
    rcases Multiset.mem_add.mp h with h | h
    · exact Or.inl (Multiset.mem_of_le (Multiset.sub_le_self ..) h)
    · exact Or.inr (List.mem_append_right _ h)
  | mark targets done =>
    rcases Multiset.mem_add.mp h with h | h
    · exact Or.inl (Multiset.mem_of_le (Multiset.sub_le_self ..) h)
    · exact Or.inr (List.mem_append_right _ h)
  | clear tasks => exact absurd h (Multiset.notMem_zero t)

/-- What is there after commands was there before or comes from one of them. -/
theorem mem_effects (h : t ∈ effects cs M) : t ∈ M ∨ ∃ c ∈ cs, t ∈ c.tasks := by
  induction cs generalizing M with
  | nil => exact Or.inl h
  | cons c rest ih =>
    rcases ih h with h | ⟨c', hc', ht⟩
    · rcases mem_effect h with h | h
      · exact Or.inl h
      · exact Or.inr ⟨c, List.mem_cons_self .., h⟩
    · exact Or.inr ⟨c', List.mem_cons_of_mem _ hc', ht⟩

end Command

/-! ### Properties that lines keep -/

/-- A property that new tasks have, and that edits and marks keep. Both come from a body that was
read from a text. -/
structure KeptByLines (P : Task → Prop) : Prop where
  new {text : String} {body : Body} {task : Task} {period : Option Period} {now : DateTime}
    (hbody : Body.ofText text = .ok body) (htask : Action.newTask body = .ok task)
    (hperiod : Period.ofSegments body.times now = .read period) :
    P (Action.withPeriod task period)
  edited {text : String} {body : Body} {period : Option Period} {now : DateTime} {t after : Task}
    (ht : P t) (hbody : Body.ofText text = .ok body)
    (hperiod : Period.ofSegments body.times now = .read period)
    (hafter : Action.edited t body period = .ok after) : P after
  marked {t : Task} (ht : P t) (done : Bool) : P { t with done := done }

namespace KeptByLines

variable {P : Task → Prop} {l : TaskList} {targets : List Target} {text : String} {now : DateTime}
  {c : Command}

theorem of_captured (hl : ∀ t ∈ l.tasks, P t) (hcap : l.Captured targets) :
    ∀ t ∈ targets.map (·.task), P t :=
  fun t ht => hl t (hcap.sublist.subset ht)

theorem of_edits (hkept : KeptByLines P) {body : Body} {period : Option Period}
    {revisions : List Revision} (hbody : Body.ofText text = .ok body)
    (hperiod : Period.ofSegments body.times now = .read period)
    (h : Action.edits body period targets = .ok revisions)
    (htargets : ∀ t ∈ targets.map (·.task), P t) : ∀ t ∈ revisions.map (·.after), P t := by
  have hall := Action.edits_spec h
  clear h
  -- by the pairs of targets and revisions, which are equally many
  induction hall with
  | nil =>
    intro t ht
    cases ht
  | @cons target r targets revisions hr _ ih =>
    obtain ⟨htarget, hrest⟩ := List.forall_mem_cons.mp htargets
    intro t ht
    rcases List.mem_cons.mp ht with rfl | ht
    · exact hkept.edited htarget hbody hperiod hr.2.2
    · exact ih hrest t ht

/-- **The command that a line asks for has the property in all its tasks.** -/
theorem of_ofText (hkept : KeptByLines P) (hl : ∀ t ∈ l.tasks, P t) {implicitAdd : Bool}
    (h : Action.ofText implicitAdd l text now = .read (.execute c)) : ∀ t ∈ c.tasks, P t := by
  rcases Action.command_cases h with ⟨_, h⟩ | ⟨-, h⟩ | ⟨-, h⟩ | ⟨done, -, h⟩ | rfl
  · obtain ⟨body, task, period, hbody, htask, hperiod, rfl⟩ := Action.add_spec h
    intro t ht
    rw [List.mem_singleton.mp ht]
    exact hkept.new hbody htask hperiod
  · obtain ⟨_, body, period, targets, revisions, -, hnamed, hbody, hperiod, hedits, rfl⟩ :=
      Action.edit_spec h
    have htargets := of_captured hl hnamed.toCaptured
    have hafter := hkept.of_edits hbody hperiod hedits htargets
    rw [← Action.map_before_of_edits hedits] at htargets
    intro t ht
    rcases List.mem_append.mp ht with ht | ht
    · exact htargets t ht
    · exact hafter t ht
  · obtain ⟨targets, hnamed, rfl⟩ := Action.remove_spec h
    exact of_captured hl hnamed.toCaptured
  · obtain ⟨targets, hnamed, rfl⟩ := Action.mark_spec h
    have htargets := of_captured hl hnamed.toCaptured
    intro t ht
    rcases List.mem_append.mp ht with ht | ht
    · exact htargets t ht
    · obtain ⟨target, htarget, rfl⟩ := List.mem_map.mp ht
      exact hkept.marked (htargets _ (List.mem_map_of_mem htarget)) done
  · exact hl

end KeptByLines

/-! ### Sessions -/

namespace Session

variable {s : Session} {P : Task → Prop} {M₀ : Multiset Task}

/-- Every task in the list and in the history has a property. -/
structure AllTasks (P : Task → Prop) (s : Session) : Prop where
  list : ∀ t ∈ s.store.list.tasks, P t
  history : ∀ c ∈ s.history.timeline, ∀ t ∈ c.tasks, P t

/-- On a timeline only the commands have to be looked at. -/
theorem allTasks_of_onTimeline (hM : ∀ t ∈ M₀, P t) (h : OnTimeline M₀ s)
    (hhistory : ∀ c ∈ s.history.timeline, ∀ t ∈ c.tasks, P t) : AllTasks P s := by
  -- a task in the list is in the first bag or comes from a command before the point
  refine ⟨fun t ht => ?_, hhistory⟩
  have hbag : t ∈ s.store.list.bag := ht
  rw [h.bag_eq] at hbag
  rcases Command.mem_effects hbag with hmem | ⟨c, hc, hmem⟩
  · exact hM t hmem
  · exact hhistory c (List.mem_append_left _ hc) t hmem

/-- The commands of the timeline after a line are those before it, and perhaps one that the line
asks for and that is carried out. -/
theorem mem_timeline_of_ran {s' : Session} {text : String} {now : DateTime} {status : Status}
    {move : Option Move} (hran : Ran s text now status move s') {c : Command}
    (hc : c ∈ s'.history.timeline) : c ∈ s.history.timeline ∨ (move = some (.executed c) ∧
      Action.ofText s.implicitAdd s.store.list text now = .read (.execute c)) := by
  unfold History.timeline at hc ⊢
  cases hran with
  | executed hread =>
    rw [List.append_nil, List.mem_reverse, List.mem_cons] at hc
    rcases hc with rfl | hc
    · exact Or.inr ⟨rfl, hread⟩
    · exact Or.inl (List.mem_append_left _ (List.mem_reverse.mpr hc))
  | undid hdone =>
    rw [hdone]
    simp only [List.mem_append, List.mem_reverse, List.mem_cons] at hc ⊢
    exact Or.inl (by tauto)
  | redid hundone =>
    rw [hundone]
    simp only [List.mem_append, List.mem_reverse, List.mem_cons] at hc ⊢
    exact Or.inl (by tauto)
  | failed => exact Or.inl hc
  | refused => exact Or.inl hc
  | idle => exact Or.inl hc

theorem mem_timeline_of_step {event : Event} {c : Command}
    (hc : c ∈ (s.step event).history.timeline) : c ∈ s.history.timeline ∨
      ∃ text now, Action.ofText s.implicitAdd s.store.list text now = .read (.execute c) := by
  rcases step_cases s event with ⟨text, now, status, -, hran⟩ | ⟨-, repository, hstep⟩
  · rcases mem_timeline_of_ran hran hc with hc | ⟨-, hread⟩
    · exact Or.inl hc
    · exact Or.inr ⟨text, now, hread⟩
  · rw [hstep] at hc
    exact Or.inl hc

/-- **What lines keep holds of all tasks of a session at any time.** -/
theorem allTasks_after (hkept : KeptByLines P) (hM : ∀ t ∈ M₀, P t) (h : OnTimeline M₀ s)
    (hhistory : ∀ c ∈ s.history.timeline, ∀ t ∈ c.tasks, P t) (events : List Event) :
    AllTasks P (s.after events) := by
  induction events generalizing s with
  | nil => exact allTasks_of_onTimeline hM h hhistory
  | cons event rest ih =>
    refine ih (onTimeline_step h event) fun c hc => ?_
    rcases mem_timeline_of_step hc with hc | ⟨text, now, hread⟩
    · exact hhistory c hc
    · exact hkept.of_ofText (allTasks_of_onTimeline hM h hhistory).list hread

end Session

end Agenda

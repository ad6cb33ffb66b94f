import Agenda.Proofs.Command.TiedTasks
import Agenda.Proofs.Language.IdSets
import Agenda.Proofs.Session.Newest
import Agenda.Proofs.Session.Tasks

/-!
# The task added last, along the timeline

The log of additions belongs to the list, the commands that can be undone belong to the history, and
neither knows of the other. As long as nothing is edited or marked, the log holds what the commands
that can be undone have added (`LogsAdditions`), whatever is added, removed, cleared, undone and
redone and whether it can be saved or not. So `last` is the last copy of the task of the newest
addition that can be undone, and a line that removes it names this copy or is refused
(`last_follows_additions`).
-/

namespace Agenda

open Text

/-! ### Additions of a history -/

/-- The task that a command adds. -/
def Command.addition? : Command → Option Task
  | add task => some task
  | _ => none

theorem Command.head?_logged (c : Command) : c.logged.head? = c.addition? := by
  cases c with
  | add task => rfl
  | remove | edit | mark | clear => rfl

/-- The task of the newest addition that can be undone. -/
def History.newestAddition? (h : History) : Option Task :=
  h.done.findSome? Command.addition?

theorem History.head?_logged (h : History) :
    (h.done.flatMap Command.logged).head? = h.newestAddition? := by
  rw [List.head?_flatMap, newestAddition?]
  simp only [Command.head?_logged]

theorem Command.swaps_of_not_revises {c : Command} (hc : ¬c.Revises) : c.swaps = [] := by
  cases c with
  | edit revisions => exact absurd (.edit revisions) hc
  | mark targets done => exact absurd (.mark targets done) hc
  | add | remove | clear => rfl

/-! ### The position of the newest task -/

namespace TaskList

variable {l : TaskList} {argument : String} {p : ℕ} {t : Task}

/-- The last copy of a task in the list is at a position. -/
structure IsLastCopy (l : TaskList) (t : Task) (p : ℕ) : Prop where
  get? : l.get? p = some t
  none_behind : ∀ q, p < q → l.get? q ≠ some t

theorem newest?_eq (l : TaskList) :
    l.newest? = l.added.head?.bind fun t => lastIndexOf? t l.tasks := by
  obtain ⟨tasks, added⟩ := l
  cases added with
  | nil => rfl
  | cons t rest => rfl

theorem newest?_eq_some_iff :
    l.newest? = some p ↔ ∃ t, l.added.head? = some t ∧ l.IsLastCopy t p := by
  rw [newest?_eq, Option.bind_eq_some_iff]
  simp only [lastIndexOf?_eq_some_iff]
  constructor
  · rintro ⟨t, hhead, hget, hbehind⟩
    exact ⟨t, hhead, hget, hbehind⟩
  · rintro ⟨t, hhead, hget, hbehind⟩
    exact ⟨t, hhead, hget, hbehind⟩

theorem newest?_eq_none_iff : l.newest? = none ↔ ∀ t, l.added.head? = some t → t ∉ l.tasks := by
  rw [newest?_eq, Option.bind_eq_none_iff]
  simp only [lastIndexOf?_eq_none_iff]

end TaskList

/-! ### Lines that remove the newest task -/

/-- A line removes what `last` stands for and nothing else. -/
structure Line.RemovesLast (line : Line) : Prop where
  verb : line.verb? = some .remove
  tokens : IdList.tokens line.argument = ["last".toList]

namespace Action

variable {l : TaskList} {text : String} {now : DateTime} {implicitAdd : Bool} {p : ℕ} {t : Task}

theorem resolve_last {argument : String} (h : IdList.tokens argument = ["last".toList]) :
    IdList.resolve argument l.idScope
      = (IdList.single l.idScope "last".toList).map fun id => [id] :=
  IdList.resolve_of_single h (by decide) (by decide)

/-- Something follows the verb, so tasks are asked for. -/
theorem remove_of_removesLast (h : (Line.ofText text).RemovesLast) :
    remove l (Line.ofText text).argument
      = (targets l (Line.ofText text).argument).map .remove := by
  have hne : (Line.ofText text).argument ≠ "" := by
    intro hempty
    have htokens := h.tokens
    rw [hempty] at htokens
    revert htokens
    decide +kernel
  exact if_neg hne

/-- **`last` is the newest task.** -/
theorem ofText_removesLast (h : (Line.ofText text).RemovesLast) (hlast : l.newest? = some p)
    (hget : l.get? p = some t) :
    ofText implicitAdd l text now = .read (.execute (.remove [⟨p, t⟩])) := by
  have hlt : p < l.size := (List.getElem?_eq_some_iff.mp hget).1
  -- `last` is read as the position of the newest task, counted from one
  have hsingle : IdList.single l.idScope "last".toList = .ok (p + 1) := by
    unfold IdList.single IdList.number TaskList.idScope
    rw [if_pos rfl, hlast]
    exact if_neg (by dsimp only; omega)
  have htargets : targets l (Line.ofText text).argument = .ok [⟨p, t⟩] := by
    unfold targets
    rw [resolve_last h.tokens, hsingle]
    show targetsAt l [p + 1] = _
    rw [targetsAt, Nat.add_sub_cancel, hget]
    rfl
  rw [ofText_of_verb _ h.verb, ofVerb, remove_of_removesLast h, htargets]
  rfl

theorem ofText_removesLast_of_none (h : (Line.ofText text).RemovesLast)
    (hlast : l.newest? = none) : ofText implicitAdd l text now = .refused .nothingAdded := by
  have htargets : targets l (Line.ofText text).argument = .error .nothingAdded := by
    unfold targets
    rw [resolve_last h.tokens, IdList.single_of_refusedOne (.nothingAdded hlast)]
    rfl
  rw [ofText_of_verb _ h.verb, ofVerb, remove_of_removesLast h, htargets]
  rfl

end Action

/-! ### Sessions that neither edit nor mark -/

namespace Session

variable {s s' : Session} {text : String} {now : DateTime} {status : Status} {move : Option Move}
  {events : List Event}

/-- **The log holds what the history has added**, whose commands neither edit nor mark. -/
structure LogsAdditions (s : Session) : Prop where
  added : s.store.list.added = s.history.done.flatMap Command.logged
  not_revises : ∀ c ∈ s.history.timeline, ¬c.Revises

/-- A line keeps the log and the history in step, unless it edits or marks. -/
theorem logsAdditions_of_ran (h : LogsAdditions s) (hran : Ran s text now status move s')
    (hmove : ∀ c, move = some (.executed c) → ¬c.Revises) : LogsAdditions s' := by
  have hnot : ∀ c ∈ s'.history.timeline, ¬c.Revises := by
    intro c hc
    rcases mem_timeline_of_ran hran hc with hc | ⟨hexecuted, -⟩
    · exact h.not_revises c hc
    · exact hmove c hexecuted
  -- neither edits nor marks swap tasks, so what is logged stays
  have hfollow : ∀ log : List Task, log.map (follow []) = log := fun log => List.map_id log
  refine ⟨?_, hnot⟩
  have hadded := h.added
  cases hran with
  | @executed c store hread hrun =>
    rw [Command.added_of_run hrun, Command.swaps_of_not_revises (hmove c rfl), hfollow, hadded]
    rfl
  | @undid c rest store hdone hrun =>
    have hc : c ∈ s.history.timeline := by simp [History.timeline, hdone]
    -- what the command has logged is at the head of the log, and it goes with the command
    rw [hdone] at hadded
    rw [Command.added_of_undo hadded hrun, Command.swaps_of_not_revises (h.not_revises c hc)]
    exact hfollow _
  | @redid c rest store hundone hrun =>
    have hc : c ∈ s.history.timeline := by simp [History.timeline, hundone]
    rw [Command.added_of_run hrun, Command.swaps_of_not_revises (h.not_revises c hc), hfollow,
      hadded]
    rfl
  | failed hrun =>
    rw [(Store.kept_of_transaction hrun).eq]
    exact hadded
  | refused => exact hadded
  | idle => exact hadded

theorem logsAdditions_step (h : LogsAdditions s) {event : Event}
    (hmove : ∀ c, event.move? s = some (.executed c) → ¬c.Revises) :
    LogsAdditions (s.step event) := by
  rcases step_cases s event with ⟨text, now, status, -, hran⟩ | ⟨-, repository, hstep⟩
  · exact logsAdditions_of_ran h hran hmove
  · rw [hstep]
    exact ⟨h.added, h.not_revises⟩

/-- **The log and the history stay in step**, as long as nothing is edited or marked. -/
theorem logsAdditions_after (h : LogsAdditions s)
    (hmoves : ∀ c, .executed c ∈ s.moves events → ¬c.Revises) :
    LogsAdditions (s.after events) := by
  induction events generalizing s with
  | nil => exact h
  | cons event rest ih =>
    rw [moves] at hmoves
    refine ih (logsAdditions_step h fun c hc => hmoves c ?_) fun c hc => hmoves c ?_
    · exact List.mem_append_left _ (by rw [hc]; exact List.mem_singleton_self _)
    · exact List.mem_append_right _ hc

theorem logsAdditions_of_open? {repository : Repository} {store : Store} (implicitAdd : Bool)
    (hopen : Store.open? repository = .ok store) : LogsAdditions { store, implicitAdd } := by
  unfold Store.open? at hopen
  cases hload : repository.load with
  | error error =>
    rw [hload] at hopen
    cases hopen
  | ok tasks =>
    rw [hload] at hopen
    cases hopen
    exact ⟨rfl, List.forall_mem_nil _⟩

/-- **`last` follows the timeline of additions.** In a session on a store that has just been opened,
as long as nothing is edited or marked, `last` is the last copy of the task of the newest addition
that can be undone. There is none just if there is no such addition or its task is not in the list.
A line that removes `last` names this copy, or it is refused. -/
theorem last_follows_additions {repository : Repository} {store : Store} {implicitAdd : Bool}
    (hopen : Store.open? repository = .ok store)
    (hmoves : ∀ c, .executed c ∈ ({ store, implicitAdd } : Session).moves events → ¬c.Revises) :
    let s := ({ store, implicitAdd } : Session).after events
    let l := s.store.list
    (∀ p, l.newest? = some p ↔ ∃ t, s.history.newestAddition? = some t ∧ l.IsLastCopy t p) ∧
    (l.newest? = none ↔ ∀ t, s.history.newestAddition? = some t → t ∉ l.tasks) ∧
    ∀ text, (Line.ofText text).RemovesLast → ∀ now,
      (∀ p, l.newest? = some p → ∃ t, l.get? p = some t ∧
        Action.ofText s.implicitAdd l text now = .read (.execute (.remove [⟨p, t⟩]))) ∧
      (l.newest? = none → s.run text now = some (failure Refusal.nothingAdded.message, s)) := by
  intro s l
  have hlogs : LogsAdditions s :=
    logsAdditions_after (logsAdditions_of_open? implicitAdd hopen) hmoves
  have hhead : l.added.head? = s.history.newestAddition? := by
    rw [← History.head?_logged, ← hlogs.added]
  refine ⟨fun p => ?_, ?_, fun text htext now => ⟨fun p hp => ?_, fun hnone => ?_⟩⟩
  · rw [TaskList.newest?_eq_some_iff, hhead]
  · rw [TaskList.newest?_eq_none_iff, hhead]
  · obtain ⟨t, -, hcopy⟩ := TaskList.newest?_eq_some_iff.mp hp
    exact ⟨t, hcopy.get?, Action.ofText_removesLast htext hp hcopy.get?⟩
  · have hread : Action.ofText s.implicitAdd l text now = .refused .nothingAdded :=
      Action.ofText_removesLast_of_none htext hnone
    unfold run
    rw [hread]

theorem removesLast : (Line.ofText "remove last").RemovesLast :=
  ⟨by decide +kernel, by decide +kernel⟩

/-- Milk is added, the list is cleared, and this is undone: `last` is the milk again. -/
theorem milk_last_after_clear_undone :
    let milk : Task := { description := "milk" }
    let start : Session := { store := { list := { tasks := [] }, repository := .memory [] false } }
    let events : List Event :=
      [.line "add milk" someDay, .line "clear" someDay, .line "undo" someDay]
    let s := start.after events
    Store.open? (.memory [] false) = .ok start.store ∧
      start.moves events = [.executed (.add milk), .executed (.clear [milk]), .undid] ∧
      s.store.list.newest? = some 0 ∧
      Action.ofText s.implicitAdd s.store.list "remove last" someDay
        = .read (.execute (.remove [⟨0, milk⟩])) := by
  intro milk start events s
  have hopen : Store.open? (.memory [] false) = .ok start.store := rfl
  have hreadAdd : Action.ofText false { tasks := [] } "add milk" someDay
      = .read (.execute (.add milk)) := by decide +kernel
  have hadd : (Command.add milk).apply.run { tasks := [] }
      = .ok () { tasks := [milk], added := [milk] } := rfl
  have hreadClear : Action.ofText false { tasks := [milk], added := [milk] } "clear" someDay
      = .read (.execute (.clear [milk])) := by decide +kernel
  have hclear : (Command.clear [milk]).apply.run { tasks := [milk], added := [milk] }
      = .ok () { tasks := [], added := [milk] } := rfl
  have hundo : (Command.clear [milk]).revert.run { tasks := saveOrder [], added := [milk] }
      = .ok () { tasks := [milk], added := [milk] } := rfl
  obtain ⟨hmove, hadded⟩ := (working_inMemory []).step hreadAdd hadd
  rw [TaskList.sorted_singleton] at hadded
  obtain ⟨hmove', hcleared⟩ := hadded.step hreadClear hclear
  obtain ⟨hmove'', hback⟩ := hcleared.step_undo hundo someDay
  rw [TaskList.sorted_singleton] at hback
  have hback : Working s { tasks := [milk], added := [milk] } ⟨[.add milk], [.clear [milk]]⟩ :=
    hback
  have hmoves : start.moves events
      = [.executed (.add milk), .executed (.clear [milk]), .undid] := by
    rw [moves_cons_of_move? hmove, moves_cons_of_move? hmove', moves_cons_of_move? hmove'']
    rfl
  -- neither the addition nor the clearing revises a task
  have hnone : ∀ c, .executed c ∈ start.moves events → ¬c.Revises := by
    rw [hmoves]
    intro c hc hrevises
    cases hrevises <;> simp at hc
  obtain ⟨hlast, -, hremove⟩ := last_follows_additions hopen hnone
  have hnewest : s.store.list.newest? = some 0 := by
    refine (hlast 0).mpr ⟨milk, ?_, ?_⟩
    · show s.history.newestAddition? = some milk
      rw [History.newestAddition?, hback.history]
      rfl
    · show s.store.list.IsLastCopy milk 0
      rw [hback.list]
      refine ⟨rfl, fun q hq => ?_⟩
      obtain ⟨q, rfl⟩ := Nat.exists_eq_add_one.mpr hq
      exact (Option.some_ne_none milk).symm
  refine ⟨hopen, hmoves, hnewest, ?_⟩
  obtain ⟨t, hget, hread⟩ := (hremove _ removesLast someDay).1 0 hnewest
  have hmilk : s.store.list.get? 0 = some milk := by
    rw [hback.list]
    rfl
  obtain rfl : t = milk := Option.some.inj (hget.symm.trans hmilk)
  exact hread

end Session

end Agenda

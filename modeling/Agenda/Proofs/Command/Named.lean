import Agenda.History
import Agenda.Proofs.Command.Position
import Agenda.Proofs.Store.Transaction

/-!
# Lines change the tasks that they name

A line that removes, marks or edits tasks names them by ids. `named_tasks_change` says what becomes
of them when the command is carried out on the list that the line was read against: exactly the
tasks at the named positions are taken out, marked or edited, and every other position gives its
task unchanged to the list that is then sorted and saved. Equal tasks make no difference, nor does
an edit that turns one named task into another: the command finds each task where it was named.
-/

namespace Agenda

namespace Store

/-- Carrying out a command succeeds and leaves some tasks, in the order in which they are saved. -/
def Leaves (s : Store) (c : Command) (tasks : List Task) : Prop :=
  ∃ s', c.run.run s = .ok () s' ∧ s'.list.tasks = saveOrder tasks

variable {s : Store} {c : Command} {l : TaskList}

/-- On a repository that works, what a command does to the draft is what it leaves. -/
theorem leaves_of_apply (hworks : s.repository.Works) (happly : c.apply.run s.list = .ok () l) :
    s.Leaves c l.tasks := by
  obtain ⟨s', hrun, hlist⟩ := exists_transaction_ok hworks happly
  exact ⟨s', hrun, congrArg TaskList.tasks hlist⟩

end Store

namespace Action

/-- A task edited as a body says; one that cannot be edited so stays as it is. -/
def editedOrSame (body : Body) (period : Option Period) (t : Task) : Task :=
  match edited t body period with
  | .ok after => after
  | .error _ => t

theorem editedOrSame_of_edited {t after : Task} {body : Body} {period : Option Period}
    (h : edited t body period = .ok after) : editedOrSame body period t = after := by
  unfold editedOrSame
  rw [h]

end Action

namespace Command

variable {s : Store} {targets : List Target} {revisions : List Revision}

/-! ### Captured targets -/

theorem nodup_positions {l : TaskList} (hcap : l.Captured targets) :
    (targets.map (·.position)).Nodup := by
  have hlt : (targets.map (·.position)).Pairwise (· < ·) := List.pairwise_map.mpr hcap.ascending
  exact hlt.imp fun h => Nat.ne_of_lt h

theorem leaves_remove (hworks : s.repository.Works) (hcap : s.list.Captured targets) :
    s.Leaves (remove targets) (removedAt (targets.map (·.position)) s.list.tasks) := by
  have hrun : (remove targets).apply.run s.list = _ :=
    run_removeTargets_at targets hcap.ascending hcap.get?
  exact Store.leaves_of_apply hworks hrun

/-- Marks change the tasks at the positions of their targets. -/
theorem exists_apply_mark {l : TaskList} (hcap : l.Captured targets) (done : Bool) :
    ∃ l', (mark targets done).apply.run l = .ok () l' ∧
      l'.tasks = changedAt (targets.map (·.position)) (fun t => { t with done }) l.tasks := by
  -- marks go from the last target to the first, but the order is of no account
  have hnodup : (targets.reverse.map (·.position)).Nodup := by
    rw [List.map_reverse, List.nodup_reverse]
    exact nodup_positions hcap
  have hget : ∀ target ∈ targets.reverse, l.get? target.position = some target.task :=
    fun target htarget => hcap.get? target (List.mem_reverse.mp htarget)
  obtain ⟨l', hrun, htasks⟩ := run_swaps_at (·.position) (·.task)
    (fun target => { target.task with done }) (fun t => { t with done }) targets.reverse hnodup hget
    fun _ _ => rfl
  refine ⟨l', hrun, htasks.trans ?_⟩
  unfold changedAt
  simp only [List.map_reverse, List.mem_reverse]

theorem leaves_mark (hworks : s.repository.Works) (hcap : s.list.Captured targets) (done : Bool) :
    s.Leaves (mark targets done)
      (changedAt (targets.map (·.position)) (fun t => { t with done }) s.list.tasks) := by
  obtain ⟨l, hrun, htasks⟩ := exists_apply_mark hcap done
  rw [← htasks]
  exact Store.leaves_of_apply hworks hrun

/-- The tasks that an edit is made of. -/
def targetsOf (revisions : List Revision) : List Target :=
  revisions.map fun r => ⟨r.position, r.before⟩

theorem targetsOf_of_edits {body : Body} {period : Option Period}
    (h : Action.edits body period targets = .ok revisions) :
    targetsOf revisions = targets ∧
      ∀ r ∈ revisions, Action.edited r.before body period = .ok r.after := by
  have hall := Action.edits_spec h
  clear h
  induction hall with
  | nil => exact ⟨rfl, List.forall_mem_nil _⟩
  | @cons target r targets revisions hr _ ih =>
    obtain ⟨hposition, hbefore, hafter⟩ := hr
    refine ⟨?_, List.forall_mem_cons.mpr ⟨?_, ih.2⟩⟩
    · have hhead : (⟨r.position, r.before⟩ : Target) = target := by
        rw [hposition, hbefore]
      exact congrArg₂ List.cons hhead ih.1
    · rw [hbefore]
      exact hafter

/-- Edits change the tasks at the positions of their targets. -/
theorem exists_apply_edit {l : TaskList} {body : Body} {period : Option Period}
    (hcap : l.Captured (targetsOf revisions))
    (hafter : ∀ r ∈ revisions, Action.edited r.before body period = .ok r.after) :
    ∃ l', (edit revisions).apply.run l = .ok () l' ∧
      l'.tasks = changedAt (revisions.map (·.position)) (Action.editedOrSame body period)
        l.tasks := by
  have hnodup : (revisions.map (·.position)).Nodup := by
    have := nodup_positions hcap
    rwa [targetsOf, List.map_map] at this
  have hget : ∀ r ∈ revisions, l.get? r.position = some r.before :=
    fun r hr => hcap.get? ⟨r.position, r.before⟩ (List.mem_map_of_mem hr)
  exact run_swaps_at Revision.position Revision.before Revision.after
    (Action.editedOrSame body period) revisions hnodup hget
    fun r hr => (Action.editedOrSame_of_edited (hafter r hr)).symm

theorem leaves_edit {body : Body} {period : Option Period} (hworks : s.repository.Works)
    (hcap : s.list.Captured (targetsOf revisions))
    (hafter : ∀ r ∈ revisions, Action.edited r.before body period = .ok r.after) :
    s.Leaves (edit revisions) (changedAt (revisions.map (·.position))
      (Action.editedOrSame body period) s.list.tasks) := by
  obtain ⟨l, hrun, htasks⟩ := exists_apply_edit hcap hafter
  rw [← htasks]
  exact Store.leaves_of_apply hworks hrun

/-! ### Lines -/

/-- A command does to a list what a line says of the tasks that it names. The targets stand at
ascending positions, one less than the ids in the line, and hold the tasks that are there; these and
no others are removed, marked, or edited as the body of the line says. -/
def DoesAsNamed (s : Store) (line : Line) (now : DateTime) : Command → Prop
  | remove targets =>
    line.verb? = some .remove ∧ s.list.Named line.argument targets ∧
      (∀ target ∈ targets, target.position < s.total) ∧
      s.Leaves (remove targets) (removedAt (targets.map (·.position)) s.tasks)
  | mark targets done =>
    line.verb? = some (if done then .done else .undone) ∧ s.list.Named line.argument targets ∧
      (∀ target ∈ targets, target.position < s.total) ∧
      s.Leaves (mark targets done)
        (changedAt (targets.map (·.position)) (fun t => { t with done := done }) s.tasks)
  | edit revisions =>
    ∃ ids body period, line.verb? = some .edit ∧
      Action.idListStart? line.argument.toList = some ids ∧
      Body.ofText (String.ofList (Text.trim (line.argument.toList.drop ids.length))) = .ok body ∧
      Period.ofSegments body.times now = .read period ∧
      s.list.Named (String.ofList ids) (targetsOf revisions) ∧
      (∀ r ∈ revisions, r.position < s.total ∧
        Action.edited r.before body period = .ok r.after) ∧
      s.Leaves (edit revisions) (changedAt (revisions.map (·.position))
        (Action.editedOrSame body period) s.tasks)
  | add _ => True
  | clear _ => True

/-- **A command acts on exactly the tasks that the line names.** Where the line asks for a removal,
a mark or an edit, the targets are the tasks at the named positions of the list. On a repository
that works the command succeeds, and it leaves the list without the tasks at these positions, or
with just these marked or edited, in the order in which it is saved. -/
theorem named_tasks_change (hworks : s.repository.Works) {implicitAdd : Bool} {text : String}
    {now : DateTime} {c : Command}
    (hread : Action.ofText implicitAdd s.list text now = .read (.execute c)) :
    DoesAsNamed s (Line.ofText text) now c := by
  rcases Action.command_cases hread with
    ⟨_, h⟩ | ⟨hverb, h⟩ | ⟨hverb, h⟩ | ⟨done, hverb, h⟩ | rfl
  · obtain ⟨_, _, _, -, -, -, rfl⟩ := Action.add_spec h
    exact trivial
  · obtain ⟨ids, body, period, targets, revisions, hids, hnamed, hbody, hperiod, hedits, rfl⟩ :=
      Action.edit_spec h
    obtain ⟨htargets, hafter⟩ := targetsOf_of_edits hedits
    rw [← htargets] at hnamed
    refine ⟨ids, body, period, hverb, hids, hbody, hperiod, hnamed, fun r hr => ⟨?_, hafter r hr⟩,
      leaves_edit hworks hnamed.toCaptured hafter⟩
    exact hnamed.lt_size ⟨r.position, r.before⟩ (List.mem_map_of_mem hr)
  · obtain ⟨targets, hnamed, rfl⟩ := Action.remove_spec h
    exact ⟨hverb, hnamed, hnamed.lt_size, leaves_remove hworks hnamed.toCaptured⟩
  · obtain ⟨targets, hnamed, rfl⟩ := Action.mark_spec h
    exact ⟨hverb, hnamed, hnamed.lt_size, leaves_mark hworks hnamed.toCaptured done⟩
  · exact trivial

/-- Two equal tasks with another one between them. One line marks both of them. Another one edits
the first of them into the task beside it, which it names too, and leaves the equal task alone that
it does not name. -/
theorem equal_tasks_named :
    let milk : Task := { description := "milk" }
    let bread : Task := { description := "bread" }
    let s : Store := { list := { tasks := [milk, bread, milk] }, repository := .memory [] false }
    let now : DateTime := ⟨⟨20000, by decide, by decide⟩, .midnight⟩
    Action.ofText false s.list "done 1 3" now
      = .read (.execute (.mark [⟨0, milk⟩, ⟨2, milk⟩] true)) ∧
    s.Leaves (.mark [⟨0, milk⟩, ⟨2, milk⟩] true)
      [{ milk with done := true }, bread, { milk with done := true }] ∧
    Action.ofText false s.list "edit 1-2 bread" now
      = .read (.execute (.edit [⟨0, milk, bread⟩, ⟨1, bread, bread⟩])) ∧
    s.Leaves (.edit [⟨0, milk, bread⟩, ⟨1, bread, bread⟩]) [bread, bread, milk] := by
  intro milk bread s now
  have hworks : s.repository.Works := Repository.works_memory []
  have hmark : Action.ofText false s.list "done 1 3" now
      = .read (.execute (.mark [⟨0, milk⟩, ⟨2, milk⟩] true)) := by decide +kernel
  have hedit : Action.ofText false s.list "edit 1-2 bread" now
      = .read (.execute (.edit [⟨0, milk, bread⟩, ⟨1, bread, bread⟩])) := by decide +kernel
  obtain ⟨-, -, -, hmarked⟩ := named_tasks_change (s := s) hworks hmark
  obtain ⟨ids, body, period, -, -, -, -, -, hafter, hedited⟩ :=
    named_tasks_change (s := s) hworks hedit
  -- the body of the line is known by what it makes of the two tasks
  have hmilk := Action.editedOrSame_of_edited (hafter _ (List.mem_cons_self ..)).2
  have hbread := Action.editedOrSame_of_edited
    (hafter _ (List.mem_cons_of_mem _ (List.mem_cons_self ..))).2
  have htasks : changedAt [0, 1] (Action.editedOrSame body period) s.tasks
      = [bread, bread, milk] := by
    show [Action.editedOrSame body period milk, Action.editedOrSame body period bread, milk] = _
    rw [hmilk, hbread]
  exact ⟨hmark, hmarked, hedit, htasks ▸ hedited⟩

end Command

end Agenda

import Agenda.History
import Agenda.Proofs.Command.Position
import Agenda.Proofs.Store.Ties
import Agenda.Proofs.Store.Transaction

/-!
# Additions, removals and clearing are taken back exactly

The way back of a command ends with another sort, and it looks for tasks by their values. From a
list in the saved order an addition, a removal or clearing leads back to this very list all the
same, ties and equal tasks included (`exact_way_back`):

* a new task comes last among its ties, so it is the last one that equals it, and taking that one
  out leaves the ties as they were (`ties_of_last`);
* removals go from the last position to the first and come back in the opposite order, each to the
  position that is the right one at that time (`run_insertions`);
* clearing keeps the whole list.
-/

namespace Agenda

open scoped List

variable {t : Task} {front back tasks : List Task} {key : SaveKey}

/-- **A task that is the last of its ties is taken out of their end**, when no equal of it stands
behind the one that is taken out. -/
theorem ties_of_last (hback : t ∉ back)
    (h : ties key (front ++ t :: back) = ties key tasks ++ ties key [t]) :
    ties key (front ++ back) = ties key tasks := by
  rw [ties_append] at h ⊢
  by_cases hkey : t.saveKey = key
  · rw [ties_cons_of_eq hkey, ties_cons_of_eq hkey, ties_nil] at h
    -- the last tie is the task itself, so no tie can stand behind it
    have hnone : ties key back = [] := by
      rcases List.eq_nil_or_concat' (ties key back) with hnil | ⟨init, last, hlast⟩
      · exact hnil
      · have hsame : last = t := by
          rw [hlast, ← List.cons_append, ← List.append_assoc] at h
          exact List.singleton_inj.mp (List.append_inj' h rfl).2
        have hmem : last ∈ ties key back := by
          rw [hlast]
          exact List.mem_append_right _ (List.mem_singleton_self _)
        exact absurd (mem_ties.mp (hsame ▸ hmem)).1 hback
    rw [hnone] at h ⊢
    rw [List.append_nil]
    exact List.append_cancel_right h
  · rwa [ties_cons_of_ne hkey, ties_cons_of_ne hkey, ties_nil, List.append_nil] at h

/-! ### There and back -/

namespace Store

/-- A command can be carried out and taken back wherever saving works, and once this is done the
list is as described. -/
structure ThereAndBack (s : Store) (c : Command) (described : TaskList → Prop) : Prop where
  there : s.repository.Works → ∃ s', c.run.run s = .ok () s'
  back : ∀ s', c.run.run s = .ok () s' → s'.repository.Works → ∃ s'', c.undo.run s' = .ok () s''
  list : ∀ s' s'', c.run.run s = .ok () s' → c.undo.run s' = .ok () s'' → described s''.list

variable {s : Store} {c : Command} {l l' : TaskList} {described : TaskList → Prop}

/-- What both drafts do is what the command and its undo do. -/
theorem thereAndBack_of_drafts (happly : c.apply.run s.list = .ok () l)
    (hrevert : c.revert.run l.sorted = .ok () l') (hdescribed : described l'.sorted) :
    s.ThereAndBack c described := by
  have hlist : ∀ {s'}, c.run.run s = .ok () s' → s'.list = l.sorted := by
    intro s' hrun
    obtain ⟨l₁, hdraft, -, hlist, -⟩ := exists_of_transaction_ok hrun
    rw [happly] at hdraft
    cases hdraft
    exact hlist
  refine ⟨fun hworks => ?_, fun s' hrun hworks => ?_, fun s' s'' hrun hundo => ?_⟩
  · obtain ⟨repository, hsave⟩ := hworks l.sorted.tasks
    exact ⟨_, transaction_ok happly hsave⟩
  · obtain ⟨repository, hsave⟩ := hworks l'.sorted.tasks
    rw [← hlist hrun] at hrevert
    exact ⟨_, transaction_ok hrevert hsave⟩
  · obtain ⟨l₁, hdraft, -, hlist', -⟩ := exists_of_transaction_ok hundo
    rw [hlist hrun, hrevert] at hdraft
    cases hdraft
    rw [hlist']
    exact hdescribed

end Store

namespace TaskList

theorem sorted_of_inSaveOrder {l : TaskList} (h : InSaveOrder l.tasks) : l.sorted = l :=
  congrArg (TaskList.mk · l.added) (saveOrder_eq_self_iff.mpr h)

end TaskList

namespace Command

variable {l : TaskList} {targets : List Target}

/-! ### Additions -/

/-- **Taking a new task back takes it out of where sorting has put it.** -/
theorem revert_add (h : InSaveOrder l.tasks) (t : Task) :
    ∃ l', (add t).revert.run (l.push t).sorted = .ok () l' ∧ l'.sorted = l := by
  have hmem : t ∈ (l.push t).sorted.tasks := by
    have hbag : t ∈ (l.push t).sorted.bag := by
      rw [TaskList.bag_sorted, TaskList.bag_push]
      exact Multiset.mem_cons_self ..
    exact hbag
  obtain ⟨position, hlast⟩ : ∃ position, lastIndexOf? t (l.push t).sorted.tasks = some position :=
    Option.ne_none_iff_exists'.mp fun hnone => lastIndexOf?_eq_none_iff.mp hnone hmem
  have hposition : (l.push t).sorted.positionOf t = .ok position := by
    unfold TaskList.positionOf
    rw [Option.filter_none]
    dsimp only
    rw [hlast]
  have hback := TaskList.takeBack_of_get? (l := (l.push t).sorted) (getElem?_of_lastIndexOf? hlast)
  obtain ⟨front, back, htasks, hnot, rfl⟩ := exists_of_lastIndexOf? hlast
  have herase : (l.push t).sorted.tasks.eraseIdx front.length = front ++ back := by
    rw [htasks, List.eraseIdx_append_of_length_le le_rfl, Nat.sub_self, List.eraseIdx_cons_zero]
  have hrun : (add t).revert.run (l.push t).sorted = .ok ()
      { tasks := (l.push t).sorted.tasks.eraseIdx front.length
        added := (l.push t).sorted.added.erase t } := by
    rw [revert, EStateM.run_bind, Draft.run_ask_ok hposition]
    simp only [EStateM.run_bind, Draft.run_step_ok (f := (·.takeBack front.length)) hback,
      EStateM.run_pure]
  have hadded : (l.push t).sorted.added.erase t = l.added := List.erase_cons_head ..
  have hsame : saveOrder (front ++ back) = l.tasks := by
    refine saveOrder_eq_iff.mpr ⟨h, fun key => (ties_of_last hnot ?_).symm⟩
    rw [← htasks]
    show ties key (saveOrder (l.tasks ++ [t])) = _
    rw [ties_saveOrder, ties_append]
  rw [herase, hadded] at hrun
  exact ⟨_, hrun, congrArg (TaskList.mk · l.added) hsame⟩

/-! ### Removals -/

theorem inSaveOrder_removedAt {tasks : List Task} (h : InSaveOrder tasks) (positions : List ℕ) :
    InSaveOrder (removedAt positions tasks) := by
  have hsub : removedAt positions tasks <+ tasks := by
    have := (List.filter_sublist (l := tasks.zipIdx) (p := fun entry => entry.2 ∉ positions)).map
      (·.1)
    rwa [List.zipIdx_map_fst] at this
  exact h.sublist hsub

/-- **Insertions from the first position to the last give back what was removed.** -/
theorem run_insertions (ascending : targets.Pairwise (·.position < ·.position))
    (hget : ∀ target ∈ targets, tasks[target.position]? = some target.task) (added : List Task) :
    (targets.forM fun target => (modify (·.insert target.position target.task) : Draft Unit)).run
        { tasks := removedAt (targets.map (·.position)) tasks, added }
      = .ok () { tasks, added } := by
  induction targets with
  | nil =>
    rw [List.map_nil, removedAt_nil]
    rfl
  | cons t rest ih =>
    obtain ⟨hlt, hrest⟩ := List.pairwise_cons.mp ascending
    obtain ⟨hgett, hgetrest⟩ := List.forall_mem_cons.mp hget
    have hbehind : ∀ q ∈ rest.map (·.position), t.position < q := by
      intro q hq
      obtain ⟨target, htarget, rfl⟩ := List.mem_map.mp hq
      exact hlt target htarget
    -- what lies before the position was not removed, so the task comes back to its place
    have hgot := getElem?_removedAt_of_lt hgett hbehind
    have herased := eraseIdx_removedAt hgett hbehind
    have hinsert : ({ tasks := removedAt ((t :: rest).map (·.position)) tasks, added } :
        TaskList).insert t.position t.task
        = { tasks := removedAt (rest.map (·.position)) tasks, added } := by
      obtain ⟨hlt, htask⟩ := List.getElem?_eq_some_iff.mp hgot
      have hmin : min t.position (removedAt ((t :: rest).map (·.position)) tasks).length
          = t.position := by
        rw [List.map_cons, ← herased, List.length_eraseIdx_of_lt hlt]
        omega
      unfold TaskList.insert TaskList.size
      rw [hmin, List.map_cons, ← herased, ← htask, List.insertIdx_eraseIdx_getElem hlt]
    rw [List.forM_eq_forM, List.forM_cons, EStateM.run_bind, ← List.forM_eq_forM,
      EStateM.run_modify]
    dsimp only
    rw [hinsert]
    exact ih hrest hgetrest

/-! ### The way back -/

/-- The commands that put nothing in the place of a task: an addition, a removal of tasks that were
captured from a list, and clearing this list. -/
inductive OnlyAddsOrRemoves (l : TaskList) : Command → Prop
  | add (t : Task) : OnlyAddsOrRemoves l (add t)
  | remove {targets : List Target} (captured : l.Captured targets) :
    OnlyAddsOrRemoves l (remove targets)
  | clear : OnlyAddsOrRemoves l (clear l.tasks)

/-- The drafts of such a command and of its way back lead from a list in order to the same list. -/
theorem OnlyAddsOrRemoves.drafts {c : Command} (h : InSaveOrder l.tasks)
    (hc : OnlyAddsOrRemoves l c) : ∃ l' l'', c.apply.run l = .ok () l' ∧
      c.revert.run l'.sorted = .ok () l'' ∧ l''.sorted = l := by
  cases hc with
  | add t =>
    obtain ⟨l'', hrevert, hsame⟩ := revert_add h t
    exact ⟨_, l'', rfl, hrevert, hsame⟩
  | @remove targets captured =>
    have happly := run_removeTargets_at targets captured.ascending captured.get?
    have hsorted := TaskList.sorted_of_inSaveOrder
      (l := { l with tasks := removedAt (targets.map (·.position)) l.tasks })
      (inSaveOrder_removedAt h _)
    refine ⟨_, l, happly, ?_, TaskList.sorted_of_inSaveOrder h⟩
    rw [hsorted]
    exact run_insertions captured.ascending captured.get? l.added
  | clear =>
    exact ⟨_, _, rfl, rfl, TaskList.sorted_of_inSaveOrder h⟩

/-- **An addition, a removal or clearing is taken back exactly.** From a list in the saved order,
with ties and equal tasks in it or not, both ways succeed wherever saving works. They give back the
same tasks at the same positions, and the newest one is at its old position again. -/
theorem exact_way_back {s : Store} {c : Command} (h : InSaveOrder s.list.tasks)
    (hc : OnlyAddsOrRemoves s.list c) : s.ThereAndBack c fun l =>
      l.tasks = s.list.tasks ∧ l.newest? = s.list.newest? := by
  obtain ⟨l', l'', happly, hrevert, hsame⟩ := hc.drafts h
  refine Store.thereAndBack_of_drafts happly hrevert ?_
  rw [hsame]
  exact ⟨rfl, rfl⟩

/-- Of three tasks that tie, two of them equal, the first and the last one are removed and come
back. -/
theorem milk_back_between_its_ties :
    let milk : Task := { description := "milk" }
    let oatMilk : Task := { description := "Milk", tags := ⟨["oat"], by decide, by decide⟩ }
    let s : Store :=
      { list := { tasks := [oatMilk, milk, oatMilk], added := [milk] }
        repository := .memory [] false }
    let c := remove [⟨0, oatMilk⟩, ⟨2, oatMilk⟩]
    InSaveOrder s.list.tasks ∧ OnlyAddsOrRemoves s.list c ∧
      ∃ s' s'', c.run.run s = .ok () s' ∧ s'.list.tasks = [milk] ∧ c.undo.run s' = .ok () s'' ∧
        s''.list.tasks = [oatMilk, milk, oatMilk] ∧ s''.list.newest? = some 1 := by
  intro milk oatMilk s c
  have hsorted : InSaveOrder s.list.tasks := saveOrder_eq_self_iff.mp
    (saveOrder_of_pairwise (by decide +kernel) (by decide +kernel) (by decide +kernel))
  have hcaptured : s.list.Captured [⟨0, oatMilk⟩, ⟨2, oatMilk⟩] := ⟨by decide, by decide⟩
  have hc : OnlyAddsOrRemoves s.list c := .remove hcaptured
  have hway := exact_way_back hsorted hc
  obtain ⟨s', hrun⟩ := hway.there (Repository.works_memory [])
  have hworks : s'.repository.Works := by
    rw [Store.memory_of_transaction_ok rfl hrun]
    exact Repository.works_memory _
  obtain ⟨s'', hundo⟩ := hway.back s' hrun hworks
  obtain ⟨htasks, hnewest⟩ := hway.list s' s'' hrun hundo
  refine ⟨hsorted, hc, s', s'', hrun, ?_, hundo, htasks, hnewest⟩
  -- one task is in order by itself
  obtain ⟨l, hdraft, -, hlist, -⟩ := Store.exists_of_transaction_ok hrun
  have happly : c.apply.run s.list = .ok () { s.list with tasks := [milk] } :=
    run_removeTargets_at _ hcaptured.ascending hcaptured.get?
  rw [happly] at hdraft
  cases hdraft
  rw [hlist]
  exact saveOrder_eq_self_iff.mpr (List.pairwise_singleton ..)

end Command

end Agenda

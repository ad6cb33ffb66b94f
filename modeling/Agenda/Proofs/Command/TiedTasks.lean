import Agenda.Proofs.Command.Log
import Agenda.Proofs.Command.WayBack

/-!
# Where a revised task comes back to

An edit or a mark puts new values in the place of old ones, the list is sorted, and the way back
puts the old values in the place of the new ones, wherever these are then, and sorts again. A sort
does not move tasks that tie, so the way back leads to the old list exactly when the tasks that tie
have not changed their order while they had their new values (`tied_tasks_after_undo`):

* ties that the command does not touch keep their order (`Swapped.ties`);
* where no two tasks are or become equal, each task finds its old value again
  (`follow_back_follow_of_nodup`), so the ties come back in the order of the new values.
-/

namespace Agenda

open scoped List

/-! ### Swaps in a list -/

/-- Tasks are replaced one after the other, each by value. -/
inductive Swapped : List Swap → List Task → List Task → Prop
  | nil (tasks : List Task) : Swapped [] tasks tasks
  | cons {s : Swap} {rest : List Swap} {front back tasks : List Task}
    (h : Swapped rest (front ++ s.new :: back) tasks) :
    Swapped (s :: rest) (front ++ s.old :: back) tasks

section Swaps

variable {swaps : List Swap} {tasks others : List Task} {key : SaveKey} {t other : Task}

/-- Swaps leave the ties alone that none of the tasks swapped belongs to. -/
theorem Swapped.ties (h : Swapped swaps tasks others)
    (hkey : ∀ s ∈ swaps, s.old ≠ s.new → s.old.saveKey ≠ key ∧ s.new.saveKey ≠ key) :
    ties key others = ties key tasks := by
  induction h with
  | nil tasks => rfl
  | @cons s rest front back others _ ih =>
    obtain ⟨hs, hrest⟩ := List.forall_mem_cons.mp hkey
    rw [ih hrest, ties_append, ties_append]
    by_cases hsame : s.old = s.new
    · rw [hsame]
    · obtain ⟨hold, hnew⟩ := hs hsame
      rw [ties_cons_of_ne hold, ties_cons_of_ne hnew]

/-- **Where the tasks do not become equal, each of them follows the swaps by itself.** -/
theorem Swapped.eq_map (h : Swapped swaps tasks others)
    (hnodup : (tasks.map (follow swaps)).Nodup) : others = tasks.map (follow swaps) := by
  induction h with
  | nil tasks => exact (List.map_id _).symm
  | @cons s rest front back others _ ih =>
    -- no other task equals the one that is swapped first
    have honce := hnodup.of_map
    rw [List.nodup_middle, List.nodup_cons, List.mem_append] at honce
    have hother : ∀ entry ∈ front ++ back,
        follow (s :: rest) entry = follow rest entry := by
      intro entry hentry
      have hne : entry ≠ s.old := fun heq => honce.1 (List.mem_append.mp (heq ▸ hentry))
      rw [follow_cons, if_neg hne]
    have hfirst : follow (s :: rest) s.old = follow rest s.new := by
      rw [follow_cons, if_pos rfl]
    have hmap : (front ++ s.old :: back).map (follow (s :: rest))
        = (front ++ s.new :: back).map (follow rest) := by
      rw [List.map_append, List.map_append, List.map_cons, List.map_cons, hfirst,
        List.map_congr_left fun entry h => hother entry (List.mem_append_left _ h),
        List.map_congr_left fun entry h => hother entry (List.mem_append_right _ h)]
    rw [hmap] at hnodup ⊢
    exact ih hnodup

/-- A task that has overtaken another one has become equal to it. -/
theorem eq_of_overtaker? (h : Settles swaps) (holds : (swaps.map (·.old) : Multiset Task) ≤ tasks)
    (hnodup : (tasks.map (follow swaps)).Nodup) (ht : t ∈ tasks)
    (hother : overtaker? swaps t = some other) : other = t := by
  obtain ⟨s, hfind, rfl⟩ := Option.map_eq_some_iff.mp hother
  have hs : s ∈ swaps := List.mem_reverse.mp (List.mem_of_find?_eq_some hfind)
  have hnew : s.new = follow swaps t := by
    have hfound := List.find?_some hfind
    exact (of_decide_eq_true hfound).1
  have honce : (swaps.map (·.old)).Nodup :=
    Multiset.coe_nodup.mp (Multiset.nodup_of_le holds (Multiset.coe_nodup.mpr hnodup.of_map))
  have hmem : s.old ∈ tasks := Multiset.mem_of_le holds (List.mem_map_of_mem hs)
  have hagree : ∀ s' ∈ swaps, s'.old = s.old → s'.new = s.new := fun s' hs' heq =>
    congrArg Swap.new (List.inj_on_of_nodup_map honce hs' hs heq)
  apply List.inj_on_of_nodup_map hnodup hmem ht
  rw [follow_of_mem h hagree hs, hnew]

/-- **Where no two tasks are or become equal, each of them gets its old value back.** -/
theorem follow_back_follow_of_nodup (h : Settles swaps)
    (holds : (swaps.map (·.old) : Multiset Task) ≤ tasks)
    (hnodup : (tasks.map (follow swaps)).Nodup) (ht : t ∈ tasks) :
    follow (swaps.reverse.map Swap.back) (follow swaps t) = t := by
  rw [follow_back_follow h]
  cases hother : overtaker? swaps t with
  | none => rfl
  | some other => exact eq_of_overtaker? h holds hnodup ht hother

end Swaps

/-! ### Commands -/

namespace Command

variable {c : Command} {l l' : TaskList} {key : SaveKey}

/-- The commands that put new values in the place of tasks: edits and marks. -/
inductive Revises : Command → Prop
  | edit (revisions : List Revision) : Revises (edit revisions)
  | mark (targets : List Target) (done : Bool) : Revises (mark targets done)

/-- A command gives a task with this key another value, or gives a task another value with this
key. -/
def Touches (c : Command) (key : SaveKey) : Prop :=
  ∃ s ∈ c.swaps, s.old ≠ s.new ∧ (s.old.saveKey = key ∨ s.new.saveKey = key)

theorem exists_of_swap {old new : Task} {hint : Option ℕ}
    (h : (swap old new hint).run l = .ok () l') :
    ∃ front back, l.tasks = front ++ old :: back ∧ l'.tasks = front ++ new :: back := by
  simp only [swap, Draft.run_bind_eq_ok_iff, Draft.run_ask_eq_ok_iff, Draft.run_step_eq_ok_iff,
    EStateM.run_pure] at h
  obtain ⟨position, l₁, ⟨hposition, rfl⟩, found, l₂, hreplace, h⟩ := h
  have hget : l₁.tasks[position]? = some old := TaskList.get?_of_positionOf hposition
  rw [TaskList.replace_of_get? hget] at hreplace
  cases hreplace
  cases h
  obtain ⟨hlt, hold⟩ := List.getElem?_eq_some_iff.mp hget
  obtain ⟨front, back, htasks, -, hset⟩ :
      ∃ front back, l₁.tasks = front ++ l₁.tasks[position] :: back ∧ front.length = position ∧
        l₁.tasks.set position new = front ++ new :: back := List.exists_of_set hlt
  rw [hold] at htasks
  exact ⟨front, back, htasks, hset⟩

theorem swapped_of_forM {τ : Type} (old new : τ → Task) (hint : τ → Option ℕ) {targets : List τ}
    (h : (targets.forM fun t => swap (old t) (new t) (hint t)).run l = .ok () l') :
    Swapped (targets.map fun t => ⟨old t, new t⟩) l.tasks l'.tasks := by
  induction targets generalizing l with
  | nil =>
    cases h
    exact Swapped.nil _
  | cons t rest ih =>
    rw [List.forM_eq_forM, List.forM_cons, Draft.run_bind_eq_ok_iff] at h
    obtain ⟨_, l₁, hfirst, hrest⟩ := h
    obtain ⟨front, back, htasks, htasks₁⟩ := exists_of_swap hfirst
    have hswapped := ih hrest
    rw [htasks₁] at hswapped
    rw [htasks]
    exact Swapped.cons (s := ⟨old t, new t⟩) hswapped

/-- **An edit or a mark makes its swaps, and its way back makes them backwards.** -/
theorem Revises.swapped (hc : c.Revises) :
    (∀ l l', c.apply.run l = .ok () l' → Swapped c.swaps l.tasks l'.tasks) ∧
      ∀ l l', c.revert.run l = .ok () l' →
        Swapped (c.swaps.reverse.map Swap.back) l.tasks l'.tasks := by
  cases hc with
  | edit revisions =>
    refine ⟨fun l l' h => swapped_of_forM Revision.before Revision.after _ h, fun l l' h => ?_⟩
    have hswapped := swapped_of_forM Revision.after Revision.before (fun _ => none) h
    rw [swaps, ← List.map_reverse, List.map_map]
    exact hswapped
  | mark targets done =>
    refine ⟨fun l l' h => swapped_of_forM Target.task (fun t => { t.task with done }) _ h,
      fun l l' h => ?_⟩
    have hswapped :=
      swapped_of_forM (fun t : Target => { t.task with done }) Target.task (fun _ => none) h
    rw [swaps, ← List.map_reverse, List.reverse_reverse, List.map_map]
    exact hswapped

/-- The tasks on the way back: those that are swapped, sorted, swapped backwards and sorted. -/
structure Returned (c : Command) (tasks back : List Task) : Prop where
  ordered : InSaveOrder back
  perm : back ~ tasks
  swapped : ∃ there turned, Swapped c.swaps tasks there ∧
    Swapped (c.swaps.reverse.map Swap.back) (saveOrder there) turned ∧ back = saveOrder turned

section Returned

variable {tasks back : List Task}

/-- Ties that a command does not touch are the same after the way back. -/
theorem Returned.ties_of_untouched (h : c.Returned tasks back) (hkey : ¬ c.Touches key) :
    ties key back = ties key tasks := by
  obtain ⟨there, turned, hthere, hturned, rfl⟩ := h.swapped
  have hswaps : ∀ s ∈ c.swaps, s.old ≠ s.new → s.old.saveKey ≠ key ∧ s.new.saveKey ≠ key :=
    fun s hs hne => not_or.mp fun hor => hkey ⟨s, hs, hne, hor⟩
  have hbacks : ∀ s ∈ c.swaps.reverse.map Swap.back,
      s.old ≠ s.new → s.old.saveKey ≠ key ∧ s.new.saveKey ≠ key := by
    intro s hs hne
    obtain ⟨forth, hforth, rfl⟩ := List.mem_map.mp hs
    exact (hswaps forth (List.mem_reverse.mp hforth) (Ne.symm hne)).symm
  rw [ties_saveOrder, hturned.ties hbacks, ties_saveOrder, hthere.ties hswaps]

/-- **Where only equal tasks tie among those that a command touches, nothing is moved.** -/
theorem Returned.eq_of_equal_ties (h : c.Returned tasks back) (ordered : InSaveOrder tasks)
    (hequal : ∀ t ∈ tasks, ∀ u ∈ tasks, t.saveKey = u.saveKey → c.Touches t.saveKey → t = u) :
    back = tasks := by
  refine h.ordered.eq_of_ties ordered fun key => ?_
  by_cases hkey : c.Touches key
  · have hperm : ties key back ~ ties key tasks := h.perm.filter _
    have hsame : ∀ t ∈ ties key tasks, ∀ u ∈ ties key tasks, t = u := by
      intro t ht u hu
      obtain ⟨ht, htkey⟩ := mem_ties.mp ht
      obtain ⟨hu, hukey⟩ := mem_ties.mp hu
      exact hequal t ht u hu (htkey.trans hukey.symm) (htkey ▸ hkey)
    -- equal tasks have one order only
    refine hperm.eq_of_pairwise (fun _ _ _ _ heq _ => heq) ?_
      (List.pairwise_of_forall_mem_list hsame)
    exact List.pairwise_of_forall_mem_list fun t ht u hu =>
      hsame t (hperm.subset ht) u (hperm.subset hu)
  · exact h.ties_of_untouched hkey

/-- **Where no two tasks are or become equal, the ties come back in the order of their new
values.** -/
theorem Returned.eq_saveOrder (h : c.Returned tasks back) (hsettles : Settles c.swaps)
    (holds : (c.swaps.map (·.old) : Multiset Task) ≤ tasks)
    (hnodup : (tasks.map (follow c.swaps)).Nodup) :
    back = saveOrder (sortedBy (fun t => (follow c.swaps t).saveKey) tasks) := by
  obtain ⟨there, turned, hthere, hturned, rfl⟩ := h.swapped
  rw [hthere.eq_map hnodup, saveOrder_map] at hturned
  have hperm := sortedBy_perm (fun t => (follow c.swaps t).saveKey) tasks
  have hback : ((sortedBy (fun t => (follow c.swaps t).saveKey) tasks).map (follow c.swaps)).map
      (follow (c.swaps.reverse.map Swap.back))
      = sortedBy (fun t => (follow c.swaps t).saveKey) tasks := by
    rw [List.map_map]
    refine (List.map_congr_left fun t ht => ?_).trans (List.map_id _)
    exact follow_back_follow_of_nodup hsettles holds hnodup (hperm.subset ht)
  have honce : (sortedBy (fun t => (follow c.swaps t).saveKey) tasks).Nodup :=
    hperm.nodup_iff.mpr hnodup.of_map
  rw [hturned.eq_map (by rwa [hback]), hback]

theorem Returned.eq_iff (h : c.Returned tasks back) (ordered : InSaveOrder tasks)
    (hsettles : Settles c.swaps) (holds : (c.swaps.map (·.old) : Multiset Task) ≤ tasks)
    (hnodup : (tasks.map (follow c.swaps)).Nodup) :
    back = tasks ↔ tasks.Pairwise fun t u => t.saveKey = u.saveKey →
      (follow c.swaps t).saveKey ≤ (follow c.swaps u).saveKey := by
  rw [h.eq_saveOrder hsettles holds hnodup, saveOrder_eq_iff, and_iff_right ordered,
    ← ties_sortedBy_iff]
  simp only [eq_comm]

end Returned

/-! ### Lines -/

variable {s : Store} {implicitAdd : Bool} {text : String} {now : DateTime}

/-- An edit or a mark that a line asks for can be carried out and taken back. -/
theorem thereAndBack_of_ofText (hc : c.Revises)
    (hread : Action.ofText implicitAdd s.list text now = .read (.execute c)) :
    s.ThereAndBack c fun l => c.Returned s.list.tasks l.tasks := by
  have fits := Action.fits_of_ofText hread
  obtain ⟨l, happly, hbag⟩ := run_apply fits
  rw [← TaskList.bag_sorted] at hbag
  obtain ⟨l', hrevert, hbag'⟩ := run_revert fits hbag
  refine Store.thereAndBack_of_drafts happly hrevert ⟨inSaveOrder_saveOrder _, ?_, ?_⟩
  · exact (saveOrder_perm _).trans (Multiset.coe_eq_coe.mp hbag')
  · exact ⟨_, _, hc.swapped.1 _ _ happly, hc.swapped.2 _ _ hrevert, rfl⟩

/-- **What undo makes of the order after an edit, done or undone.** From a list in the saved order,
a line that asks for one of these can be carried out and taken back wherever saving works. This
leaves the same tasks, with the same key at each position. Where only equal tasks tie among those
that the command touches, the list is the old one. Where no two tasks are or become equal, it is the
old one if and only if tasks that tie have not changed their order while they had their new
values. -/
theorem tied_tasks_after_undo (ordered : InSaveOrder s.list.tasks)
    (hread : Action.ofText implicitAdd s.list text now = .read (.execute c)) (hc : c.Revises) :
    s.ThereAndBack c fun l =>
      l.tasks ~ s.list.tasks ∧
      l.tasks.map Task.saveKey = s.list.tasks.map Task.saveKey ∧
      ((∀ t ∈ s.list.tasks, ∀ u ∈ s.list.tasks,
        t.saveKey = u.saveKey → c.Touches t.saveKey → t = u) → l.tasks = s.list.tasks) ∧
      ((s.list.tasks.map (follow c.swaps)).Nodup → (l.tasks = s.list.tasks ↔
        s.list.tasks.Pairwise fun t u => t.saveKey = u.saveKey →
          (follow c.swaps t).saveKey ≤ (follow c.swaps u).saveKey)) := by
  have hway := thereAndBack_of_ofText hc hread
  refine ⟨hway.there, hway.back, fun s' s'' hrun hundo => ?_⟩
  have hback := hway.list s' s'' hrun hundo
  refine ⟨hback.perm, hback.ordered.map_saveKey_eq ordered hback.perm,
    hback.eq_of_equal_ties ordered, ?_⟩
  exact hback.eq_iff ordered (settles_of_ofText hread) (olds_le (Action.fits_of_ofText hread))

/-- Of two tasks that tie, both are done, and the way back leaves them where they were. -/
theorem milk_done_and_back :
    let oat : Task := { description := "milk", tags := ⟨["oat"], by decide, by decide⟩ }
    let soy : Task := { description := "milk", tags := ⟨["soy"], by decide, by decide⟩ }
    let s : Store := { list := { tasks := [oat, soy] }, repository := .memory [] false }
    let now : DateTime := ⟨⟨20000, by decide, by decide⟩, .midnight⟩
    let c := mark [⟨0, oat⟩, ⟨1, soy⟩] true
    InSaveOrder s.list.tasks ∧
      Action.ofText false s.list "done 1-2" now = .read (.execute c) ∧ c.Revises ∧
      ∃ s' s'', c.run.run s = .ok () s' ∧ c.undo.run s' = .ok () s'' ∧
        s''.list.tasks = [oat, soy] := by
  intro oat soy s now c
  have ordered : InSaveOrder s.list.tasks := saveOrder_eq_self_iff.mp
    (saveOrder_of_pairwise (by decide +kernel) (by decide +kernel) (by decide +kernel))
  have hread : Action.ofText false s.list "done 1-2" now = .read (.execute c) := by
    decide +kernel
  have hc : c.Revises := Revises.mark ..
  have hway := tied_tasks_after_undo ordered hread hc
  obtain ⟨s', hrun⟩ := hway.there (Repository.works_memory [])
  have hworks : s'.repository.Works := by
    rw [Store.memory_of_transaction_ok rfl hrun]
    exact Repository.works_memory _
  obtain ⟨s'', hundo⟩ := hway.back s' hrun hworks
  obtain ⟨-, -, -, hexact⟩ := hway.list s' s'' hrun hundo
  refine ⟨ordered, hread, hc, s', s'', hrun, hundo, (hexact (by decide +kernel)).mpr ?_⟩
  -- both have the same new key
  decide +kernel

/-- Of two tasks that tie, the first one is done, and the way back puts it behind the other. -/
theorem milk_done_and_behind :
    let oat : Task := { description := "milk", tags := ⟨["oat"], by decide, by decide⟩ }
    let soy : Task := { description := "milk", tags := ⟨["soy"], by decide, by decide⟩ }
    let s : Store := { list := { tasks := [oat, soy] }, repository := .memory [] false }
    let now : DateTime := ⟨⟨20000, by decide, by decide⟩, .midnight⟩
    let c := mark [⟨0, oat⟩] true
    InSaveOrder s.list.tasks ∧
      Action.ofText false s.list "done 1" now = .read (.execute c) ∧
      ∃ s' s'', c.run.run s = .ok () s' ∧ c.undo.run s' = .ok () s'' ∧
        s''.list.tasks = [soy, oat] := by
  intro oat soy s now c
  have ordered : InSaveOrder s.list.tasks := saveOrder_eq_self_iff.mp
    (saveOrder_of_pairwise (by decide +kernel) (by decide +kernel) (by decide +kernel))
  have hread : Action.ofText false s.list "done 1" now = .read (.execute c) := by
    decide +kernel
  have hway := thereAndBack_of_ofText (Revises.mark ..) hread
  obtain ⟨s', hrun⟩ := hway.there (Repository.works_memory [])
  have hworks : s'.repository.Works := by
    rw [Store.memory_of_transaction_ok rfl hrun]
    exact Repository.works_memory _
  obtain ⟨s'', hundo⟩ := hway.back s' hrun hworks
  have hback := hway.list s' s'' hrun hundo
  refine ⟨ordered, hread, s', s'', hrun, hundo, ?_⟩
  rw [hback.eq_saveOrder (settles_of_ofText hread) (olds_le (Action.fits_of_ofText hread))
    (by decide +kernel), sortedBy_pair, if_neg (by decide +kernel)]
  exact saveOrder_of_pairwise (by decide +kernel) (by decide +kernel) (by decide +kernel)

end Command

end Agenda

import Agenda.Store.Basic
import Mathlib.Data.List.MinMax

/-!
# The next task

The store tells which task begins next: of the tasks that are not done and begin after `now`, it
finds the first one in the list with the smallest beginning. Going through the beginnings one by one
and keeping the earlier one is what `List.argmin` does (`Store.soonest?_eq_foldl`), so what is found
is the next task in this sense (`Store.IsNext`), and nothing is found only if there is none
(`Store.soonest?_eq_some_iff`, `Store.soonest?_eq_none_iff`).

As long as the list does not change, a task stays the next one until it begins
(`Store.soonest?_of_le`).
-/

namespace Agenda

/-- The first of the smallest elements of a list has larger ones before it, and none that is smaller
behind it. -/
theorem foldl_argAux_eq_some_iff {α β : Type} [DecidableEq α] [LinearOrder β] {f : α → β}
    {xs : List α} {x : α} : xs.foldl (List.argAux fun a b => f a < f b) none = some x ↔
      ∃ before after, xs = before ++ x :: after ∧
        (∀ y ∈ before, f x < f y) ∧ ∀ y ∈ after, f x ≤ f y := by
  show xs.argmin f = some x ↔ _
  rw [List.argmin_eq_some_iff]
  constructor
  · rintro ⟨hmem, hle, hfirst⟩
    obtain ⟨before, after, rfl, hnot⟩ := List.eq_append_cons_of_mem hmem
    refine ⟨before, after, rfl, fun y hy => ?_, fun y hy => hle y (by simp [hy])⟩
    -- an equal one before it would have been the first one
    refine (hle y (by simp [hy])).lt_of_not_ge fun hge => ?_
    have hindex := hfirst y (by simp [hy]) hge
    rw [List.idxOf_append_of_notMem hnot, List.idxOf_append_of_mem hy] at hindex
    have hlt := List.idxOf_lt_length_iff.mpr hy
    omega
  · rintro ⟨before, after, rfl, hbefore, hafter⟩
    have hnot : ∀ y, f y ≤ f x → y ∉ before := fun y hle hy => (hbefore y hy).not_ge hle
    refine ⟨by simp, fun y hy => ?_, fun y _ hle => ?_⟩
    · rcases List.mem_append.mp hy with hy | hy
      · exact (hbefore y hy).le
      · rcases List.mem_cons.mp hy with rfl | hy
        · exact le_rfl
        · exact hafter y hy
    · rw [List.idxOf_append_of_notMem (hnot x le_rfl), List.idxOf_append_of_notMem (hnot y hle),
        List.idxOf_cons_self]
      omega

/-- The task is not done, and it begins at a time after `now`. -/
structure Task.IsUpcoming (t : Task) (now starts : DateTime) : Prop where
  starts_eq : t.starts = some starts
  undone : t.done = false
  ahead : now < starts

namespace Store

variable {s s' : Store} {starts now later : DateTime} {t : Task} {tasks : List Task}

/-- The tasks not done yet that begin after `now`, and when they begin. -/
def upcoming (tasks : List Task) (now : DateTime) : List (DateTime × Task) :=
  tasks.filterMap fun t =>
    match t.starts with
    | some starts => if !t.done && now < starts then some (starts, t) else none
    | none => none

/-- A task in a list is the first one among the tasks that begin soonest after `now`. -/
def IsNext (tasks : List Task) (now starts : DateTime) (t : Task) : Prop :=
  t.IsUpcoming now starts ∧ ∃ before after, tasks = before ++ t :: after ∧
    (∀ t' ∈ before, ∀ starts', t'.IsUpcoming now starts' → starts < starts') ∧
    ∀ t' ∈ after, ∀ starts', t'.IsUpcoming now starts' → starts ≤ starts'

theorem upcoming_append (before after : List Task) :
    upcoming (before ++ after) now = upcoming before now ++ upcoming after now :=
  List.filterMap_append

theorem upcoming_cons (h : t.IsUpcoming now starts) (rest : List Task) :
    upcoming (t :: rest) now = (starts, t) :: upcoming rest now := by
  refine List.filterMap_cons_some ?_
  simp only [h.starts_eq, h.undone, Bool.not_false, Bool.true_and, decide_eq_true h.ahead, if_pos]

theorem mem_upcoming : (starts, t) ∈ upcoming tasks now ↔ t ∈ tasks ∧ t.IsUpcoming now starts := by
  constructor
  · intro hmem
    obtain ⟨t', ht', h⟩ := List.mem_filterMap.mp hmem
    split at h
    · rename_i starts' hstarts
      split at h
      · rename_i hcond
        cases h
        rw [Bool.and_eq_true, Bool.not_eq_true', decide_eq_true_eq] at hcond
        exact ⟨ht', hstarts, hcond.1, hcond.2⟩
      · cases h
    · cases h
  · rintro ⟨ht, hupcoming⟩
    obtain ⟨before, after, rfl⟩ := List.append_of_mem ht
    rw [upcoming_append, upcoming_cons hupcoming]
    simp

theorem forall_mem_upcoming {P : DateTime → Prop} : (∀ x ∈ upcoming tasks now, P x.1) ↔
    ∀ t ∈ tasks, ∀ starts, t.IsUpcoming now starts → P starts := by
  constructor
  · exact fun h t ht starts hupcoming => h (starts, t) (mem_upcoming.mpr ⟨ht, hupcoming⟩)
  · rintro h ⟨starts, t⟩ hmem
    obtain ⟨ht, hupcoming⟩ := mem_upcoming.mp hmem
    exact h t ht starts hupcoming

/-- The beginnings around that of a task are those of the tasks around it. -/
theorem upcoming_eq_append_cons_iff {first last : List (DateTime × Task)} :
    upcoming tasks now = first ++ (starts, t) :: last ↔ t.IsUpcoming now starts ∧
      ∃ before after, tasks = before ++ t :: after ∧
        upcoming before now = first ∧ upcoming after now = last := by
  constructor
  · intro h
    -- tasks that are not upcoming may be skipped before the task itself
    obtain ⟨left, right, rfl, rfl, hright⟩ := List.filterMap_eq_append_iff.mp h
    obtain ⟨skipped, t', after, rfl, hskipped, ht', rfl⟩ := List.filterMap_eq_cons_iff.mp hright
    have hmem : (starts, t) ∈ upcoming [t'] now := List.mem_filterMap.mpr ⟨t', by simp, ht'⟩
    obtain ⟨heq, hupcoming⟩ := mem_upcoming.mp hmem
    obtain rfl := List.mem_singleton.mp heq
    refine ⟨hupcoming, left ++ skipped, after, by simp, ?_, rfl⟩
    have hnone : upcoming skipped now = [] := List.filterMap_eq_nil_iff.mpr hskipped
    rw [upcoming_append, hnone, List.append_nil]
    rfl
  · rintro ⟨hupcoming, before, after, rfl, rfl, rfl⟩
    rw [upcoming_append, upcoming_cons hupcoming]

/-- Going through the beginnings, the store keeps the earlier one, as `List.argmin` does. -/
theorem soonest?_eq_foldl (s : Store) (now : DateTime) : s.soonest? now =
    (upcoming s.tasks now).foldl (List.argAux fun a b => a.1.instant < b.1.instant) none := by
  have hearlier : earlier = List.argAux fun a b : DateTime × Task => a.1.instant < b.1.instant := by
    funext best next
    cases best <;> rfl
  rw [← hearlier]
  rfl

theorem soonest?_congr (htasks : s'.tasks = s.tasks) : s'.soonest? now = s.soonest? now := by
  rw [soonest?_eq_foldl, soonest?_eq_foldl, htasks]

/-- **What is found is the next task.** -/
theorem soonest?_eq_some_iff : s.soonest? now = some (starts, t) ↔ IsNext s.tasks now starts t := by
  rw [soonest?_eq_foldl]
  refine (foldl_argAux_eq_some_iff (f := fun x : DateTime × Task => x.1.instant)).trans ?_
  constructor
  · rintro ⟨first, last, hsplit, hfirst, hlast⟩
    obtain ⟨hupcoming, before, after, htasks, rfl, rfl⟩ := upcoming_eq_append_cons_iff.mp hsplit
    refine ⟨hupcoming, before, after, htasks, ?_, ?_⟩
    · exact (forall_mem_upcoming (P := (starts < ·))).mp hfirst
    · exact (forall_mem_upcoming (P := (starts ≤ ·))).mp hlast
  · rintro ⟨hupcoming, before, after, htasks, hfirst, hlast⟩
    have hsplit := upcoming_eq_append_cons_iff.mpr ⟨hupcoming, before, after, htasks, rfl, rfl⟩
    refine ⟨_, _, hsplit, ?_, ?_⟩
    · exact (forall_mem_upcoming (P := (starts < ·))).mpr hfirst
    · exact (forall_mem_upcoming (P := (starts ≤ ·))).mpr hlast

/-- **Nothing is found only if no task is upcoming.** -/
theorem soonest?_eq_none_iff :
    s.soonest? now = none ↔ ∀ t ∈ s.tasks, ∀ starts, ¬t.IsUpcoming now starts := by
  rw [soonest?_eq_foldl, List.foldl_argAux_eq_none, and_iff_left rfl,
    List.eq_nil_iff_forall_not_mem]
  exact forall_mem_upcoming (P := fun _ => False)

theorem soonest_eq_ok_iff : s.soonest now = .ok t ↔ ∃ starts, IsNext s.tasks now starts t := by
  simp only [← soonest?_eq_some_iff]
  unfold soonest
  cases s.soonest? now with
  | none => simp
  | some next => simp [Prod.ext_iff]

theorem soonest_eq_error_iff {error : StoreError} : s.soonest now = .error error ↔
    error = .noTask ∧ ∀ t ∈ s.tasks, ∀ starts, ¬t.IsUpcoming now starts := by
  rw [← soonest?_eq_none_iff]
  unfold soonest
  cases s.soonest? now with
  | none => simp [eq_comm]
  | some next => simp

/-- The next task begins no later than any other one. -/
theorem IsNext.le_of_mem (h : IsNext tasks now starts t) {t' : Task} {starts' : DateTime}
    (ht' : t' ∈ tasks) (hupcoming : t'.IsUpcoming now starts') : starts ≤ starts' := by
  obtain ⟨hnext, before, after, rfl, hbefore, hafter⟩ := h
  rcases List.mem_append.mp ht' with ht' | ht'
  · exact Int.le_of_lt (hbefore t' ht' starts' hupcoming)
  · rcases List.mem_cons.mp ht' with rfl | ht'
    · rw [Option.some.inj (hnext.starts_eq.symm.trans hupcoming.starts_eq)]
      exact Int.le_refl _
    · exact hafter t' ht' starts' hupcoming

theorem IsNext.mem (h : IsNext tasks now starts t) : t ∈ tasks := by
  obtain ⟨-, before, after, rfl, -⟩ := h
  simp

theorem starts_of_soonest? (h : s.soonest? now = some (starts, t)) :
    t.starts = some starts ∧ now < starts := by
  obtain ⟨⟨hstarts, -, hahead⟩, -⟩ := soonest?_eq_some_iff.mp h
  exact ⟨hstarts, hahead⟩

/-- **A task stays the next one until it begins**, as long as the list does not change. -/
theorem soonest?_of_le (h : s.soonest? now = some (starts, t)) (htasks : s'.tasks = s.tasks)
    (hle : now ≤ later) (hlt : later < starts) : s'.soonest? later = some (starts, t) := by
  -- what is upcoming later is upcoming now, and the task has not begun
  have hearlier : ∀ t' starts', Task.IsUpcoming t' later starts' → t'.IsUpcoming now starts' :=
    fun _ _ ⟨hstarts, hundone, hahead⟩ => ⟨hstarts, hundone, Int.lt_of_le_of_lt hle hahead⟩
  obtain ⟨⟨hstarts, hundone, -⟩, before, after, hsplit, hbefore, hafter⟩ :=
    soonest?_eq_some_iff.mp h
  rw [soonest?_congr htasks]
  refine soonest?_eq_some_iff.mpr ⟨⟨hstarts, hundone, hlt⟩, before, after, hsplit, ?_, ?_⟩
  · exact fun t' ht' starts' hupcoming => hbefore t' ht' starts' (hearlier t' starts' hupcoming)
  · exact fun t' ht' starts' hupcoming => hafter t' ht' starts' (hearlier t' starts' hupcoming)

end Store

end Agenda

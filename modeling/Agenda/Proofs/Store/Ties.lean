import Agenda.Proofs.Store.Order
import Agenda.Proofs.TaskList

/-!
# Ties in the saved order

Tasks with the same key tie: the saved order does not say which of them comes first. So a list in
the saved order is known as soon as its keys are known and, for each key, the tasks that tie
(`InSaveOrder.eq_of_ties`). Sorting keeps the ties of a list in their order (`ties_saveOrder`), and
this is all that it keeps: `saveOrder_eq_iff` says what sorting makes of a list without looking at
any of the three sorts, and `saveOrder_is_stable_sort` that they are one sort by the key.
-/

namespace Agenda

open scoped List

/-- What tasks are ordered by when they are saved. -/
abbrev SaveKey : Type :=
  Bool ×ₗ (Bool ×ₗ ℤ) ×ₗ String

/-- The tasks are in the order in which they are saved. -/
def InSaveOrder (tasks : List Task) : Prop :=
  tasks.Pairwise (·.saveKey ≤ ·.saveKey)

/-- The tasks that have a key, in their order. -/
def ties (key : SaveKey) (tasks : List Task) : List Task :=
  tasks.filter (·.saveKey = key)

variable {key : SaveKey} {tasks others : List Task} {t u : Task}

/-! ### Keys -/

/-- Tasks that tie are equal for each of the three sorts. -/
theorem le_of_saveKey_eq (h : t.saveKey = u.saveKey) :
    t.descriptionLE u ∧ t.endLE u ∧ t.doneLE u := by
  obtain ⟨hdone, hrest⟩ := Task.saveKey_le_iff.mp h.le
  obtain ⟨hdone', hrest'⟩ := Task.saveKey_le_iff.mp h.ge
  obtain ⟨hend, hdescription⟩ := hrest hdone'
  obtain ⟨hend', -⟩ := hrest' hdone
  exact ⟨hdescription hend', hend, hdone⟩

@[simp] theorem mem_ties : t ∈ ties key tasks ↔ t ∈ tasks ∧ t.saveKey = key := by
  simp [ties]

@[simp] theorem ties_nil (key : SaveKey) : ties key [] = [] := rfl

theorem ties_append (key : SaveKey) (tasks others : List Task) :
    ties key (tasks ++ others) = ties key tasks ++ ties key others :=
  List.filter_append ..

theorem ties_cons_of_eq (h : t.saveKey = key) : ties key (t :: tasks) = t :: ties key tasks :=
  List.filter_cons_of_pos (by simpa using h)

theorem ties_cons_of_ne (h : t.saveKey ≠ key) : ties key (t :: tasks) = ties key tasks :=
  List.filter_cons_of_neg (by simpa using h)

/-! ### Lists in order -/

/-- Where a key comes before the first task, no task has it. -/
theorem ties_eq_nil_of_lt (h : InSaveOrder (t :: tasks)) (hlt : key < t.saveKey) :
    ties key (t :: tasks) = [] := by
  refine List.filter_eq_nil_iff.mpr fun u hu => ?_
  have hle : t.saveKey ≤ u.saveKey := by
    rcases List.mem_cons.mp hu with rfl | hu
    · exact le_refl _
    · exact (List.pairwise_cons.mp h).1 u hu
  simpa using (hlt.trans_le hle).ne'

/-- Of two lists in order with the same ties, the first task of one does not come before the first
task of the other. -/
theorem saveKey_le_of_ties (hothers : InSaveOrder (u :: others))
    (hties : ties t.saveKey (t :: tasks) = ties t.saveKey (u :: others)) :
    u.saveKey ≤ t.saveKey := by
  by_contra hlt
  -- else the first list would have a tie that the other one lacks
  rw [ties_eq_nil_of_lt hothers (not_le.mp hlt), ties_cons_of_eq rfl] at hties
  cases hties

/-- **A list in order is known from its ties.** -/
theorem InSaveOrder.eq_of_ties (h : InSaveOrder tasks) (h' : InSaveOrder others)
    (hties : ∀ key, ties key tasks = ties key others) : tasks = others := by
  induction tasks generalizing others with
  | nil =>
    cases others with
    | nil => rfl
    | cons u others =>
      have hnone := hties u.saveKey
      rw [ties_cons_of_eq rfl] at hnone
      cases hnone
  | cons t tasks ih =>
    cases others with
    | nil =>
      have hnone := hties t.saveKey
      rw [ties_cons_of_eq rfl] at hnone
      cases hnone
    | cons u others =>
      have hkey : u.saveKey = t.saveKey :=
        le_antisymm (saveKey_le_of_ties h' (hties t.saveKey))
          (saveKey_le_of_ties h (hties u.saveKey).symm)
      -- the first tasks are the first ones of the same ties
      have hfirst := hties t.saveKey
      rw [ties_cons_of_eq rfl, ties_cons_of_eq hkey] at hfirst
      obtain rfl : t = u := (List.cons.inj hfirst).1
      have hrest : ∀ key, ties key tasks = ties key others := by
        intro key
        have hall := hties key
        by_cases ht : t.saveKey = key
        · rw [ties_cons_of_eq ht, ties_cons_of_eq ht] at hall
          exact (List.cons.inj hall).2
        · rwa [ties_cons_of_ne ht, ties_cons_of_ne ht] at hall
      rw [ih (List.pairwise_cons.mp h).2 (List.pairwise_cons.mp h').2 hrest]

/-- Lists in order of the same tasks have the same keys, one position after the other. -/
theorem InSaveOrder.map_saveKey_eq (h : InSaveOrder tasks) (h' : InSaveOrder others)
    (hperm : tasks ~ others) : tasks.map Task.saveKey = others.map Task.saveKey := by
  refine (hperm.map Task.saveKey).eq_of_pairwise (fun _ _ _ _ => le_antisymm) ?_ ?_
  · exact List.pairwise_map.mpr h
  · exact List.pairwise_map.mpr h'

/-! ### Sorting -/

theorem inSaveOrder_saveOrder (tasks : List Task) : InSaveOrder (saveOrder tasks) :=
  pairwise_saveOrder tasks

/-- **Sorting keeps ties in their order.** -/
theorem ties_saveOrder (key : SaveKey) (tasks : List Task) :
    ties key (saveOrder tasks) = ties key tasks := by
  have hsame : ∀ t u : Task, decide (t.saveKey = key) = true → decide (u.saveKey = key) = true →
      t.descriptionLE u ∧ t.endLE u ∧ t.doneLE u := by
    intro t u ht hu
    exact le_of_saveKey_eq ((of_decide_eq_true ht).trans (of_decide_eq_true hu).symm)
  have hsort : ∀ (sort : SortKey) (tasks : List Task),
      (∀ t u : Task, decide (t.saveKey = key) = true → decide (u.saveKey = key) = true →
        sort.le t u) → ties key (sort.sort tasks) = ties key tasks := by
    intro sort tasks hle
    exact filter_mergeSort sort.le_trans sort.le_total _ hle
  unfold saveOrder
  rw [hsort .done _ fun t u ht hu => (hsame t u ht hu).2.2,
    hsort .ends _ fun t u ht hu => (hsame t u ht hu).2.1,
    hsort .description _ fun t u ht hu => (hsame t u ht hu).1]

/-- **What sorting makes of a list**: the list in order that has the same ties. -/
theorem saveOrder_eq_iff :
    saveOrder tasks = others ↔ InSaveOrder others ∧ ∀ key, ties key others = ties key tasks := by
  constructor
  · rintro rfl
    exact ⟨inSaveOrder_saveOrder tasks, fun key => ties_saveOrder key tasks⟩
  · rintro ⟨h, hties⟩
    refine (inSaveOrder_saveOrder tasks).eq_of_ties h fun key => ?_
    rw [ties_saveOrder, hties]

theorem saveOrder_eq_self_iff : saveOrder tasks = tasks ↔ InSaveOrder tasks := by
  rw [saveOrder_eq_iff]
  exact and_iff_left fun _ => rfl

/-! ### Sorting by other keys -/

/-- The tasks sorted by a key; tasks with equal keys keep their order. -/
def sortedBy (order : Task → SaveKey) (tasks : List Task) : List Task :=
  tasks.mergeSort fun t u => decide (order t ≤ order u)

section SortedBy

variable {order : Task → SaveKey}

theorem sortedBy_le_trans (order : Task → SaveKey) (t u v : Task)
    (htu : decide (order t ≤ order u) = true) (huv : decide (order u ≤ order v) = true) :
    decide (order t ≤ order v) = true :=
  decide_eq_true ((of_decide_eq_true htu).trans (of_decide_eq_true huv))

theorem sortedBy_le_total (order : Task → SaveKey) (t u : Task) :
    (decide (order t ≤ order u) || decide (order u ≤ order t)) = true := by
  rw [Bool.or_eq_true, decide_eq_true_eq, decide_eq_true_eq]
  exact le_total ..

theorem sortedBy_perm (order : Task → SaveKey) (tasks : List Task) :
    sortedBy order tasks ~ tasks :=
  List.mergeSort_perm ..

theorem sortedBy_pair (order : Task → SaveKey) (t u : Task) :
    sortedBy order [t, u] = if order t ≤ order u then [t, u] else [u, t] := by
  unfold sortedBy
  rw [List.mergeSort]
  simp [List.merge]

/-- The three sorts are one sort by the key. -/
theorem saveOrder_eq_sortedBy (tasks : List Task) :
    saveOrder tasks = sortedBy Task.saveKey tasks := by
  refine saveOrder_eq_iff.mpr ⟨?_, fun key => ?_⟩
  · have hsorted :=
      List.pairwise_mergeSort (sortedBy_le_trans Task.saveKey) (sortedBy_le_total _) tasks
    exact hsorted.imp of_decide_eq_true
  · refine filter_mergeSort (sortedBy_le_trans _) (sortedBy_le_total _) _ fun t u ht hu => ?_
    exact decide_eq_true ((of_decide_eq_true ht).trans (of_decide_eq_true hu).symm).le

/-- Changed tasks are sorted by the keys that the change gives them. -/
theorem saveOrder_map (f : Task → Task) (tasks : List Task) :
    saveOrder (tasks.map f) = (sortedBy (fun t => (f t).saveKey) tasks).map f := by
  have hmap : (sortedBy (fun t => (f t).saveKey) tasks).map f
      = sortedBy Task.saveKey (tasks.map f) :=
    List.map_mergeSort fun _ _ _ _ => rfl
  rw [saveOrder_eq_sortedBy, hmap]

/-- **A sort by other keys leaves the ties in their order if these keys agree with it**, and only
then. -/
theorem ties_sortedBy_iff : (∀ key, ties key (sortedBy order tasks) = ties key tasks) ↔
    tasks.Pairwise fun t u => t.saveKey = u.saveKey → order t ≤ order u := by
  have hties : ∀ key, ties key (sortedBy order tasks) = ties key tasks ↔
      tasks.Pairwise fun t u => t.saveKey = key → u.saveKey = key → order t ≤ order u := by
    intro key
    unfold ties sortedBy
    rw [filter_mergeSort_iff (sortedBy_le_trans order) (sortedBy_le_total order),
      List.pairwise_filter]
    simp only [decide_eq_true_eq]
  simp only [hties, List.pairwise_iff_forall_sublist]
  constructor
  · intro h t u hsub heq
    exact h u.saveKey hsub heq rfl
  · intro h key t u hsub ht hu
    exact h hsub (ht.trans hu.symm)

end SortedBy

/-! ### One sort -/

/-- **The three sorts are one stable sort by the key.** What they make of a list are its tasks in
the order of their keys, tasks that tie in the order that they had; no other list is that, and
sorting once more changes nothing. -/
theorem saveOrder_is_stable_sort (tasks : List Task) :
    saveOrder tasks = sortedBy Task.saveKey tasks ∧
    saveOrder tasks ~ tasks ∧
    InSaveOrder (saveOrder tasks) ∧
    (∀ key, ties key (saveOrder tasks) = ties key tasks) ∧
    (∀ others, InSaveOrder others → (∀ key, ties key others = ties key tasks) →
      others = saveOrder tasks) ∧
    saveOrder (saveOrder tasks) = saveOrder tasks := by
  have horder : InSaveOrder (saveOrder tasks) := inSaveOrder_saveOrder tasks
  refine ⟨saveOrder_eq_sortedBy tasks, saveOrder_perm tasks, horder, ?_, ?_, ?_⟩
  · intro key
    exact ties_saveOrder key tasks
  · intro others hothers hties
    exact (saveOrder_eq_iff.mpr ⟨hothers, hties⟩).symm
  · exact saveOrder_eq_self_iff.mpr horder

end Agenda

import Agenda.Store.Draft
import Agenda.Store.Order
import Mathlib.Data.List.Perm.Basic
import Mathlib.Data.Multiset.AddSub
import Mathlib.Data.Multiset.MapFold

/-!
# Task lists as bags

`TaskList.bag` forgets the order of a task list and counts its tasks. Each operation is described by
one equation between the bags before and after it, with everything that comes in on one side and
everything that goes out on the other, so that no subtraction is needed: `bag_remove`,
`bag_takeBack`, `bag_replace`. Sorting keeps the bag (`bag_sorted`).

`positionOf` finds a task exactly when the bag has it (`positionOf_of_mem`,
`positionOf_of_not_mem`); the hint decides only which one of several equal tasks is found.
-/

namespace Agenda

open scoped List

/-! ### Positions in a list -/

section Positions

variable {α : Type} [DecidableEq α]

theorem lastIndexOf?_eq_none_iff {x : α} {xs : List α} : lastIndexOf? x xs = none ↔ x ∉ xs := by
  induction xs with
  | nil => simp [lastIndexOf?]
  | cons y ys ih =>
    cases h : lastIndexOf? x ys with
    | none =>
      rw [h] at ih
      have hx : x ∉ ys := ih.mp rfl
      simp [lastIndexOf?, h, hx, eq_comm]
    | some i =>
      have hx : x ∈ ys := by
        by_contra hne
        rw [ih.mpr hne] at h
        cases h
      simp [lastIndexOf?, h, hx]

/-- The last occurrence of a value has no other one behind it. -/
theorem exists_of_lastIndexOf? {x : α} {xs : List α} {i : ℕ} (h : lastIndexOf? x xs = some i) :
    ∃ front back, xs = front ++ x :: back ∧ x ∉ back ∧ i = front.length := by
  induction xs generalizing i with
  | nil => cases h
  | cons y ys ih =>
    cases hys : lastIndexOf? x ys with
    | some j =>
      simp only [lastIndexOf?, hys, Option.some.injEq] at h
      obtain ⟨front, back, rfl, hback, rfl⟩ := ih hys
      exact ⟨y :: front, back, rfl, hback, h.symm⟩
    | none =>
      simp only [lastIndexOf?, hys, Option.ite_none_right_eq_some, Option.some.injEq] at h
      obtain ⟨rfl, rfl⟩ := h
      exact ⟨[], ys, rfl, lastIndexOf?_eq_none_iff.mp hys, rfl⟩

theorem getElem?_of_lastIndexOf? {x : α} {xs : List α} {i : ℕ} (h : lastIndexOf? x xs = some i) :
    xs[i]? = some x := by
  obtain ⟨front, back, rfl, -, rfl⟩ := exists_of_lastIndexOf? h
  rw [List.getElem?_append_right (Nat.le_refl _), Nat.sub_self, List.getElem?_cons_zero]

/-- **The last occurrence of a value** is the position of one behind which there is no other. -/
theorem lastIndexOf?_eq_some_iff {x : α} {xs : List α} {i : ℕ} :
    lastIndexOf? x xs = some i ↔ xs[i]? = some x ∧ ∀ j, i < j → xs[j]? ≠ some x := by
  have hlater : ∀ {i j}, lastIndexOf? x xs = some i → i < j → xs[j]? ≠ some x := by
    intro i j h hlt hj
    obtain ⟨front, back, rfl, hback, rfl⟩ := exists_of_lastIndexOf? h
    rw [List.getElem?_append_right (by omega), List.getElem?_cons, if_neg (by omega)] at hj
    exact hback (List.mem_of_getElem? hj)
  constructor
  · intro h
    exact ⟨getElem?_of_lastIndexOf? h, fun j hlt => hlater h hlt⟩
  · rintro ⟨hi, hnone⟩
    cases h : lastIndexOf? x xs with
    | none => exact absurd (List.mem_of_getElem? hi) (lastIndexOf?_eq_none_iff.mp h)
    | some j =>
      -- of two such positions, none is behind the other
      rcases Nat.lt_trichotomy j i with hlt | rfl | hgt
      · exact absurd hi (hlater h hlt)
      · rfl
      · exact absurd (getElem?_of_lastIndexOf? h) (hnone j hgt)

end Positions

/-- Putting `b` in the place of `a` trades one for the other. -/
theorem cons_coe_set {α : Type} {xs : List α} {i : ℕ} {a : α} (h : xs[i]? = some a) (b : α) :
    a ::ₘ (xs.set i b : Multiset α) = b ::ₘ (xs : Multiset α) := by
  obtain ⟨hi, rfl⟩ := List.getElem?_eq_some_iff.mp h
  rw [Multiset.cons_coe, Multiset.cons_coe, Multiset.coe_eq_coe]
  calc xs[i] :: xs.set i b
      ~ xs[i] :: b :: xs.eraseIdx i := (List.set_perm_cons_eraseIdx hi b).cons _
    _ ~ b :: xs[i] :: xs.eraseIdx i := List.Perm.swap ..
    _ ~ b :: xs := (List.getElem_cons_eraseIdx_perm hi).cons _

theorem cons_coe_eraseIdx {α : Type} {xs : List α} {i : ℕ} {a : α} (h : xs[i]? = some a) :
    a ::ₘ (xs.eraseIdx i : Multiset α) = xs := by
  obtain ⟨hi, rfl⟩ := List.getElem?_eq_some_iff.mp h
  rw [Multiset.cons_coe, Multiset.coe_eq_coe]
  exact List.getElem_cons_eraseIdx_perm hi

theorem saveOrder_perm (tasks : List Task) : saveOrder tasks ~ tasks :=
  (List.mergeSort_perm ..).trans ((List.mergeSort_perm ..).trans (List.mergeSort_perm ..))

namespace TaskList

/-- The tasks of a list, counted and without their order. -/
def bag (l : TaskList) : Multiset Task :=
  l.tasks

variable {l l' : TaskList} {position : ℕ} {t old : Task}

/-! ### Operations -/

@[simp] theorem bag_push : (l.push t).bag = t ::ₘ l.bag := by
  show ((l.tasks ++ [t] : List Task) : Multiset Task) = t ::ₘ l.tasks
  rw [Multiset.cons_coe, Multiset.coe_eq_coe]
  exact List.perm_append_singleton t l.tasks

@[simp] theorem bag_insert : (l.insert position t).bag = t ::ₘ l.bag := by
  show ((l.tasks.insertIdx (min position l.tasks.length) t : List Task) : Multiset Task)
    = t ::ₘ l.tasks
  rw [Multiset.cons_coe, Multiset.coe_eq_coe]
  exact List.perm_insertIdx _ _ (min_le_right ..)

@[simp] theorem bag_clear : l.clear.2.bag = 0 := rfl

@[simp] theorem bag_restore (tasks : List Task) : (l.restore tasks).bag = tasks := rfl

@[simp] theorem bag_sorted : l.sorted.bag = l.bag :=
  Multiset.coe_eq_coe.mpr (saveOrder_perm l.tasks)

theorem remove_of_get? (h : l.get? position = some t) :
    l.remove position = .ok (t, { l with tasks := l.tasks.eraseIdx position }) := by
  rw [remove, h]

theorem takeBack_of_get? (h : l.get? position = some t) :
    l.takeBack position =
      .ok (t, { tasks := l.tasks.eraseIdx position, added := l.added.erase t }) := by
  rw [takeBack, remove_of_get? h]
  rfl

theorem replace_of_get? (h : l.get? position = some old) (t : Task) :
    l.replace position t = .ok (old,
      { tasks := l.tasks.set position t
        added := l.added.map fun entry => if entry = old then t else entry }) := by
  rw [replace, h]

theorem bag_remove (h : l.remove position = .ok (t, l')) : t ::ₘ l'.bag = l.bag := by
  cases hget : l.get? position with
  | none => simp [remove, hget] at h
  | some found =>
    rw [remove_of_get? hget] at h
    injection h with h
    injection h with h₁ h₂
    subst h₁ h₂
    exact cons_coe_eraseIdx hget

theorem bag_takeBack (h : l.takeBack position = .ok (t, l')) : t ::ₘ l'.bag = l.bag := by
  cases hrem : l.remove position with
  | error e => simp [takeBack, hrem, Except.map] at h
  | ok r =>
    obtain ⟨found, rest⟩ := r
    simp only [takeBack, hrem, Except.map, Except.ok.injEq, Prod.mk.injEq] at h
    obtain ⟨rfl, rfl⟩ := h
    have hbag : found ::ₘ rest.bag = l.bag := bag_remove hrem
    exact hbag

theorem bag_replace (h : l.replace position t = .ok (old, l')) :
    old ::ₘ l'.bag = t ::ₘ l.bag := by
  cases hget : l.get? position with
  | none => simp [replace, hget] at h
  | some found =>
    simp only [replace, hget, Except.ok.injEq, Prod.mk.injEq] at h
    obtain ⟨rfl, rfl⟩ := h
    exact cons_coe_set hget t

/-! ### Finding a task -/

/-- **A task that is in the list is found**, whatever the hint. -/
theorem positionOf_of_mem (hint : Option ℕ) (h : t ∈ l.bag) :
    ∃ position, l.positionOf t hint = .ok position ∧ l.get? position = some t := by
  unfold positionOf
  -- the hint, if the task is there, and else the last copy of the task
  cases hh : hint.filter (l.get? · = some t) with
  | some position =>
    obtain ⟨-, hget⟩ := Option.filter_eq_some_iff.mp hh
    exact ⟨position, rfl, of_decide_eq_true hget⟩
  | none =>
    cases hlast : lastIndexOf? t l.tasks with
    | some position => exact ⟨position, rfl, getElem?_of_lastIndexOf? hlast⟩
    | none => exact absurd h (lastIndexOf?_eq_none_iff.mp hlast)

theorem positionOf_of_not_mem (hint : Option ℕ) (h : t ∉ l.bag) :
    l.positionOf t hint = .error (.taskMoved (hint.getD l.size)) := by
  unfold positionOf
  have hhint : hint.filter (l.get? · = some t) = none := by
    rw [Option.filter_eq_none_iff]
    intro position _ hget
    exact h (List.mem_of_getElem? (of_decide_eq_true hget))
  rw [hhint, lastIndexOf?_eq_none_iff.mpr h]

/-- A task is only found where it is. -/
theorem get?_of_positionOf {hint : Option ℕ} (h : l.positionOf t hint = .ok position) :
    l.get? position = some t := by
  have hmem : t ∈ l.bag := by
    by_contra hnot
    rw [positionOf_of_not_mem hint hnot] at h
    cases h
  obtain ⟨position', hposition, hget⟩ := positionOf_of_mem hint hmem
  rw [hposition] at h
  cases h
  exact hget

end TaskList

end Agenda

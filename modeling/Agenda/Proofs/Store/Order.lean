import Agenda.Store.Order
import Mathlib.Data.Bool.Basic
import Mathlib.Data.List.Sort
import Mathlib.Data.Prod.Lex
import Mathlib.Data.String.Basic

/-!
# The order in which the list is saved

Three stable sorts, one after the other, order the tasks lexicographically by `Task.saveKey`
(`pairwise_saveOrder`). The reason is that a stable sort does not change the order of elements that
it takes to be equal (`filter_mergeSort`), so that what an earlier sort has put in order stays so
among them (`pairwise_mergeSort_of_pairwise`).
-/

namespace Agenda

open scoped List

/-! ### Stable sorts -/

section Stable

variable {α : Type} {le : α → α → Bool} {xs : List α}

/-- **A stable sort moves none of the elements that are in order already**, looked at by
themselves. -/
theorem filter_mergeSort_iff (trans : ∀ a b c, le a b → le b c → le a c)
    (total : ∀ a b, le a b || le b a) (p : α → Bool) :
    (xs.mergeSort le).filter p = xs.filter p ↔ (xs.filter p).Pairwise (le · ·) := by
  constructor
  · intro h
    rw [← h]
    exact (List.pairwise_mergeSort trans total xs).sublist List.filter_sublist
  · intro hsorted
    have hsub : xs.filter p <+ xs.mergeSort le :=
      List.sublist_mergeSort trans total hsorted List.filter_sublist
    -- one is a part of the other and they are equally long, so they are equal
    have hsub' : xs.filter p <+ (xs.mergeSort le).filter p := by
      have := hsub.filter p
      simpa only [List.filter_filter, Bool.and_self] using this
    have hlength := ((List.mergeSort_perm xs le).filter p).length_eq
    exact (hsub'.eq_of_length hlength.symm).symm

/-- A stable sort keeps the order of elements that it takes to be equal. -/
theorem filter_mergeSort (trans : ∀ a b c, le a b → le b c → le a c)
    (total : ∀ a b, le a b || le b a) (p : α → Bool)
    (hp : ∀ a b, p a → p b → le a b) : (xs.mergeSort le).filter p = xs.filter p := by
  refine (filter_mergeSort_iff trans total p).mpr ?_
  refine List.pairwise_of_forall_mem_list fun a ha b hb => ?_
  exact hp a b (List.mem_filter.mp ha).2 (List.mem_filter.mp hb).2

/-- What an earlier sort has put in order stays so among the elements that a later stable sort takes
to be equal. -/
theorem pairwise_mergeSort_of_pairwise {R : α → α → Prop}
    (trans : ∀ a b c, le a b → le b c → le a c) (total : ∀ a b, le a b || le b a)
    (h : xs.Pairwise R) :
    (xs.mergeSort le).Pairwise fun a b => le a b ∧ (le b a → R a b) := by
  rw [List.pairwise_iff_forall_sublist]
  intro a b hab
  have hle := List.pairwise_iff_forall_sublist.mp (List.pairwise_mergeSort trans total xs) hab
  refine ⟨hle, fun hge => ?_⟩
  -- `a` and `b` are equal for the sort, so they lie in `xs` as they do after it
  let same (c : α) : Bool := le a c && le c a
  have hsame : ∀ c d, same c → same d → le c d := by
    intro c d hc hd
    have hca := (Bool.and_eq_true_iff.mp hc).2
    have had := (Bool.and_eq_true_iff.mp hd).1
    exact trans c a d hca had
  have hrefl : le a a := by
    have := total a a
    rwa [Bool.or_self] at this
  have hfilter : [a, b].filter same = [a, b] := by
    simp [same, hrefl, hle, hge]
  have hsub := hab.filter same
  rw [hfilter, filter_mergeSort trans total same hsame] at hsub
  exact List.pairwise_iff_forall_sublist.mp (h.sublist List.filter_sublist) hsub

end Stable

/-! ### Keys -/

variable {a b : Option DateTime}

theorem timeLE_trans (a b c : Option DateTime) (hab : timeLE a b) (hbc : timeLE b c) :
    timeLE a c := by
  cases a <;> cases b <;> cases c <;> simp only [timeLE, decide_eq_true_eq] at hab hbc ⊢ <;>
    try contradiction
  exact Int.le_trans hab hbc

theorem timeLE_total (a b : Option DateTime) : timeLE a b || timeLE b a := by
  cases a <;> cases b <;> simp only [timeLE, Bool.or_true, Bool.true_or]
  rw [Bool.or_eq_true, decide_eq_true_eq, decide_eq_true_eq]
  exact Int.le_total ..

namespace SortKey

theorem le_trans (key : SortKey) (a b c : Task) (hab : key.le a b) (hbc : key.le b c) :
    key.le a c := by
  cases key with
  | description =>
    have hab' := of_decide_eq_true hab
    have hbc' := of_decide_eq_true hbc
    exact decide_eq_true (hab'.trans hbc')
  | ends => exact timeLE_trans _ _ _ hab hbc
  | starts => exact timeLE_trans _ _ _ hab hbc
  | done =>
    revert hab hbc
    simp only [le, Task.doneLE]
    cases a.done <;> cases b.done <;> cases c.done <;> decide

theorem le_total (key : SortKey) (a b : Task) : key.le a b || key.le b a := by
  cases key with
  | description =>
    simp only [le, Task.descriptionLE]
    rw [Bool.or_eq_true, decide_eq_true_eq, decide_eq_true_eq]
    exact Std.le_total
  | ends => exact timeLE_total ..
  | starts => exact timeLE_total ..
  | done =>
    simp only [le, Task.doneLE]
    cases a.done <;> cases b.done <;> decide

/-- Sorting by a key keeps what was in order among tasks with equal keys. -/
theorem pairwise_sort (key : SortKey) {R : Task → Task → Prop} {tasks : List Task}
    (h : tasks.Pairwise R) :
    (key.sort tasks).Pairwise fun a b => key.le a b ∧ (key.le b a → R a b) :=
  pairwise_mergeSort_of_pairwise key.le_trans key.le_total h

theorem sort_perm (key : SortKey) (tasks : List Task) : key.sort tasks ~ tasks :=
  List.mergeSort_perm ..

theorem sort_of_pairwise (key : SortKey) {tasks : List Task}
    (h : tasks.Pairwise (key.le · ·)) : key.sort tasks = tasks :=
  List.mergeSort_of_pairwise h

end SortKey

/-! ### The order -/

/-- What optional times are ordered by: first whether they are missing, then their instant. -/
def timeKey (t : Option DateTime) : Bool ×ₗ ℤ :=
  toLex (t.isNone, (t.map DateTime.instant).getD 0)

/-- What tasks are ordered by when they are saved: first whether they are done, then whether they
have no end, then their end, and then their description, case disregarded. -/
def Task.saveKey (t : Task) : Bool ×ₗ (Bool ×ₗ ℤ) ×ₗ String :=
  toLex (t.done, toLex (timeKey t.ends, Text.lowerCase t.description))

theorem timeLE_iff : timeLE a b ↔ timeKey a ≤ timeKey b := by
  rw [timeKey, timeKey, Prod.Lex.toLex_le_toLex]
  cases a <;> cases b <;> simp [timeLE]
  rfl

theorem doneLE_iff {a b : Task} : a.doneLE b ↔ a.done ≤ b.done := by
  unfold Task.doneLE
  cases a.done <;> cases b.done <;> decide

/-- Comparing pairs takes the second parts into account when the first ones do not decide. -/
theorem toLex_le_iff {α β : Type} [LinearOrder α] [LE β] {x x' : α} {y y' : β} :
    toLex (x, y) ≤ toLex (x', y') ↔ x ≤ x' ∧ (x' ≤ x → y ≤ y') := by
  rw [Prod.Lex.toLex_le_toLex]
  constructor
  · rintro (hlt | ⟨heq, hle⟩)
    · exact ⟨hlt.le, fun hge => absurd hge hlt.not_ge⟩
    · exact ⟨heq.le, fun _ => hle⟩
  · rintro ⟨hle, h⟩
    rcases hle.lt_or_eq with hlt | heq
    · exact Or.inl hlt
    · exact Or.inr ⟨heq, h heq.ge⟩

theorem Task.saveKey_le_iff {a b : Task} : a.saveKey ≤ b.saveKey ↔
    doneLE a b ∧ (doneLE b a → endLE a b ∧ (endLE b a → descriptionLE a b)) := by
  rw [saveKey, saveKey, toLex_le_iff, toLex_le_iff, ← timeLE_iff, ← timeLE_iff, doneLE_iff,
    doneLE_iff, descriptionLE, decide_eq_true_eq]
  rfl

/-- **The saved order is the order of the keys.** -/
theorem pairwise_saveOrder (tasks : List Task) :
    (saveOrder tasks).Pairwise fun a b => a.saveKey ≤ b.saveKey := by
  have hdescription : (SortKey.description.sort tasks).Pairwise fun a b => a.descriptionLE b :=
    List.pairwise_mergeSort SortKey.description.le_trans SortKey.description.le_total tasks
  -- the later a sort, the more its key counts
  have hends := SortKey.ends.pairwise_sort hdescription
  have hdone := SortKey.done.pairwise_sort hends
  exact hdone.imp fun h => Task.saveKey_le_iff.mpr h

/-- Tasks that are in the order of all three sorts stay as they are. -/
theorem saveOrder_of_pairwise {tasks : List Task}
    (hdescription : tasks.Pairwise (·.descriptionLE ·))
    (hends : tasks.Pairwise (·.endLE ·)) (hdone : tasks.Pairwise (·.doneLE ·)) :
    saveOrder tasks = tasks := by
  unfold saveOrder
  rw [SortKey.description.sort_of_pairwise hdescription, SortKey.ends.sort_of_pairwise hends,
    SortKey.done.sort_of_pairwise hdone]

theorem TaskList.sorted_singleton (t : Task) (added : List Task) :
    ({ tasks := [t], added } : TaskList).sorted = { tasks := [t], added } :=
  congrArg (TaskList.mk · added) (saveOrder_of_pairwise (List.pairwise_singleton ..)
    (List.pairwise_singleton ..) (List.pairwise_singleton ..))

end Agenda

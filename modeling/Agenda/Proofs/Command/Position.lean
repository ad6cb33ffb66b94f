import Agenda.Proofs.Language.Command

/-!
# What commands do at the positions of their targets

The targets of a command are captured from the list at ascending positions, and the command looks
for each of them at its old position first. While it is carried out on that list, it always finds
them there: removals go from the last position to the first, so that nothing in front of them moves
(`run_removeTargets_at`), and a swap changes nothing but its own position (`run_swaps_at`). So a
command does to the list what its targets say, position by position: `removedAt` and `changedAt`
describe the outcome without any search for equal tasks.
-/

namespace Agenda

/-! ### Lists changed at positions -/

/-- The tasks without those at some positions. -/
def removedAt (positions : List ℕ) (tasks : List Task) : List Task :=
  (tasks.zipIdx.filter fun entry => entry.2 ∉ positions).map (·.1)

/-- The tasks with those at some positions changed by a function. -/
def changedAt (positions : List ℕ) (f : Task → Task) (tasks : List Task) : List Task :=
  tasks.mapIdx fun i t => if i ∈ positions then f t else t

section Lists

variable {tasks : List Task} {positions : List ℕ} {f : Task → Task} {p i : ℕ} {t : Task}

@[simp] theorem removedAt_nil : removedAt [] tasks = tasks := by
  unfold removedAt
  simp

@[simp] theorem changedAt_nil : changedAt [] f tasks = tasks := by
  apply List.ext_getElem?
  intro i
  simp [changedAt]

theorem getElem?_changedAt :
    (changedAt positions f tasks)[i]? = if i ∈ positions then tasks[i]?.map f else tasks[i]? := by
  unfold changedAt
  rw [List.getElem?_mapIdx]
  by_cases hi : i ∈ positions
  · simp only [hi, ↓reduceIte]
  · simp only [hi, ↓reduceIte, Option.map_id']

/-- Every position that is not named keeps its task. -/
theorem getElem?_changedAt_of_not_mem (hi : i ∉ positions) :
    (changedAt positions f tasks)[i]? = tasks[i]? := by
  rw [getElem?_changedAt]
  exact if_neg hi

/-- The change at the first position can be made before the others. -/
theorem changedAt_cons (hp : p ∉ positions) (ht : tasks[p]? = some t) :
    changedAt (p :: positions) f tasks = changedAt positions f (tasks.set p (f t)) := by
  obtain ⟨hlt, -⟩ := List.getElem?_eq_some_iff.mp ht
  apply List.ext_getElem?
  intro i
  rw [getElem?_changedAt, getElem?_changedAt, List.getElem?_set]
  by_cases hi : p = i
  · subst hi
    rw [if_neg hp, if_pos rfl, if_pos hlt, if_pos (List.mem_cons_self ..), ht, Option.map_some]
  · have hmem : i ∈ p :: positions ↔ i ∈ positions := by
      simp [Ne.symm hi]
    simp only [hmem, hi, ↓reduceIte]

theorem length_take_of_getElem? (ht : tasks[p]? = some t) : (tasks.take p).length = p := by
  obtain ⟨hp, -⟩ := List.getElem?_eq_some_iff.mp ht
  rw [List.length_take]
  omega

/-- Where a position lies before all others, the tasks up to it are not touched by the removal of
the others, and removing it as well takes out just its task. -/
theorem exists_removedAt_cons (ht : tasks[p]? = some t) (hlt : ∀ q ∈ positions, p < q) :
    ∃ back, removedAt positions tasks = tasks.take p ++ t :: back ∧
      removedAt (p :: positions) tasks = tasks.take p ++ back := by
  obtain ⟨hp, htask⟩ := List.getElem?_eq_some_iff.mp ht
  have hsplit : tasks = tasks.take p ++ t :: tasks.drop (p + 1) := by
    rw [← htask, ← List.drop_eq_getElem_cons hp, List.take_append_drop]
  have hlength := length_take_of_getElem? ht
  have hzip : tasks.zipIdx
      = (tasks.take p).zipIdx ++ (t, p) :: (tasks.drop (p + 1)).zipIdx (p + 1) := by
    conv_lhs => rw [hsplit]
    rw [List.zipIdx_append, hlength, List.zipIdx_cons, Nat.zero_add]
  -- nothing before the position is named, and all that is named lies behind it
  have hfront : ∀ named : List ℕ, (∀ q ∈ named, p ≤ q) →
      ((tasks.take p).zipIdx.filter fun entry => entry.2 ∉ named) = (tasks.take p).zipIdx := by
    intro named hnamed
    rw [List.filter_eq_self]
    intro entry hentry
    have hbefore := List.snd_lt_of_mem_zipIdx hentry
    rw [hlength] at hbefore
    rw [decide_eq_true_eq]
    intro hmem
    have := hnamed _ hmem
    omega
  have hback : ∀ entry ∈ (tasks.drop (p + 1)).zipIdx (p + 1), entry.2 ≠ p := by
    intro entry hentry
    have := List.le_snd_of_mem_zipIdx hentry
    omega
  refine ⟨(((tasks.drop (p + 1)).zipIdx (p + 1)).filter fun entry => entry.2 ∉ positions).map (·.1),
    ?_, ?_⟩
  · have hnot : p ∉ positions := fun hmem => Nat.lt_irrefl p (hlt p hmem)
    unfold removedAt
    rw [hzip, List.filter_append, hfront positions fun q hq => (hlt q hq).le,
      List.filter_cons_of_pos (by simpa using hnot), List.map_append, List.zipIdx_map_fst,
      List.map_cons]
  · have hle : ∀ q ∈ p :: positions, p ≤ q := by
      intro q hq
      rcases List.mem_cons.mp hq with rfl | hq
      · exact le_rfl
      · exact (hlt q hq).le
    have hsame : (((tasks.drop (p + 1)).zipIdx (p + 1)).filter fun entry =>
        entry.2 ∉ p :: positions) = ((tasks.drop (p + 1)).zipIdx (p + 1)).filter fun entry =>
        entry.2 ∉ positions := by
      refine List.filter_congr fun entry hentry => ?_
      have hne := hback entry hentry
      simp [hne]
    unfold removedAt
    rw [hzip, List.filter_append, hfront _ hle, List.filter_cons_of_neg (by simp), hsame,
      List.map_append, List.zipIdx_map_fst]

theorem getElem?_removedAt_of_lt (ht : tasks[p]? = some t) (hlt : ∀ q ∈ positions, p < q) :
    (removedAt positions tasks)[p]? = some t := by
  obtain ⟨back, hrest, -⟩ := exists_removedAt_cons ht hlt
  have hlength := length_take_of_getElem? ht
  rw [hrest, List.getElem?_append_right hlength.le, hlength, Nat.sub_self, List.getElem?_cons_zero]

/-- Removals can be made one after the other from the last position to the first. -/
theorem eraseIdx_removedAt (ht : tasks[p]? = some t) (hlt : ∀ q ∈ positions, p < q) :
    (removedAt positions tasks).eraseIdx p = removedAt (p :: positions) tasks := by
  obtain ⟨back, hrest, hall⟩ := exists_removedAt_cons ht hlt
  have hlength := length_take_of_getElem? ht
  rw [hrest, hall, List.eraseIdx_append_of_length_le hlength.le, hlength, Nat.sub_self,
    List.eraseIdx_cons_zero]

end Lists

/-! ### The hint hits -/

namespace TaskList

/-- A task that is still at its old position is found there, whatever equals it elsewhere. -/
theorem positionOf_hint {l : TaskList} {t : Task} {p : ℕ} (h : l.get? p = some t) :
    l.positionOf t (some p) = .ok p := by
  unfold positionOf
  rw [Option.filter_some, h]
  simp

end TaskList

namespace Command

variable {l : TaskList} {old : Task} {p : ℕ}

theorem run_swap_at (new : Task) (h : l.get? p = some old) :
    (swap old new (some p)).run l = .ok ()
      { tasks := l.tasks.set p new
        added := l.added.map fun entry => if entry = old then new else entry } := by
  have hrep := TaskList.replace_of_get? h new
  rw [swap, EStateM.run_bind, Draft.run_ask_ok (TaskList.positionOf_hint h)]
  simp only [EStateM.run_bind, Draft.run_step_ok (f := (·.replace p new)) hrep, EStateM.run_pure]

theorem run_removeTarget_at {target : Target} (h : l.get? target.position = some target.task) :
    (removeTarget target).run l
      = .ok () { l with tasks := l.tasks.eraseIdx target.position } := by
  have hrem := TaskList.remove_of_get? h
  rw [removeTarget, EStateM.run_bind, Draft.run_ask_ok (TaskList.positionOf_hint h)]
  simp only [EStateM.run_bind, Draft.run_step_ok (f := (·.remove target.position)) hrem,
    EStateM.run_pure]

/-! ### Sequences of steps -/

/-- **Swaps at different positions change the list at these positions and nowhere else.** The order
in which they are made is of no account. -/
theorem run_swaps_at {τ : Type} (position : τ → ℕ) (old new : τ → Task) (f : Task → Task)
    (targets : List τ) (hnodup : (targets.map position).Nodup)
    (hget : ∀ target ∈ targets, l.get? (position target) = some (old target))
    (hnew : ∀ target ∈ targets, new target = f (old target)) :
    ∃ l', (targets.forM fun t => swap (old t) (new t) (some (position t))).run l = .ok () l' ∧
      l'.tasks = changedAt (targets.map position) f l.tasks := by
  induction targets generalizing l with
  | nil => exact ⟨l, rfl, changedAt_nil.symm⟩
  | cons t rest ih =>
    obtain ⟨hp, hnodup⟩ := List.nodup_cons.mp hnodup
    obtain ⟨hgetp, hgetrest⟩ := List.forall_mem_cons.mp hget
    obtain ⟨hnewp, hnewrest⟩ := List.forall_mem_cons.mp hnew
    have hswap := run_swap_at (new t) hgetp
    -- the other targets are still at their positions after the first swap
    let l₁ : TaskList :=
      { tasks := l.tasks.set (position t) (new t)
        added := l.added.map fun entry => if entry = old t then new t else entry }
    have hstill : ∀ target ∈ rest, l₁.get? (position target) = some (old target) := by
      intro target htarget
      have hne : position t ≠ position target := by
        intro heq
        exact hp (heq ▸ List.mem_map_of_mem htarget)
      show (l.tasks.set (position t) (new t))[position target]? = some (old target)
      rw [List.getElem?_set_ne hne]
      exact hgetrest target htarget
    obtain ⟨l', hrun, htasks⟩ := ih hnodup hstill hnewrest
    refine ⟨l', ?_, ?_⟩
    · rw [List.forM_eq_forM, List.forM_cons, EStateM.run_bind, hswap]
      exact hrun
    · rw [htasks, List.map_cons, changedAt_cons hp hgetp, ← hnewp]

/-- **Removals from the last position to the first remove just these positions.** -/
theorem run_removeTargets_at (targets : List Target)
    (ascending : targets.Pairwise (·.position < ·.position))
    (hget : ∀ target ∈ targets, l.get? target.position = some target.task) :
    (targets.reverse.forM removeTarget).run l
      = .ok () { l with tasks := removedAt (targets.map (·.position)) l.tasks } := by
  induction targets with
  | nil =>
    rw [List.map_nil, removedAt_nil]
    rfl
  | cons t rest ih =>
    obtain ⟨hlt, hrest⟩ := List.pairwise_cons.mp ascending
    obtain ⟨hgett, hgetrest⟩ := List.forall_mem_cons.mp hget
    have hbehind : ∀ q ∈ rest.map (·.position), t.position < q := by
      intro q hq
      obtain ⟨target, htarget, rfl⟩ := List.mem_map.mp hq
      exact hlt target htarget
    -- what was removed before lies behind the target, so it has not moved
    have hstill : ({ l with tasks := removedAt (rest.map (·.position)) l.tasks } : TaskList).get?
        t.position = some t.task := getElem?_removedAt_of_lt hgett hbehind
    have hlast := run_removeTarget_at hstill
    have htasks := eraseIdx_removedAt hgett hbehind
    dsimp only at hlast
    rw [htasks] at hlast
    rw [List.reverse_cons, List.forM_eq_forM, List.forM_append, EStateM.run_bind,
      ← List.forM_eq_forM, ih hrest hgetrest]
    dsimp only
    rw [List.forM_eq_forM, List.forM_cons, EStateM.run_bind, hlast]
    rfl

end Command

end Agenda

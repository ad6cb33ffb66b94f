import Agenda.Proofs.Screen.Run
import Mathlib.Logic.ExistsUnique
import Mathlib.Logic.Function.Iterate

/-!
# The selected row

The rows of a console are replaced at any time by lists of any length, and the selection has to stay
with them: there is a selected row exactly if there are rows, and it is one of them
(`Console.HasSelection`). Whatever shows other rows brings this about, and all other events keep it
(`Console.hasSelection_step`). On such a console, selecting the next row and selecting the previous
one take each other back, and each of them goes round through all rows
(`Console.selection_goes_round`).
-/

namespace Agenda.Console

variable {c c' : Console} {i k row : ℕ}

/-- A row is selected exactly if there are rows, and it is one of them. -/
structure HasSelection (c : Console) : Prop where
  none_iff : c.selected = none ↔ c.rows.entries = []
  lt : ∀ i ∈ c.selected, i < c.rowCount

/-! ### Where the selection comes from -/

theorem hasSelection_of_some (h : c.selected = some i) (hi : i < c.rowCount) :
    c.HasSelection where
  none_iff := by
    rw [h, ← List.length_eq_zero_iff]
    exact iff_of_false (Option.some_ne_none i) (Nat.ne_of_gt (Nat.zero_lt_of_lt hi))
  lt := by
    rw [h]
    rintro j ⟨⟩
    exact hi

theorem hasSelection_of_none (h : c.selected = none) (hrows : c.rows.entries = []) :
    c.HasSelection where
  none_iff := iff_of_true h hrows
  lt := by
    rw [h]
    exact fun j hj => nomatch hj

theorem HasSelection.congr (h : c.HasSelection) (hrows : c'.rows = c.rows)
    (hselected : c'.selected = c.selected) : c'.HasSelection where
  none_iff := by
    rw [hrows, hselected]
    exact h.none_iff
  lt := by
    unfold rowCount
    rw [hrows, hselected]
    exact h.lt

/-- Other rows come with a selection, whatever was selected before. -/
theorem hasSelection_setRows (c : Console) (rows : Listing) : (c.setRows rows).HasSelection := by
  unfold setRows
  dsimp only
  split
  · rename_i hcount
    exact hasSelection_of_none rfl (List.length_eq_zero_iff.mp hcount)
  · rename_i hcount
    -- the old row, or the last one if there are fewer rows now
    refine hasSelection_of_some rfl ?_
    show min _ (rows.entries.length - 1) < rows.entries.length
    omega

theorem hasSelection_start (session : Session) (settings : Settings) (now : DateTime) :
    (start session settings now).HasSelection := by
  cases htasks : session.store.tasks with
  | nil =>
    refine hasSelection_of_none ?_ ?_
    · exact if_pos (List.isEmpty_iff.mpr htasks)
    · exact congrArg Entry.number htasks
  | cons t rest =>
    refine hasSelection_of_some (i := 0) ?_ ?_
    · show (if session.store.tasks.isEmpty then none else some 0) = some 0
      rw [htasks]
      rfl
    · show 0 < (Entry.number session.store.tasks).length
      rw [htasks]
      exact Nat.succ_pos _

/-! ### Going through the rows -/

/-- The console with another row selected. -/
def select (c : Console) (i : ℕ) : Console :=
  { c with selected := some i }

@[simp] theorem selected_select (c : Console) (i : ℕ) : (c.select i).selected = some i := rfl

theorem select_of_selected (h : c.selected = some i) : c.select i = c := by
  unfold select
  rw [← h]

theorem hasSelection_select (hi : i < c.rowCount) : (c.select i).HasSelection :=
  hasSelection_of_some rfl hi

/-- There are no rows, or one of them is selected. -/
theorem HasSelection.rowCount_eq_zero_or (h : c.HasSelection) :
    c.rowCount = 0 ∨ ∃ i < c.rowCount, c.select i = c := by
  cases hselected : c.selected with
  | none => exact Or.inl (List.length_eq_zero_iff.mpr (h.none_iff.mp hselected))
  | some i => exact Or.inr ⟨i, h.lt i hselected, select_of_selected hselected⟩

/-- The row some rows further down, counted on from the first row after the last one. -/
def rowAfter (count i k : ℕ) : ℕ :=
  if i + k < count then i + k else i + k - count

theorem rowAfter_lt {count : ℕ} (hi : i < count) (hk : k ≤ count) : rowAfter count i k < count := by
  unfold rowAfter
  split <;> omega

theorem next_select (hi : i < c.rowCount) :
    (c.select i).next = c.select (rowAfter c.rowCount i 1) := by
  have hcount : (c.select i).rowCount ≠ 0 := Nat.ne_of_gt (Nat.zero_lt_of_lt hi)
  have hrow : rowAfter c.rowCount i 1 = if i + 1 < c.rowCount then i + 1 else 0 := by
    unfold rowAfter
    split <;> omega
  unfold next
  rw [if_neg hcount, hrow]
  rfl

theorem previous_select (hi : i < c.rowCount) :
    (c.select i).previous = c.select (rowAfter c.rowCount i (c.rowCount - 1)) := by
  have hcount : (c.select i).rowCount ≠ 0 := Nat.ne_of_gt (Nat.zero_lt_of_lt hi)
  unfold previous
  rw [if_neg hcount]
  -- from the first row it goes to the last one, from any other it goes up
  cases i with
  | zero =>
    have hrow : rowAfter c.rowCount 0 (c.rowCount - 1) = c.rowCount - 1 := by
      unfold rowAfter
      split <;> omega
    rw [hrow]
    rfl
  | succ i =>
    have hrow : rowAfter c.rowCount (i + 1) (c.rowCount - 1) = i := by
      unfold rowAfter
      split <;> omega
    rw [hrow]
    rfl

/-- Where there is nothing to select, nothing happens. -/
theorem next_of_rowCount (h : c.rowCount = 0) : c.next = c :=
  if_pos h

theorem previous_of_rowCount (h : c.rowCount = 0) : c.previous = c :=
  if_pos h

theorem hasSelection_next (h : c.HasSelection) : c.next.HasSelection := by
  rcases h.rowCount_eq_zero_or with hcount | ⟨i, hi, hc⟩
  · rw [next_of_rowCount hcount]
    exact h
  · rw [← hc, next_select hi]
    exact hasSelection_select (rowAfter_lt hi (Nat.one_le_of_lt hi))

theorem hasSelection_previous (h : c.HasSelection) : c.previous.HasSelection := by
  rcases h.rowCount_eq_zero_or with hcount | ⟨i, hi, hc⟩
  · rw [previous_of_rowCount hcount]
    exact h
  · rw [← hc, previous_select hi]
    exact hasSelection_select (rowAfter_lt hi (Nat.sub_le _ _))

/-- **The row before the next one is the row itself.** -/
theorem previous_next (h : c.HasSelection) : c.next.previous = c := by
  rcases h.rowCount_eq_zero_or with hcount | ⟨i, hi, hc⟩
  · rw [next_of_rowCount hcount, previous_of_rowCount hcount]
  · have hrow : rowAfter c.rowCount (rowAfter c.rowCount i 1) (c.rowCount - 1) = i := by
      unfold rowAfter
      split <;> split <;> omega
    rw [← hc, next_select hi, previous_select (rowAfter_lt hi (Nat.one_le_of_lt hi)), hrow]

/-- **The row after the previous one is the row itself.** -/
theorem next_previous (h : c.HasSelection) : c.previous.next = c := by
  rcases h.rowCount_eq_zero_or with hcount | ⟨i, hi, hc⟩
  · rw [previous_of_rowCount hcount, next_of_rowCount hcount]
  · have hrow : rowAfter c.rowCount (rowAfter c.rowCount i (c.rowCount - 1)) 1 = i := by
      unfold rowAfter
      split <;> split <;> omega
    rw [← hc, previous_select hi, next_select (rowAfter_lt hi (Nat.sub_le _ _)), hrow]

/-! ### Rounds -/

/-- After up to a whole round, the row so many rows further down is selected. -/
theorem iterate_next_select (hi : i < c.rowCount) (hk : k ≤ c.rowCount) :
    next^[k] (c.select i) = c.select (rowAfter c.rowCount i k) := by
  induction k with
  | zero =>
    have hrow : rowAfter c.rowCount i 0 = i := if_pos hi
    rw [hrow]
    rfl
  | succ k ih =>
    have hrow : rowAfter c.rowCount (rowAfter c.rowCount i k) 1
        = rowAfter c.rowCount i (k + 1) := by
      unfold rowAfter
      split <;> split <;> split <;> omega
    rw [Function.iterate_succ_apply', ih (by omega), next_select (rowAfter_lt hi (by omega)), hrow]

/-- **A round through the next rows ends where it began.** -/
theorem iterate_next_rowCount (h : c.HasSelection) : next^[c.rowCount] c = c := by
  rcases h.rowCount_eq_zero_or with hcount | ⟨i, hi, hc⟩
  · rw [hcount]
    rfl
  · have hrow : rowAfter c.rowCount i c.rowCount = i := by
      unfold rowAfter
      split <;> omega
    have hround := iterate_next_select hi (Nat.le_refl c.rowCount)
    rw [hc, hrow, hc] at hround
    exact hround

theorem hasSelection_iterate_next (h : c.HasSelection) (k : ℕ) : (next^[k] c).HasSelection := by
  induction k with
  | zero => exact h
  | succ k ih =>
    rw [Function.iterate_succ_apply']
    exact hasSelection_next ih

/-- Going back is going on for the rest of the round. -/
theorem iterate_previous (h : c.HasSelection) (hk : k ≤ c.rowCount) :
    previous^[k] c = next^[c.rowCount - k] c := by
  induction k with
  | zero => exact (iterate_next_rowCount h).symm
  | succ k ih =>
    have hrest : c.rowCount - k = c.rowCount - (k + 1) + 1 := by omega
    rw [Function.iterate_succ_apply', ih (by omega), hrest, Function.iterate_succ_apply',
      previous_next (hasSelection_iterate_next h _)]

/-- **A round through the previous rows ends where it began.** -/
theorem iterate_previous_rowCount (h : c.HasSelection) : previous^[c.rowCount] c = c := by
  rw [iterate_previous h le_rfl, Nat.sub_self]
  rfl

/-- Every row is so many rows further down for one number below that of the rows. -/
theorem existsUnique_iterate_next (h : c.HasSelection) (hrow : row < c.rowCount) :
    ∃! k, k < c.rowCount ∧ (next^[k] c).selected = some row := by
  rcases h.rowCount_eq_zero_or with hcount | ⟨i, hi, hc⟩
  · omega
  -- which row is selected depends on the number of steps only
  have hselects : ∀ k < c.rowCount,
      ((next^[k] c).selected = some row ↔ rowAfter c.rowCount i k = row) := by
    intro k hk
    have hnext := iterate_next_select hi hk.le
    rw [hc] at hnext
    rw [hnext, selected_select, Option.some_inj]
  refine ⟨rowAfter c.rowCount row (c.rowCount - i), ⟨?_, ?_⟩, ?_⟩
  · exact rowAfter_lt hrow (Nat.sub_le _ _)
  · -- there: the rest of the round, and then on to the row
    rw [hselects _ (rowAfter_lt hrow (Nat.sub_le _ _))]
    unfold rowAfter
    split <;> split <;> omega
  · rintro k ⟨hk, hselected⟩
    rw [hselects k hk] at hselected
    unfold rowAfter at hselected ⊢
    split at hselected <;> split <;> omega

theorem rowCount_next (c : Console) : c.next.rowCount = c.rowCount := by
  unfold next
  split
  · rfl
  · split <;> rfl

/-- **A round through the next rows selects every row once.** -/
theorem existsUnique_next (h : c.HasSelection) (hrow : row < c.rowCount) :
    ∃! k, k < c.rowCount ∧ (next^[k + 1] c).selected = some row := by
  -- one step first, and then up to a round without its last step
  have hround := existsUnique_iterate_next (hasSelection_next h)
    (hrow.trans_eq (rowCount_next c).symm)
  rw [rowCount_next] at hround
  exact hround

/-- **A round through the previous rows selects every row once.** -/
theorem existsUnique_previous (h : c.HasSelection) (hrow : row < c.rowCount) :
    ∃! k, k < c.rowCount ∧ (previous^[k + 1] c).selected = some row := by
  -- back is forward for the rest of the round, so the numbers of steps are turned around
  have hback : ∀ k < c.rowCount, previous^[k + 1] c = next^[c.rowCount - (k + 1)] c :=
    fun k hk => iterate_previous h hk
  obtain ⟨k, ⟨hk, hselected⟩, hunique⟩ := existsUnique_iterate_next h hrow
  refine ⟨c.rowCount - (k + 1), ⟨by omega, ?_⟩, ?_⟩
  · have hrest : c.rowCount - (c.rowCount - (k + 1) + 1) = k := by omega
    rw [hback _ (by omega), hrest]
    exact hselected
  · rintro k' ⟨hk', hselected'⟩
    rw [hback k' hk'] at hselected'
    have hsame := hunique _ ⟨by omega, hselected'⟩
    omega

/-! ### Runs -/

theorem hasSelection_react (h : c.HasSelection) (now : DateTime) (request : Option Request) :
    (c.react now request).HasSelection := by
  cases request with
  | none => exact h
  | some request =>
    cases request with
    | showTasks title views => exact (hasSelection_setRows _ _).congr rfl rfl
    | hide | help | about | settings | exit => exact h.congr rfl rfl

theorem hasSelection_answer (h : c.HasSelection) (now : DateTime) (reply : Reply) :
    (c.answer now reply).HasSelection := by
  obtain ⟨status, title, hidden, hanswer⟩ := c.exists_answer_eq now reply
  rw [hanswer]
  refine hasSelection_react ?_ now reply.request
  exact h.congr rfl rfl

/-- A line that is answered keeps the selection, as does one that is not. -/
theorem hasSelection_submitLine (h : c.HasSelection) (input : List Char) (cursor : ℕ)
    (text : String) (now : DateTime) :
    ((({ c with input, cursor } : Console).submitLine text now).getD c).HasSelection := by
  unfold submitLine
  rcases c.session.run text now with _ | ⟨reply, session⟩
  · exact h
  · have hsession : ({ c with input, cursor, session } : Console).HasSelection := h.congr rfl rfl
    exact hasSelection_answer hsession now reply

theorem hasSelection_sync (h : c.HasSelection) (now : DateTime) : (c.sync now).HasSelection := by
  rcases c.sync_cases now with ⟨entries, hsync⟩ | hsync
  · rw [hsync]
    exact hasSelection_setRows _ _
  · rw [hsync]
    exact h.congr rfl rfl

/-- **Every event keeps the selection.** -/
theorem hasSelection_step (h : c.HasSelection) (event : Event) : (c.step event).HasSelection := by
  cases event with
  | line text now => exact hasSelection_submitLine h c.input c.cursor text now
  | submit now =>
    show ((c.submit now).getD c).HasSelection
    unfold submit
    dsimp only
    split
    · exact h.congr rfl rfl
    · exact hasSelection_submitLine h [] 0 _ now
  | sync now => exact hasSelection_sync h now
  | remind now =>
    rw [step_remind]
    split
    · exact h.congr rfl rfl
    · exact h
  | next => exact hasSelection_next h
  | previous => exact hasSelection_previous h
  | backspace =>
    show c.backspace.HasSelection
    unfold backspace
    split <;> exact h.congr rfl rfl
  | right =>
    show c.right.HasSelection
    unfold right
    split <;> exact h.congr rfl rfl
  | escape =>
    show c.escape.HasSelection
    unfold escape
    split <;> exact h.congr rfl rfl
  | typeChar ch => exact h.congr rfl rfl
  | left => exact h.congr rfl rfl
  | draw width height => exact h.congr rfl rfl
  | outside change => exact h.congr rfl rfl

theorem hasSelection_after (h : c.HasSelection) (events : List Event) :
    (c.after events).HasSelection := by
  induction events generalizing c with
  | nil => exact h
  | cons event rest ih => exact ih (hasSelection_step h event)

/-- **The selection is one of the rows and goes round through them.** After any run, no row is
selected exactly if there are no rows, and the selected one is among them. Selecting the next and
the previous row take each other back. As many steps in one direction as there are rows select every
row once, and then the one they began with. -/
theorem selection_goes_round (session : Session) (settings : Settings) (opened : DateTime)
    (events : List Event) :
    let c := (start session settings opened).after events
    let count := c.rows.entries.length
    (c.selected = none ↔ c.rows.entries = []) ∧ (∀ i ∈ c.selected, i < count) ∧
      c.next.previous = c ∧ c.previous.next = c ∧
      next^[count] c = c ∧ previous^[count] c = c ∧
      ∀ row < count,
        (∃! k, k < count ∧ (next^[k + 1] c).selected = some row) ∧
        ∃! k, k < count ∧ (previous^[k + 1] c).selected = some row := by
  intro c count
  have h : c.HasSelection := hasSelection_after (hasSelection_start session settings opened) events
  exact ⟨h.none_iff, h.lt, previous_next h, next_previous h, iterate_next_rowCount h,
    iterate_previous_rowCount h,
    fun row hrow => ⟨existsUnique_next h hrow, existsUnique_previous h hrow⟩⟩

end Agenda.Console

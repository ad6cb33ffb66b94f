import Agenda.Store.TaskList

/-!
# Drafts

A transaction works on a copy of the task list, its draft. The steps on a draft are made one after
the other; when one of them fails, the draft stays as the steps before it have left it.
-/

namespace Agenda

/-- Steps on the copy of a task list, with an answer or an error at the end. -/
abbrev Draft (α : Type) : Type :=
  EStateM StoreError TaskList α

namespace Draft

variable {α : Type}

/-- An operation that can fail as a step. -/
def step (f : TaskList → Except StoreError (α × TaskList)) : Draft α := fun l =>
  match f l with
  | .ok (answer, l) => .ok answer l
  | .error error => .error error l

/-- A question to the list, which leaves it as it is. -/
def ask (f : TaskList → Except StoreError α) : Draft α := fun l =>
  match f l with
  | .ok answer => .ok answer l
  | .error error => .error error l

@[simp] theorem run_step_ok {f : TaskList → Except StoreError (α × TaskList)} {l l' : TaskList}
    {answer : α} (h : f l = .ok (answer, l')) : (step f).run l = .ok answer l' := by
  simp [EStateM.run, step, h]

@[simp] theorem run_step_error {f : TaskList → Except StoreError (α × TaskList)} {l : TaskList}
    {error : StoreError} (h : f l = .error error) : (step f).run l = .error error l := by
  simp [EStateM.run, step, h]

@[simp] theorem run_ask_ok {f : TaskList → Except StoreError α} {l : TaskList} {answer : α}
    (h : f l = .ok answer) : (ask f).run l = .ok answer l := by
  simp [EStateM.run, ask, h]

@[simp] theorem run_ask_error {f : TaskList → Except StoreError α} {l : TaskList}
    {error : StoreError} (h : f l = .error error) : (ask f).run l = .error error l := by
  simp [EStateM.run, ask, h]

theorem run_step_eq_ok_iff {f : TaskList → Except StoreError (α × TaskList)} {l l' : TaskList}
    {answer : α} : (step f).run l = .ok answer l' ↔ f l = .ok (answer, l') := by
  cases h : f l with
  | ok r => simp [EStateM.run, step, h, Prod.ext_iff]
  | error error => simp [EStateM.run, step, h]

theorem run_ask_eq_ok_iff {f : TaskList → Except StoreError α} {l l' : TaskList} {answer : α} :
    (ask f).run l = .ok answer l' ↔ f l = .ok answer ∧ l' = l := by
  cases h : f l with
  | ok r => simp [EStateM.run, ask, h, eq_comm]
  | error error => simp [EStateM.run, ask, h]

/-- A draft made of two succeeds only when both do. -/
theorem run_bind_eq_ok_iff {β : Type} {first : Draft α} {second : α → Draft β} {l l' : TaskList}
    {answer : β} : (first >>= second).run l = .ok answer l' ↔
      ∃ a l₁, first.run l = .ok a l₁ ∧ (second a).run l₁ = .ok answer l' := by
  rw [EStateM.run_bind]
  cases first.run l with
  | ok a l₁ => simp [and_assoc]
  | error error l₁ => simp

end Draft

end Agenda

import Agenda.Proofs.Store.Repository
import Agenda.Proofs.TaskList
import Agenda.Store.Basic

/-!
# What a transaction can do

A transaction ends in one of three ways, which `Store.Transacted` lists: a step on the draft is
refused, the sorted draft cannot be saved, or the sorted draft is saved and put in the place of the
list. `Store.transacted` says that there is no other way, so that later proofs never look into
`Store.transaction`.
-/

namespace Agenda

variable {α : Type}

namespace Store

/-- The ways in which a transaction ends, each with its result. -/
inductive Transacted (draft : Draft α) (s : Store) : EStateM.Result StoreError Store α → Prop
  /-- A step on the draft has failed. -/
  | refused {error : StoreError} {l : TaskList} (hdraft : draft.run s.list = .error error l) :
    Transacted draft s (.error error s)
  /-- The draft could not be saved. -/
  | unsaved {answer : α} {l : TaskList} {error : StoreError} {repository : Repository}
    (hdraft : draft.run s.list = .ok answer l)
    (hsave : (Repository.save l.sorted.tasks).run s.repository = .error error repository) :
    Transacted draft s (.error error { s with repository })
  /-- The draft is saved and has become the list. -/
  | saved {answer : α} {l : TaskList} {repository : Repository}
    (hdraft : draft.run s.list = .ok answer l)
    (hsave : (Repository.save l.sorted.tasks).run s.repository = .ok () repository) :
    Transacted draft s (.ok answer { s with list := l.sorted, repository : Store }.post)

/-- **A transaction ends in one of the three ways.** -/
theorem transacted (draft : Draft α) (s : Store) :
    Transacted draft s ((transaction draft).run s) := by
  unfold EStateM.run transaction
  -- the draft first, and only a draft that succeeds comes to saving
  cases hdraft : draft.run s.list with
  | error error l => exact .refused hdraft
  | ok answer l =>
    cases hsave : (Repository.save l.sorted.tasks).run s.repository with
    | error error repository =>
      simp only [hsave]
      exact .unsaved hdraft hsave
    | ok _ repository =>
      simp only [hsave]
      exact .saved hdraft hsave

variable {draft : Draft α} {s s' : Store} {error : StoreError} {answer : α}

/-- A transaction whose draft fails fails in the same way and changes nothing. -/
theorem transaction_error {l : TaskList} (hdraft : draft.run s.list = .error error l) :
    (transaction draft).run s = .error error s := by
  unfold EStateM.run transaction
  rw [hdraft]

/-- A transaction whose draft succeeds and can be saved is carried out. -/
theorem transaction_ok {l : TaskList} {repository : Repository}
    (hdraft : draft.run s.list = .ok answer l)
    (hsave : (Repository.save l.sorted.tasks).run s.repository = .ok () repository) :
    (transaction draft).run s
      = .ok answer { s with list := l.sorted, repository : Store }.post := by
  have hcases := transacted draft s
  generalize (transaction draft).run s = result at hcases
  cases hcases with
  | refused hrefused =>
    rw [hdraft] at hrefused
    cases hrefused
  | unsaved hdraft' hunsaved =>
    rw [hdraft] at hdraft'
    cases hdraft'
    rw [hsave] at hunsaved
    cases hunsaved
  | saved hdraft' hsave' =>
    rw [hdraft] at hdraft'
    cases hdraft'
    rw [hsave] at hsave'
    cases hsave'
    rfl

/-- A transaction whose draft cannot be saved fails for the same reason. -/
theorem transaction_unsaved {l : TaskList} {repository : Repository}
    (hdraft : draft.run s.list = .ok answer l)
    (hsave : (Repository.save l.sorted.tasks).run s.repository = .error error repository) :
    (transaction draft).run s = .error error { s with repository } := by
  have hcases := transacted draft s
  generalize (transaction draft).run s = result at hcases
  cases hcases with
  | refused hrefused =>
    rw [hdraft] at hrefused
    cases hrefused
  | unsaved hdraft' hunsaved =>
    rw [hdraft] at hdraft'
    cases hdraft'
    rw [hsave] at hunsaved
    cases hunsaved
    rfl
  | saved hdraft' hsave' =>
    rw [hdraft] at hdraft'
    cases hdraft'
    rw [hsave] at hsave'
    cases hsave'

/-! ### Transactions that fail -/

/-- Two stores that differ in a temporary file at most. -/
structure Kept (s s' : Store) : Prop where
  eq : s' = { s with repository := s'.repository }
  repository : s.repository.Kept s'.repository

theorem Kept.refl (s : Store) : s.Kept s :=
  ⟨rfl, .refl s.repository⟩

theorem Kept.eq_of_isTidy (h : s.Kept s') (htidy : s.repository.IsTidy) : s' = s := by
  rw [h.eq, h.repository.eq_of_isTidy htidy]

/-- **A transaction that fails keeps all but the temporary file.** -/
theorem kept_of_transaction (h : (transaction draft).run s = .error error s') : s.Kept s' := by
  have hcases := transacted draft s
  rw [h] at hcases
  cases hcases with
  | refused => exact .refl s
  | unsaved _ hsave => exact ⟨rfl, Repository.kept_of_save hsave⟩

/-- Where saving works, a transaction fails before it comes to saving. -/
theorem eq_of_transaction_of_works (hworks : s.repository.Works)
    (h : (transaction draft).run s = .error error s') : s' = s := by
  have hcases := transacted draft s
  rw [h] at hcases
  cases hcases with
  | refused => rfl
  | unsaved _ hsave =>
    -- the save that has failed would have worked
    obtain ⟨repository, hworks⟩ := hworks _
    rw [hworks] at hsave
    cases hsave

/-- A transaction whose draft succeeds fails only when saving does. -/
theorem error_of_transaction {l : TaskList} (hdraft : draft.run s.list = .ok answer l)
    (h : (transaction draft).run s = .error error s') : ∃ reason, error = .writeFailed reason := by
  have hcases := transacted draft s
  rw [h] at hcases
  cases hcases with
  | refused hrefused =>
    rw [hdraft] at hrefused
    cases hrefused
  | unsaved _ hsave => exact Repository.error_of_save hsave

/-! ### Transactions that succeed -/

/-- On a repository that works a transaction whose draft succeeds is carried out. -/
theorem exists_transaction_ok {l : TaskList} (hworks : s.repository.Works)
    (hdraft : draft.run s.list = .ok answer l) :
    ∃ s', (transaction draft).run s = .ok answer s' ∧ s'.list = l.sorted := by
  obtain ⟨repository, hsave⟩ := hworks l.sorted.tasks
  exact ⟨_, transaction_ok hdraft hsave, rfl⟩

/-- After a successful transaction the list is the sorted draft, which is what was saved. -/
theorem exists_of_transaction_ok (h : (transaction draft).run s = .ok answer s') :
    ∃ l, draft.run s.list = .ok answer l ∧
      (Repository.save s'.list.tasks).run s.repository = .ok () s'.repository ∧
      s'.list = l.sorted ∧ s'.outbox = s.outbox ++ [Entry.number s'.list.tasks] := by
  have hcases := transacted draft s
  rw [h] at hcases
  cases hcases with
  | saved hdraft hsave => exact ⟨_, hdraft, hsave, rfl, rfl⟩

/-- A successful transaction on a list in memory leaves a copy of the list there. -/
theorem memory_of_transaction_ok {saved : List Task} {failing : Bool}
    (hmemory : s.repository = .memory saved failing)
    (h : (transaction draft).run s = .ok answer s') :
    s'.repository = .memory s'.list.tasks false := by
  obtain ⟨_, -, hsave, -, -⟩ := exists_of_transaction_ok h
  rw [hmemory] at hsave
  exact Repository.memory_of_save hsave

/-- After a successful transaction the next one can be saved too. -/
theorem works_of_transaction_ok (h : (transaction draft).run s = .ok answer s') :
    s'.repository.Works := by
  obtain ⟨_, -, hsave, -, -⟩ := exists_of_transaction_ok h
  exact Repository.works_of_save hsave

end Store

end Agenda

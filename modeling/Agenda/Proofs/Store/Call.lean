import Agenda.Proofs.Store.Order
import Agenda.Proofs.Store.Transaction

/-!
# Calls of a store

`Store.Call` has one constructor for each way to change a store, transactions with any steps among
them. `Call.Ran` lists how a call can end. On a repository in memory the list in the store and the
saved list have the same tasks at all times (`InStep`), and right after a transaction they are equal
and in order; `memory_agrees` says so for every run.
-/

namespace Agenda.Store

open scoped List

/-- The calls that change a store, or make saving fail or work again. -/
inductive Call : Type 1 where
  | add (t : Task)
  | insert (t : Task) (position : ℕ)
  | remove (position : ℕ)
  | pop
  | replace (position : ℕ) (t : Task)
  | clear
  | transaction {α : Type} (draft : Draft α)
  | sort (key : SortKey)
  | setFailing (failing : Bool)

namespace Call

/-- A call, without its answer. -/
def run : Call → EStateM StoreError Store Unit
  | add t => discard (Store.add t)
  | insert t position => discard (Store.insert t position)
  | remove position => discard (Store.remove position)
  | pop => discard Store.pop
  | replace position t => discard (Store.replace position t)
  | clear => discard Store.clear
  | transaction draft => discard (Store.transaction draft)
  | sort key => modify (·.sort key)
  | setFailing failing => modify (·.setFailing failing)

/-- The store after a call, whether the call has failed or not. -/
def after (s : Store) (c : Call) : Store :=
  match c.run.run s with
  | .ok _ s => s
  | .error _ s => s

/-- The store after calls. -/
def afterAll (s : Store) (calls : List Call) : Store :=
  calls.foldl after s

/-- Whether a call is a transaction. -/
def isTransaction : Call → Bool
  | sort _ => false
  | setFailing _ => false
  | _ => true

/-- Whether a call sends a snapshot when it succeeds. -/
def isPosted : Call → Bool
  | setFailing _ => false
  | _ => true

/-- How a call can end, with its result. -/
inductive Ran (c : Call) (s : Store) : EStateM.Result StoreError Store Unit → Prop
  /-- Its transaction fails. -/
  | failed {α : Type} {draft : Draft α} {error : StoreError} {s' : Store}
    (hrun : (Store.transaction draft).run s = .error error s') : Ran c s (.error error s')
  /-- Its transaction succeeds. -/
  | changed {α : Type} {draft : Draft α} {answer : α} {s' : Store} (hposted : c.isPosted = true)
    (hrun : (Store.transaction draft).run s = .ok answer s') : Ran c s (.ok () s')
  /-- It sorts the list. -/
  | sorted (key : SortKey) (hposted : c.isPosted = true) (hplain : c.isTransaction = false) :
    Ran c s (.ok () (s.sort key))
  /-- It makes saving fail or work again. -/
  | set (failing : Bool) (hposted : c.isPosted = false) (hplain : c.isTransaction = false) :
    Ran c s (.ok () (s.setFailing failing))

variable {c : Call} {s s' : Store} {error : StoreError}

theorem ran_transaction {α : Type} (draft : Draft α) (hposted : c.isPosted = true) :
    Ran c s ((discard (Store.transaction draft)).run s) := by
  cases hrun : (Store.transaction draft).run s with
  | ok answer s' =>
    have h : (discard (Store.transaction draft)).run s = .ok () s' := by
      show (EStateM.map (fun _ => ()) (Store.transaction draft)) s = _
      unfold EStateM.map
      rw [show Store.transaction draft s = .ok answer s' from hrun]
    rw [h]
    exact .changed hposted hrun
  | error error s' =>
    have h : (discard (Store.transaction draft)).run s = .error error s' := by
      show (EStateM.map (fun _ => ()) (Store.transaction draft)) s = _
      unfold EStateM.map
      rw [show Store.transaction draft s = .error error s' from hrun]
    rw [h]
    exact .failed hrun

/-- **A call ends in one of the ways that `Ran` lists.** -/
theorem ran (c : Call) (s : Store) : Ran c s (c.run.run s) := by
  cases c with
  | add t => exact ran_transaction (c := add t) (modify (·.push t)) rfl
  | insert t position =>
    exact ran_transaction (c := insert t position) (modify (·.insert position t)) rfl
  | remove position => exact ran_transaction (.step (·.remove position)) rfl
  | pop => exact ran_transaction (.step (·.pop)) rfl
  | replace position t => exact ran_transaction (.step (·.replace position t)) rfl
  | clear => exact ran_transaction (.step fun l => .ok l.clear) rfl
  | transaction draft => exact ran_transaction draft rfl
  | sort key => exact .sorted key rfl rfl
  | setFailing failing => exact .set failing rfl rfl

/-- **A call that fails keeps all but the temporary file.** -/
theorem kept_of_error (h : c.run.run s = .error error s') : s.Kept s' := by
  have hran := ran c s
  rw [h] at hran
  cases hran with
  | failed hrun => exact kept_of_transaction hrun

end Call

/-! ### Snapshots -/

/-- A snapshot shows tasks: one entry for each of them, in order and numbered from one on. -/
def Shows (snapshot : List Entry) (tasks : List Task) : Prop :=
  ∀ i : ℕ, snapshot[i]? = tasks[i]?.map fun t => (⟨i + 1, t⟩ : Entry)

theorem getElem?_numberFrom (id : ℕ) (tasks : List Task) (i : ℕ) :
    (Entry.numberFrom id tasks)[i]? = tasks[i]?.map fun t => (⟨id + i, t⟩ : Entry) := by
  induction tasks generalizing id i with
  | nil => rfl
  | cons t rest ih =>
    cases i with
    | zero => rfl
    | succ i =>
      rw [Entry.numberFrom, List.getElem?_cons_succ, List.getElem?_cons_succ, ih]
      have hid : id + 1 + i = id + (i + 1) := by omega
      rw [hid]

theorem shows_number (tasks : List Task) : Shows (Entry.number tasks) tasks := by
  intro i
  rw [Entry.number, getElem?_numberFrom, Nat.add_comm 1 i]

/-! ### A store in memory -/

/-- The store that is opened on tasks saved in memory. -/
def onMemory (saved : List Task) (failing : Bool) : Store :=
  { list := { tasks := saved }, repository := .memory saved failing }

/-- The saved list lies in memory and has the tasks of the store, perhaps in another order. -/
def InStep (s : Store) : Prop :=
  ∃ saved failing, s.repository = .memory saved failing ∧ s.list.tasks ~ saved

variable {s s' : Store} {c : Call}

/-- A successful transaction leaves the saved list equal to the list of the store, and in order. -/
theorem equal_of_transaction {α : Type} {draft : Draft α} {answer : α} (h : s.InStep)
    (hrun : (transaction draft).run s = .ok answer s') :
    s'.repository = .memory s'.list.tasks false ∧
      s'.list.tasks.Pairwise fun a b => a.saveKey ≤ b.saveKey := by
  obtain ⟨saved, failing, hrepository, -⟩ := h
  obtain ⟨l, -, -, hlist, -⟩ := exists_of_transaction_ok hrun
  refine ⟨memory_of_transaction_ok hrepository hrun, ?_⟩
  rw [hlist]
  exact pairwise_saveOrder l.tasks

theorem eq_of_error {error : StoreError} (h : s.InStep) (herror : c.run.run s = .error error s') :
    s' = s := by
  obtain ⟨saved, failing, hrepository, -⟩ := h
  -- there are no temporary files in memory
  refine (Call.kept_of_error herror).eq_of_isTidy ?_
  rw [hrepository]
  exact .memory saved failing

/-- **No call brings the list and the saved list out of step.** -/
theorem inStep_after (h : s.InStep) (c : Call) : (c.after s).InStep := by
  have hran := Call.ran c s
  unfold Call.after
  revert hran
  cases hrun : c.run.run s with
  | error error s' =>
    intro _
    dsimp only
    rw [eq_of_error h hrun]
    exact h
  | ok _ s' =>
    intro hran
    dsimp only
    cases hran with
    | changed _ htransaction =>
      exact ⟨_, false, (equal_of_transaction h htransaction).1, List.Perm.refl _⟩
    | sorted key =>
      -- a sort is not saved, so from now on the two may differ in their order
      obtain ⟨saved, failing, hrepository, hperm⟩ := h
      exact ⟨saved, failing, hrepository, (key.sort_perm s.list.tasks).trans hperm⟩
    | set failing =>
      obtain ⟨saved, old, hrepository, hperm⟩ := h
      refine ⟨saved, failing, ?_, hperm⟩
      rw [setFailing, hrepository]
      rfl

theorem inStep_afterAll (h : s.InStep) (calls : List Call) : (Call.afterAll s calls).InStep := by
  induction calls generalizing s with
  | nil => exact h
  | cons c rest ih => exact ih (inStep_after h c)

/-- What a call does to the saved list and to the outbox. -/
structure Call.Agrees (c : Call) (s : Store) : Prop where
  /-- A call that fails changes nothing and sends nothing. -/
  failed {error : StoreError} {s' : Store} (h : c.run.run s = .error error s') : s' = s
  /-- After a successful transaction the list is the saved one, and in order. -/
  saved {s' : Store} (htransaction : c.isTransaction = true) (h : c.run.run s = .ok () s') :
    s'.repository = .memory s'.list.tasks false ∧
      s'.list.tasks.Pairwise fun a b => a.saveKey ≤ b.saveKey
  /-- A successful transaction sends one snapshot, and so does a sort. -/
  posted {s' : Store} (hposted : c.isPosted = true) (h : c.run.run s = .ok () s') :
    ∃ snapshot, s'.outbox = s.outbox ++ [snapshot] ∧ Shows snapshot s'.list.tasks
  /-- Nothing else sends a snapshot. -/
  silent {s' : Store} (hsilent : c.isPosted = false) (h : c.run.run s = .ok () s') :
    s'.outbox = s.outbox

theorem agrees_of_inStep (h : s.InStep) (c : Call) : c.Agrees s := by
  have hran := Call.ran c s
  constructor
  · intro error s' herror
    exact eq_of_error h herror
  · intro s' htransaction hrun
    rw [hrun] at hran
    cases hran with
    | changed _ hchanged => exact equal_of_transaction h hchanged
    | sorted key _ hplain => simp [hplain] at htransaction
    | set failing _ hplain => simp [hplain] at htransaction
  · intro s' hposted hrun
    rw [hrun] at hran
    cases hran with
    | changed _ hchanged =>
      obtain ⟨_, -, -, -, houtbox⟩ := exists_of_transaction_ok hchanged
      exact ⟨_, houtbox, shows_number _⟩
    | sorted key => exact ⟨_, rfl, shows_number _⟩
    | set failing hsilent => simp [hsilent] at hposted
  · intro s' hsilent hrun
    rw [hrun] at hran
    cases hran with
    | changed hposted => simp [hposted] at hsilent
    | sorted key hposted => simp [hposted] at hsilent
    | set failing => rfl

/-- **The store, what is saved and what is sent agree over every run.** A store opened on tasks in
memory has, after any calls, the same tasks in its list as are saved; and whatever the next call is,
if it fails it changes nothing, if it is a transaction that succeeds the list is the saved one and
in order, and a snapshot of the list is sent exactly when the call is a transaction or a sort. -/
theorem memory_agrees (saved : List Task) (failing : Bool) (calls : List Call) :
    Store.open? (.memory saved failing) = .ok (onMemory saved failing) ∧
      (Call.afterAll (onMemory saved failing) calls).InStep ∧
      ∀ c : Call, c.Agrees (Call.afterAll (onMemory saved failing) calls) := by
  have hstart : (onMemory saved failing).InStep := ⟨saved, failing, rfl, List.Perm.refl _⟩
  have h := inStep_afterAll hstart calls
  exact ⟨rfl, h, agrees_of_inStep h⟩

end Agenda.Store

import Agenda.Command
import Agenda.Store.Basic

/-!
# History

The commands carried out in a session, as two stacks over one timeline: those that can be undone
and those that can be redone. A new command drops what could be redone. A command that cannot be
taken back or carried out again goes back to the stack it was on.
-/

namespace Agenda

/-- The commands that can be undone and those that can be redone, the next one first. -/
structure History where
  done : List Command := []
  undone : List Command := []
  deriving DecidableEq

namespace Command

/-- Carries a command out on the store. -/
def run (c : Command) : EStateM StoreError Store Unit :=
  Store.transaction c.apply

/-- Takes a command back on the store. -/
def undo (c : Command) : EStateM StoreError Store Unit :=
  Store.transaction c.revert

end Command

namespace History

/-- Carries out a new command. -/
def execute (c : Command) : EStateM StoreError (History × Store) Unit := fun (h, s) =>
  match c.run.run s with
  | .ok () s => .ok () ({ done := c :: h.done, undone := [] }, s)
  | .error error s => .error error (h, s)

/-- Takes back the latest command and answers it; nothing happens when there is none. -/
def undo : EStateM StoreError (History × Store) (Option Command) := fun (h, s) =>
  match h.done with
  | [] => .ok none (h, s)
  | c :: rest =>
    let h := { h with done := rest }
    match c.undo.run s with
    | .ok () s => .ok (some c) ({ h with undone := c :: h.undone }, s)
    | .error error s => .error error ({ h with done := c :: h.done }, s)

/-- Carries out the command taken back last and answers it; nothing happens when there is none. -/
def redo : EStateM StoreError (History × Store) (Option Command) := fun (h, s) =>
  match h.undone with
  | [] => .ok none (h, s)
  | c :: rest =>
    let h := { h with undone := rest }
    match c.run.run s with
    | .ok () s => .ok (some c) ({ h with done := c :: h.done }, s)
    | .error error s => .error error ({ h with undone := c :: h.undone }, s)

/-- Whether there is something to undo. -/
def canUndo (h : History) : Bool :=
  !h.done.isEmpty

/-- Whether there is something to redo. -/
def canRedo (h : History) : Bool :=
  !h.undone.isEmpty

end History

end Agenda

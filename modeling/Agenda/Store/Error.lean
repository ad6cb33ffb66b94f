/-!
# Failures of the task store
-/

namespace Agenda

/-- A reason for which the task store refuses an operation. -/
inductive StoreError where
  /-- The list could not be saved. -/
  | writeFailed (reason : String)
  /-- The list could not be loaded. -/
  | readFailed (reason : String)
  /-- The list has no task at a position, or not the expected one. -/
  | taskMoved (position : Nat)
  /-- There is no task to answer with. -/
  | noTask
  deriving DecidableEq, Repr

/-- The message that the user sees. -/
def StoreError.message : StoreError → String
  | writeFailed reason => "Could not save tasks: " ++ reason
  | readFailed reason => "Could not load tasks: " ++ reason
  | taskMoved position =>
    "Task list changed underneath a command (position " ++ toString position ++ ")."
  | noTask => "There are no upcoming tasks."

end Agenda

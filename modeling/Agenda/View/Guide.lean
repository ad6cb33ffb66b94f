/-!
# Texts about the program
-/

namespace Agenda.Guide

/-- The name of the program. -/
def programName : String := "Tasuke"

/-- The version of the program. -/
def version : String := "0.1.0"

/-- How to use the command language. -/
def help : String :=
  "add <description> [@ <time or period>] [#tag ...]\n" ++
  "    add buy milk @ 2pm - 3pm #shopping\n" ++
  "    do essay by fri\n" ++
  "edit <id> [description] [@ <time>] [#tag] [#-tag] [-@] [-#]\n" ++
  "remove <ids>          e.g. remove 2,4-6 / rm last\n" ++
  "done <ids> / undone <ids>\n" ++
  "show [done|undone|ongoing|overdue|today|tomorrow|#tag|<date>|<text>]\n" ++
  "undo / redo / clear / hide / help / about / settings / exit"

/-- What the program is. -/
def about : String :=
  programName ++ " " ++ version ++ "\n" ++
  "A task manager that understands plain sentences."

end Agenda.Guide

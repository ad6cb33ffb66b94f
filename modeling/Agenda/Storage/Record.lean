import Agenda.Json.Printer
import Agenda.Json.Reader
import Agenda.Task.Basic

/-!
# Task files

A task is stored as a record: its description, its beginning and end as seconds since 1970, its
mark and its tags. A record without a time, or with the time zero, has none. A task file is the
JSON array of the records in order.

Reading a record back drops what a task cannot hold: tags beyond the tenth and times outside the
calendar.
-/

namespace Agenda

/-- The stored form of a task. -/
structure Record where
  description : String
  starts : Option Int64 := none
  ends : Option Int64 := none
  done : Bool := false
  tags : List String := []
  deriving DecidableEq

namespace Record

/-- A date-time as seconds since 1970; a part of a second is dropped. -/
def epoch (t : DateTime) : Int64 :=
  Int64.ofInt t.epochSeconds

/-- The date-time that stored seconds stand for. -/
def time? (seconds : Int64) : Option DateTime :=
  if seconds = 0 then none else DateTime.ofEpochSeconds? seconds.toInt

/-- The stored form of a task. -/
def ofTask (t : Task) : Record where
  description := t.description
  starts := t.starts.map epoch
  ends := t.ends.map epoch
  done := t.done
  tags := t.tags.names

/-- The task that a record stands for. -/
def toTask (r : Record) : Task where
  description := r.description
  tags := TagSet.ofList r.tags
  starts := r.starts.bind time?
  ends := r.ends.bind time?
  done := r.done

/-- The member for a stored time, left out when there is none. -/
def timeMember (name : String) : Option Int64 → List (String × Json)
  | some seconds => [(name, .integer seconds.toInt)]
  | none => []

/-- The JSON object of a record. -/
def toJson (r : Record) : Json :=
  .object <|
    [("description", .text r.description)] ++ timeMember "begin" r.starts
      ++ timeMember "end" r.ends
      ++ [("done", .bool r.done), ("tags", .array (r.tags.map .text))]

/-- A stored time, which may also be null. -/
def timeField? : Json → Option (Option Int64)
  | .null => some none
  | value => value.int64?.map some

/-- The record that a JSON value holds. -/
def ofJson? (value : Json) : Option Record := do
  match ← value.fields? ["description", "begin", "end", "done", "tags"] with
  | [description, starts, ends, done, tags] =>
    return {
      description := ← (← description).text?
      starts := ← Json.fieldOr none timeField? starts
      ends := ← Json.fieldOr none timeField? ends
      done := ← Json.fieldOr false Json.bool? done
      tags := ← Json.fieldOr [] Json.texts? tags }
  | _ => none

end Record

namespace TaskFile

/-- The text of a task file. -/
def print (records : List Record) : String :=
  Json.print (.array (records.map Record.toJson))

/-- The records of a task file. -/
def parse? (bytes : Json.Bytes) : Option (List Record) := do
  match ← Json.parse? bytes with
  | .array items => items.mapM Record.ofJson?
  | _ => none

end TaskFile

end Agenda

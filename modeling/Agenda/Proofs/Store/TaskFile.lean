import Agenda.Proofs.Storage.Record
import Agenda.Proofs.Store.Repository

/-!
# Task files keep their records

Whatever the records of a task file are, they are read back from the file as they were written:
`records_read_back` follows them from the text that is printed for them, through the document that
it is, to the file that is put in the place of the old one. No text in a record can disturb this,
since quotes, backslashes and control characters are escaped, and no number, since all of 64 bits
are written out. Only tasks can lose something on the way to a record, and records on the way to a
task, which is said for each in `Agenda.Proofs.Storage.Loading`.
-/

namespace Agenda

namespace TaskFile

/-- **Task files are lossless.** The text that is written for records is the document of the array
of their objects, and these very records, in their order, are read back from it; and when a file has
been replaced by one with this text, they are what the file at its path holds, and their tasks are
loaded from there. -/
theorem records_read_back (records : List Record) :
    Json.parse? (print records).toUTF8.toList = some (.array (records.map Record.toJson)) ∧
    parse? (print records).toUTF8.toList = some records ∧
    ∀ (path temporary : String) (disk disk' : Disk),
      (FileLocation.replaceFile path temporary (print records).toUTF8.toList).run disk
        = .ok () disk' →
      (∃ contents, disk'.find? path = some (.file contents) ∧ parse? contents = some records) ∧
      ∀ writer, FileLocation.load ⟨disk', path, writer⟩ = .ok (records.map Record.toTask) := by
  refine ⟨json_print records, parse?_print records, ?_⟩
  intro path temporary disk disk' hrun
  have hfind := FileLocation.find?_of_replaceFile hrun
  refine ⟨⟨_, hfind, parse?_print records⟩, fun writer => ?_⟩
  simp only [FileLocation.load, hfind, parse?_print]

/-- Records with signs that have a meaning in JSON, and with the least of all numbers. -/
theorem odd_records_read_back :
    let records : List Record :=
      [{ description := "say \"tea\" \\ \x07\u2028", starts := some Int64.minValue, done := true
         tags := ["", "[", "\n"] },
       { description := "", ends := some 0 }]
    let disk : Disk := Disk.put {} ["data"] .folder
    ∃ disk', (FileLocation.replaceFile "/data/tasks.json" "/data/.tasks.json.tmp.1"
        (print records).toUTF8.toList).run disk = .ok () disk' ∧
      ∃ contents, disk'.find? "/data/tasks.json" = some (.file contents) ∧
        parse? contents = some records := by
  intro records disk
  have hrun : ∃ disk', (FileLocation.replaceFile "/data/tasks.json" "/data/.tasks.json.tmp.1"
      (print records).toUTF8.toList).run disk = .ok () disk' := ⟨_, rfl⟩
  obtain ⟨disk', hrun⟩ := hrun
  exact ⟨disk', hrun, ((records_read_back records).2.2 _ _ _ _ hrun).1⟩

end TaskFile

end Agenda

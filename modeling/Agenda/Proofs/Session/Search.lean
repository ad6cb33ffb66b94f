import Agenda.Proofs.Session.Answers
import Agenda.Proofs.Session.Shown

/-!
# Searching for a text

A request to show something that is no keyword, no tag and no day is a search for the text in it.
On its way to the filter the text is put into standard form with the rest of the line. So it arrives
as it was typed if no connector stands in it, and otherwise it arrives shorter than it was
(`ofText_search`, `length_found_lt`), as the text of another search or of no search at all.
-/

namespace Agenda

open Text

/-- A text that is neither a keyword nor a tag nor a day, and that has nothing to trim. -/
structure IsSearchText (text : String) (now : DateTime) : Prop where
  trimmed : trim text.toList = text.toList
  unsigned : ∀ c ∈ text.toList.head?, c ≠ '@' ∧ c ≠ '#'
  unnamed : Filter.named? (String.ofList (lower text.toList)) = none
  noDay : ∃ cause, Period.dayOfPhrase text now = .refused cause

/-! ### Filters -/

namespace Filter

variable {text found : String} {now : DateTime}

/-- **A text for a search that arrives at the filter is what is looked for.** -/
theorem ofText_of_isSearchText (h : IsSearchText text now) :
    ofText text now = .read (description text) := by
  have hsign : text.toList.dropWhile (· == '@') = text.toList := by
    cases htext : text.toList with
    | nil => rfl
    | cons c cs =>
      have hc := (h.unsigned c (by rw [htext]; rfl)).1
      exact List.dropWhile_cons_of_neg (by simpa using hc)
  obtain ⟨cause, hday⟩ := h.noDay
  unfold ofText
  dsimp only
  rw [hsign, h.trimmed, h.unnamed, String.ofList_toList, hday]
  dsimp only
  split
  · rename_i htext
    exact absurd rfl (h.unsigned '#' (by rw [htext]; rfl)).2
  · rename_i name htext
    exact absurd rfl (h.unsigned '#' (by rw [htext]; rfl)).2
  · rfl

/-- What is looked for is no longer than the text for it. -/
theorem length_le_of_ofText {s : String} (h : ofText s now = .read (description found)) :
    found.length ≤ s.length := by
  let text := trim (s.toList.dropWhile (· == '@'))
  have hlength : text.length ≤ s.length := by
    rw [← String.length_toList]
    exact ((trim_sublist _).trans (List.dropWhile_sublist _)).length_le
  -- only the last way through the filter is a search, and it looks for the whole text
  have hfound : found = String.ofList text := by
    unfold ofText at h
    dsimp only at h
    split at h
    · rename_i filter hnamed
      cases h
      exact absurd hnamed (by unfold named?; split <;> simp)
    split at h
    · cases h
    · cases h
    split at h
    · cases h
    · cases h
      rfl
    · cases h
  rwa [hfound, String.length_ofList]

end Filter

/-! ### Lines -/

namespace Action

variable {text found : String} {now : DateTime}

/-- A line that asks to show something is about the marked form of what follows. -/
theorem ofText_show (implicitAdd : Bool) (l : TaskList) (text : String) (now : DateTime) :
    ofText implicitAdd l ("show " ++ text) now = Action.show <$>
      Filter.ofText (String.ofList (trim (Line.marked (' ' :: text.toList)))) now :=
  ofText_verb implicitAdd l .show text now

/-- **Without a connector a text is looked for as it is.** -/
theorem ofText_search (h : IsSearchText text now)
    (hnone : Line.hasConnector (' ' :: text.toList) = false) (implicitAdd : Bool) (l : TaskList) :
    ofText implicitAdd l ("show " ++ text) now = .read (.show (.description text)) := by
  rw [ofText_show, Line.marked_of_not_hasConnector hnone, trim_space_cons, h.trimmed,
    String.ofList_toList, Filter.ofText_of_isSearchText h]
  rfl

/-- **With a connector in it a text is never looked for as it is.** -/
theorem length_found_lt {implicitAdd : Bool} {l : TaskList}
    (hsome : Line.hasConnector (' ' :: text.toList) = true)
    (hread : ofText implicitAdd l ("show " ++ text) now = .read (.show (.description found))) :
    found.length < text.length := by
  rw [ofText_show] at hread
  have hfilter : Filter.ofText (String.ofList (trim (Line.marked (' ' :: text.toList)))) now
      = .read (.description found) := by
    generalize Filter.ofText _ now = filter at hread
    cases filter with
    | read filter =>
      cases hread
      rfl
    | refused cause => cases hread
    | offCalendar => cases hread
  have hle := Filter.length_le_of_ofText hfilter
  have hlt := Line.length_marked_lt hsome
  -- the blank before the text goes too
  obtain ⟨rest, hrest⟩ : ∃ rest, Line.marked (' ' :: text.toList) = ' ' :: rest := by
    rw [Line.marked_space_cons]
    split <;> exact ⟨_, rfl⟩
  have htrim := (trim_sublist rest).length_le
  rw [hrest, trim_space_cons, String.length_ofList] at hle
  rw [hrest, List.length_cons, List.length_cons, String.length_toList] at hlt
  omega

end Action

/-! ### Sessions -/

namespace Session

variable {text : String} {now : DateTime}

/-- A search is answered where the calendar has the day after. -/
theorem exists_showing? (s : Session) (filter : Filter) (hafter : now.date.addDays? 1 ≠ none) :
    ∃ reply, s.showing? filter now = some reply := by
  refine Option.ne_none_iff_exists'.mp fun hnone => ?_
  obtain ⟨e, -, ⟨-, hlacks⟩, -⟩ := showing?_eq_none_iff.mp hnone
  exact hafter hlacks

/-- A phrase that is refused was read on a day that has a tomorrow. -/
theorem addDays?_ne_none_of_refused {cause : Refusal}
    (h : Period.dayOfPhrase text now = .refused cause) : now.date.addDays? 1 ≠ none := by
  intro hnone
  have hdays : Phrase.NamedDays.of? now.date = none := by
    unfold Phrase.NamedDays.of?
    rw [hnone]
    cases now.date.addDays? (-1) <;> rfl
  -- without a tomorrow, a phrase is not even refused
  have hoff : Period.ofSegments [text] now = .offCalendar := by
    unfold Period.ofSegments
    rw [hdays]
    rfl
  rw [Period.dayOfPhrase, hoff] at h
  cases h

/-- **A search lists the tasks whose descriptions contain its text, unless a connector stands in
it.** Without a connector behind a blank or at its beginning, the text after `show` is looked for as
it was typed, in any list, and the reply has exactly the entries whose descriptions contain it, case
disregarded. With a connector the line asks for what the marked text describes, and if that is a
search, it is one for a shorter text. -/
theorem search_finds_text (h : IsSearchText text now) :
    (Line.hasConnector (' ' :: text.toList) = false → ∀ s : Session, ∃ reply views,
      s.run ("show " ++ text) now = some (reply, s) ∧
      reply.request = some (.showTasks ("tasks containing \"" ++ text ++ "\"") views) ∧
      views.map View.toEntry = s.store.entries.filter fun e =>
        occursIn (lower text.toList) (lower e.task.description.toList)) ∧
    (Line.hasConnector (' ' :: text.toList) = true → ∀ implicitAdd l,
      Action.ofText implicitAdd l ("show " ++ text) now = Action.show <$>
        Filter.ofText (String.ofList (trim (Line.marked (' ' :: text.toList)))) now ∧
      ∀ found, Action.ofText implicitAdd l ("show " ++ text) now
        = .read (.show (.description found)) → found.length < text.length) := by
  refine ⟨fun hnone s => ?_, fun hsome implicitAdd l => ?_⟩
  · obtain ⟨cause, hday⟩ := h.noDay
    obtain ⟨reply, hshowing⟩ :=
      s.exists_showing? (.description text) (addDays?_ne_none_of_refused hday)
    obtain ⟨views, hrequest, hentries⟩ := toEntry_of_showing? hshowing
    refine ⟨reply, views, ?_, hrequest, ?_⟩
    · unfold run
      rw [Action.ofText_search h hnone]
      show (s.showing? (.description text) now).map _ = _
      rw [hshowing]
      rfl
    · rw [hentries]
      refine List.filter_congr fun e _ => ?_
      show (some (isWithin false text e.task.description) == some true) = _
      rw [isWithin, if_neg Bool.false_ne_true]
      cases occursIn (lower text.toList) (lower e.task.description.toList) <;> rfl
  · exact ⟨Action.ofText_show implicitAdd l text now, fun _ => Action.length_found_lt hsome⟩

/-- Of three tasks the one is shown whose description is the text in other letters. A word that only
begins like a connector is none. -/
theorem oat_milk_found_online :
    let now : DateTime := ⟨⟨20000, by decide, by decide⟩, .midnight⟩
    let online : Task := { description := "buy Oat milk online" }
    let s : Session :=
      { store := { list := { tasks := [{ description := "oat milk" }, online] }
                   repository := .memory [] false } }
    IsSearchText "oat MILK online" now ∧
      Line.hasConnector (' ' :: "oat MILK online".toList) = false ∧ ∃ reply views,
        s.run "show oat MILK online" now = some (reply, s) ∧
        reply.request = some (.showTasks "tasks containing \"oat MILK online\"" views) ∧
        views.map View.toEntry = [⟨2, online⟩] := by
  intro now online s
  have htext : IsSearchText "oat MILK online" now :=
    { trimmed := by decide +kernel
      unsigned := by
        have hhead : "oat MILK online".toList.head? = some 'o' := by decide +kernel
        intro c hc
        rw [hhead] at hc
        rw [← Option.some.inj hc]
        decide
      unnamed := by decide +kernel
      noDay := ⟨.unknownTime "oat", by decide +kernel⟩ }
  have hnone : Line.hasConnector (' ' :: "oat MILK online".toList) = false := by decide +kernel
  obtain ⟨reply, views, hrun, hrequest, hentries⟩ := (search_finds_text htext).1 hnone s
  have hfound : (s.store.entries.filter fun e => occursIn (lower "oat MILK online".toList)
      (lower e.task.description.toList)) = [⟨2, online⟩] := by decide +kernel
  exact ⟨htext, hnone, reply, views, hrun, hrequest, hentries.trans hfound⟩

/-- With a connector in it, the description of a task does not find the task. -/
theorem milk_not_found_at_home :
    let now : DateTime := ⟨⟨20000, by decide, by decide⟩, .midnight⟩
    let milk : Task := { description := "milk at home" }
    let s : Session :=
      { store := { list := { tasks := [milk] }, repository := .memory [] false } }
    IsSearchText milk.description now ∧
      occursIn (lower milk.description.toList) (lower milk.description.toList) = true ∧
      (s.run ("show " ++ milk.description) now).map (·.1.request)
        = some (some (.showTasks "tasks containing \"milk @ home\"" [])) := by
  intro now milk s
  have htext : IsSearchText milk.description now :=
    { trimmed := by decide +kernel
      unsigned := by
        have hhead : milk.description.toList.head? = some 'm' := by decide +kernel
        intro c hc
        rw [hhead] at hc
        rw [← Option.some.inj hc]
        decide
      unnamed := by decide +kernel
      noDay := ⟨.unknownTime "milk", by decide +kernel⟩ }
  exact ⟨htext, by decide +kernel, by decide +kernel⟩

end Session

end Agenda

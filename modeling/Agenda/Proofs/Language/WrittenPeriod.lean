import Agenda.Proofs.Language.ReadMentions
import Mathlib.Data.List.Permutation

/-!
# Periods are read as they are written

An endpoint is written with its date, its time of day or both, in any of their forms and in either
order, with filler words between them. A phrase that writes one endpoint is a deadline, and two
endpoints with a dash or the word `to` between them are a period: a date that one of them leaves
out is borrowed from the other, and the period is refused just when it would end before it starts
(`Period.written_period_read`).
-/

namespace Agenda

open Text Phrase

namespace Period

variable {today : Date} {days : NamedDays} {text before after joiner : List Char} {e : Endpoint}
  {ms : List Mention} {c : Char}

/-! ### Written endpoints -/

/-- The date and the time of day of an endpoint, as far as it has them. -/
def Endpoint.mentions (e : Endpoint) : List Mention :=
  (e.date.map Mention.date).toList ++ (e.time.map Mention.time).toList

/-- A text writes an endpoint that has a date or a time of day. -/
structure Endpoint.IsWritten (e : Endpoint) (today : Date) (text : List Char) : Prop where
  mentions_ne_nil : e.mentions ≠ []
  exists_written : ∃ ms, ms.Perm e.mentions ∧ Written today ms text

/-- **The order of a date and a time of day makes no difference.** -/
theorem Endpoint.foldlM_add_of_perm (h : ms.Perm e.mentions) :
    ms.foldlM Endpoint.add {} = .ok e := by
  obtain ⟨date, time⟩ := e
  cases date with
  | none =>
    cases time with
    | none =>
      obtain rfl := List.Perm.eq_nil h
      rfl
    | some t =>
      obtain rfl := List.Perm.eq_singleton h
      rfl
  | some d =>
    cases time with
    | none =>
      obtain rfl := List.Perm.eq_singleton h
      rfl
    | some t =>
      obtain rfl | rfl := List.perm_pair.mp h
      · rfl
      · rfl

/-- **The words of a written endpoint are read as this endpoint.** -/
theorem Endpoint.IsWritten.exists_words (hfig : today.HasFiguresAround)
    (hdays : NamedDays.of? today = some days) (h : e.IsWritten today text) :
    ∃ ws, TurnsInto days text ws ∧ ∀ out, words out = ws → Endpoint.ofText today out = .ok e := by
  obtain ⟨ms, hperm, hwritten⟩ := h.exists_written
  obtain ⟨ws, hturns, hreads⟩ := exists_words_of_written hfig hdays hwritten
  refine ⟨ws, hturns, fun out hout => ?_⟩
  have hms : ms ≠ [] := by
    rintro rfl
    exact h.mentions_ne_nil (List.Perm.nil_eq hperm).symm
  have hread := hreads.addWords_append {} [] fun _ hw => (Option.not_mem_none _ hw).elim
  rw [List.append_nil, Endpoint.foldlM_add_of_perm hperm] at hread
  unfold Endpoint.ofText
  rw [hout]
  -- the words are not empty, since something is mentioned
  split
  · exact absurd rfl (hreads.ne_nil hms)
  · exact hread

/-! ### Written periods -/

/-- What stands between the two ends of a period. -/
inductive IsJoiner : List Char → Prop
  | dash : IsJoiner ['-']
  | word {word : List Char} {c d : Char} (hc : IsSeparator c) (hword : IsSpelled "to" word)
    (hd : IsSeparator d) : IsJoiner (c :: (word ++ [d]))

/-- **A joiner becomes a dash**, perhaps between blanks. -/
theorem IsJoiner.exists_dash (h : IsJoiner joiner) (days : NamedDays) :
    ∃ left right, (∀ c ∈ left, isBlank c = true) ∧ (∀ c ∈ right, isBlank c = true) ∧
      ∀ rest, figuresOf days (joiner.map clean ++ rest)
        = left ++ '-' :: (right ++ figuresOf days rest) := by
  cases h with
  | dash =>
    have hdash : isWordChar '-' = false := by decide +kernel
    exact ⟨[], [], List.forall_mem_nil _, List.forall_mem_nil _, figuresOf_cons hdash⟩
  | @word word c d hc hword hd =>
    have hknown : "to" ∈ knownWords := by decide
    refine ⟨[clean c], [clean d], ?_, ?_, fun rest => ?_⟩
    · exact List.forall_mem_singleton.mpr (isBlank_clean hc)
    · exact List.forall_mem_singleton.mpr (isBlank_clean hd)
    · have hleft := isWordChar_of_isBlank (isBlank_clean hc)
      have hright := isWordChar_of_isBlank (isBlank_clean hd)
      rw [List.map_cons, List.map_append, List.cons_append, List.append_assoc, figuresOf_cons hleft,
        figuresOf_append_known hknown hword]
      · exact congrArg (fun text => clean c :: '-' :: text) (figuresOf_cons hright rest)
      · intro other hother
        rwa [← Option.some.inj hother]

theorem IsJoiner.isPlain (h : IsJoiner joiner) : ∀ c ∈ joiner, IsPlain c := by
  cases h with
  | dash => exact List.forall_mem_singleton.mpr (by decide)
  | word hc hword hd =>
    rw [List.forall_mem_cons, List.forall_mem_append, List.forall_mem_singleton]
    exact ⟨hc.isPlain, hword.isPlain (by decide), hd.isPlain⟩

/-- A joiner sets a word before it apart. -/
theorem IsJoiner.apart (h : IsJoiner joiner) (rest : List Char) :
    ∀ c ∈ (joiner.map clean ++ rest).head?, isWordChar c = false := by
  intro c hc
  cases h with
  | dash =>
    rw [← Option.some.inj hc]
    decide +kernel
  | word hsep _ _ =>
    rw [← Option.some.inj hc]
    exact isWordChar_of_isBlank (isBlank_clean hsep)

/-- **A written endpoint is a deadline.** -/
theorem ofFigures_of_isWritten {phrase : String} (hfig : today.HasFiguresAround)
    (hdays : NamedDays.of? today = some days) (h : e.IsWritten today phrase.toList) :
    ofFigures today phrase (inFigures days phrase) = .ok ⟨none, e.asEnd today⟩ := by
  obtain ⟨_, hturns, hread⟩ := h.exists_words hfig hdays
  obtain ⟨hdash, hwords⟩ := hturns.figuresOf_spec
  rw [inFigures_eq_figuresOf hturns.isPlain]
  exact ofFigures_of_single phrase hdash (hread _ hwords)

/-- **Two written endpoints are the ends of a period.** -/
theorem ofFigures_of_isWritten_pair {phrase : String} {e' : Endpoint}
    (hfig : today.HasFiguresAround) (hdays : NamedDays.of? today = some days)
    (h : e.IsWritten today before) (hjoiner : IsJoiner joiner) (h' : e'.IsWritten today after)
    (hphrase : phrase.toList = before ++ joiner ++ after) :
    ofFigures today phrase (inFigures days phrase) = between today e e' := by
  obtain ⟨_, hturns, hread⟩ := h.exists_words hfig hdays
  obtain ⟨out, hdash, hwords, hout⟩ := hturns.exists_out
  obtain ⟨_, hturns', hread'⟩ := h'.exists_words hfig hdays
  obtain ⟨hdash', hwords'⟩ := hturns'.figuresOf_spec
  obtain ⟨left, right, hleft, hright, hmiddle⟩ := hjoiner.exists_dash days
  have hplain : ∀ c ∈ phrase.toList, IsPlain c := by
    rw [hphrase, List.forall_mem_append, List.forall_mem_append]
    exact ⟨⟨hturns.isPlain, hjoiner.isPlain⟩, hturns'.isPlain⟩
  -- the three parts are put into figures one after the other
  have hfigures : inFigures days phrase
      = (out ++ left) ++ '-' :: (right ++ figuresOf days (after.map clean)) := by
    rw [inFigures_eq_figuresOf hplain, hphrase, List.map_append, List.map_append,
      List.append_assoc, hout _ (hjoiner.apart _), hmiddle, List.append_assoc]
  have hnone : ∀ blanks : List Char, (∀ c ∈ blanks, isBlank c = true) → '-' ∉ blanks :=
    fun blanks hblanks hmem => absurd (hblanks '-' hmem) (by decide)
  rw [hfigures]
  -- the only dash is that of the joiner, and the blanks around it are in no word
  refine ofFigures_of_pair phrase ?_ ?_ (hread _ ?_) (hread' _ ?_)
  · exact fun hmem => (List.mem_append.mp hmem).elim hdash (hnone left hleft)
  · exact fun hmem => (List.mem_append.mp hmem).elim (hnone right hright) hdash'
  · rw [words_append_of_blank hleft, hwords]
  · rw [words_of_blank_append hright, hwords']

/-- **A phrase means what it says.** One written endpoint is a deadline, and what it leaves out is
filled in with today and the end of the day. Two written endpoints with a dash or `to` between them
are a period: each has its own date or else that of the other one or else today, the beginning is at
its own time or else at midnight, and the end is at its own time or else at the end of the day; a
period that would end before it starts is refused with both. -/
theorem written_period_read {now : DateTime} (hfig : now.date.HasFiguresAround)
    {segments : List String} (hne : segments ≠ []) :
    (∀ e : Endpoint, e.IsWritten now.date (" ".intercalate segments).toList →
      ofSegments segments now
        = .read (some ⟨none, (e.date.getD now.date).at (e.time.getD .endOfDay)⟩)) ∧
    ∀ (e e' : Endpoint) (before joiner after : List Char), e.IsWritten now.date before →
      IsJoiner joiner → e'.IsWritten now.date after →
      (" ".intercalate segments).toList = before ++ joiner ++ after →
      let starts := ((e.date <|> e'.date).getD now.date).at (e.time.getD .midnight)
      let ends := ((e'.date <|> e.date).getD now.date).at (e'.time.getD .endOfDay)
      ofSegments segments now = if ends < starts then .refused (.endsBeforeStart starts ends)
        else .read (some ⟨some starts, ends⟩) := by
  obtain ⟨days, hdays⟩ : ∃ days, NamedDays.of? now.date = some days := by
    obtain ⟨_, hbefore, -⟩ := hfig.before
    obtain ⟨_, hafter, -⟩ := hfig.after
    exact NamedDays.exists_of? (by rw [hbefore]; rfl) (by rw [hafter]; rfl)
  have hempty : segments.isEmpty = false := List.isEmpty_eq_false_iff.mpr hne
  unfold ofSegments
  rw [hempty, if_neg Bool.false_ne_true, hdays]
  refine ⟨fun e h => ?_, fun e e' before joiner after h hjoiner h' hphrase => ?_⟩
  · simp only [ofFigures_of_isWritten hfig hdays h]
    rfl
  · simp only [ofFigures_of_isWritten_pair hfig hdays h hjoiner h' hphrase]
    unfold between Endpoint.asStart Endpoint.asEnd
    dsimp only
    split
    · rfl
    · rfl

/-- On a Friday, the beginning borrows the date of the next Friday from the end. -/
theorem half_past_nine_to_two_next_friday :
    let now : DateTime := ⟨⟨20000, by decide, by decide⟩, .midnight⟩
    let friday : Date := ⟨20007, by decide, by decide⟩
    let halfPastNine : TimeOfDay := ⟨34200 * nanosPerSecond, by decide⟩
    let two : TimeOfDay := ⟨50400 * nanosPerSecond, by decide⟩
    now.date.weekday = .friday ∧ now.date.HasFiguresAround ∧
      Endpoint.IsWritten ⟨none, some halfPastNine⟩ now.date "the 9:30am,".toList ∧
      Endpoint.IsWritten ⟨some friday, some two⟩ now.date "2 PM, next FRI".toList ∧
      ofSegments ["the 9:30am, to", "2 PM, next FRI"] now
        = .read (some ⟨some ⟨friday, halfPastNine⟩, ⟨friday, two⟩⟩) := by
  intro now friday halfPastNine two
  have hfig : now.date.HasFiguresAround :=
    ⟨⟨⟨19999, by decide, by decide⟩, by decide, by decide +kernel⟩,
      ⟨friday, by decide, by decide +kernel⟩⟩
  have hspace : IsSeparator ' ' := Or.inl (by decide)
  have hcomma : IsSeparator ',' := Or.inr rfl
  have hfirst : Endpoint.IsWritten ⟨none, some halfPastNine⟩ now.date "the 9:30am,".toList := by
    have hthe : Written now.date [] "the".toList :=
      .filler (by decide : "the" ∈ fillers) (by decide)
    have hhour : WritesShort 9 ['9'] := by decide +kernel
    have ham : IsSpelled Meridiem.am.word "am".toList := by decide
    have hclock : TimeOfDay.ofClock? (9 % 12 + (if Meridiem.am = .pm then 12 else 0))
        ((some 30).getD 0) 0 = some halfPastNine := by decide
    have htime : Written now.date [.time halfPastNine] "9:30am".toList :=
      .time (.half hhour (by decide) (List.forall_mem_nil _) ham hclock)
    exact ⟨by decide, _, .refl _, hthe.join hspace (htime.join hcomma .nil)⟩
  have hsecond : Endpoint.IsWritten ⟨some friday, some two⟩ now.date "2 PM, next FRI".toList := by
    have hhour : WritesShort 2 ['2'] := by decide +kernel
    have hpm : IsSpelled Meridiem.pm.word "PM".toList := by decide
    have hclock : TimeOfDay.ofClock? (2 % 12 + (if Meridiem.pm = .pm then 12 else 0))
        ((none : Option ℕ).getD 0) 0 = some two := by decide
    have htime : Written now.date [.time two] "2 PM".toList :=
      .time (.half hhour (by decide) (List.forall_mem_singleton.mpr hspace) hpm hclock)
    have hnext : Written now.date [] "next".toList :=
      .filler (by decide : "next" ∈ fillers) (by decide)
    have hentry : ("fri", DayName.next .friday) ∈ dayNames := by decide +kernel
    have hdate : Written now.date [.date friday] "FRI".toList :=
      .date (.named hentry ⟨by decide +kernel, by decide, by decide⟩ (by decide))
    -- the time of day stands before the date
    exact ⟨by decide, _, .swap _ _ _, htime.join hcomma
      (Written.nil.join hspace (hnext.join hspace hdate))⟩
  have hto : IsSpelled "to" "to".toList := by decide
  have hphrase : (" ".intercalate ["the 9:30am, to", "2 PM, next FRI"]).toList
      = "the 9:30am,".toList ++ " to ".toList ++ "2 PM, next FRI".toList := by decide
  have hread := (written_period_read hfig (List.cons_ne_nil _ _)).2 _ _ _ _ _ hfirst
    (.word hspace hto hspace) hsecond hphrase
  exact ⟨by decide +kernel, hfig, hfirst, hsecond, hread.trans (if_neg (by decide))⟩

end Period

end Agenda

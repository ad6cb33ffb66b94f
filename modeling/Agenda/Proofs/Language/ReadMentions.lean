import Agenda.Proofs.Language.Mentions

/-!
# Dates and times are read as they are written

The words of an endpoint are read from left to right, and a word looks at the next one at most,
for the half of the day. `ReadsAs` says of words what they add to an endpoint, whatever it holds
already and whatever words follow, as long as these do not begin with a half of the day. A text of
the grammar of `Written` becomes words that add just what the text mentions
(`exists_words_of_written`).
-/

namespace Agenda

open Text Phrase

variable {today d : Date} {t : TimeOfDay} {days : NamedDays} {text w w' next : List Char}
  {ws ws' rest : List (List Char)} {m : Mention} {ms ms' : List Mention} {hour : ℕ}
  {minute : Option ℕ}

/-! ### Numbers with signs between them -/

theorem IsFigure.isPlain {c : Char} (h : IsFigure c) : IsPlain c :=
  Or.inl (Nat.lt_of_le_of_lt h.2 (by decide))

theorem map_clean_of_isFigure (h : ∀ c ∈ w, IsFigure c) : w.map clean = w := by
  have hsame : ∀ c : Char, 47 ≤ c.toNat → c.toNat < 59 → clean c = c :=
    forall_of_codes (by decide)
  refine (List.map_congr_left fun c hc => ?_).trans (List.map_id w)
  exact hsame c (h c hc).1 (Nat.lt_succ_of_le (h c hc).2)

/-- **Figures that end in a digit stand for themselves.** -/
theorem IsNumeral.turnsInto (h : IsNumeral w) : TurnsInto days w [w] := by
  have hclean := map_clean_of_isFigure h.isFigure
  have hturns : TurnsInto days w [w.map clean] := by
    refine .of_figures (fun c hc => (h.isFigure c hc).isPlain) h.ne_nil ?_ ?_
    · rw [hclean]
      exact fun c hc => Or.inl (h.isFigure c hc)
    · rw [hclean]
      exact fun c hc => (isWordChar_of_isDigit (h.isDigit_last c hc)).1
  rwa [hclean] at hturns

/-! ### Dates -/

/-- **A written date becomes one word, and this word is read as the date.** -/
theorem WritesDate.exists_word (hfig : today.HasFiguresAround)
    (hdays : NamedDays.of? today = some days) (h : WritesDate today d text) :
    ∃ w, TurnsInto days text [w] ∧ Period.date? today w = some d := by
  -- a name stands for the figures of a date, and these are read like any others
  have hname : ∀ name : DayName, name.Means today d →
      days.dateOf name = d ∧ IsFigures d.slashed.toList ∧
        Period.date? today d.slashed.toList = some d := by
    intro name hd
    obtain ⟨hnonneg, hle⟩ := hfig.year_bounds hd
    exact ⟨(hd.eq_dateOf hdays).symm, Date.isFigures_slashed hnonneg hle,
      Period.date?_slashed today hnonneg hle⟩
  cases h with
  | full hday hmonth hnonneg hle =>
    refine ⟨_, (hday.isNumeral.append (by decide)
      (hmonth.isNumeral.append (by decide) isNumeral_padded)).turnsInto, ?_⟩
    refine Period.date?_of_year hday hmonth (fields_padded (by decide)) ?_
    rw [Period.year?_padded_four (by omega), Int.toNat_of_nonneg hnonneg]
  | short hday hmonth hyear hlt =>
    refine ⟨_, (hday.isNumeral.append (by decide)
      (hmonth.isNumeral.append (by decide) isNumeral_padded)).turnsInto, ?_⟩
    refine Period.date?_of_year hday hmonth (fields_padded (by decide)) ?_
    rw [Period.year?_padded_two hlt, hyear]
  | thisYear hday hmonth hyear =>
    exact ⟨_, (hday.isNumeral.append (by decide) hmonth.isNumeral).turnsInto,
      Period.date?_of_thisYear hday hmonth hyear⟩
  | @named entry _ hentry hd htext =>
    obtain ⟨hdate, hfigures, hread⟩ := hname entry.2 hd
    obtain ⟨hknown, hout⟩ := figures_dayName days entry hentry
    rw [hdate] at hout
    exact ⟨_, .of_known_figures hknown htext hout hfigures, hread⟩
  | dayAfterTomorrow hd htext =>
    obtain ⟨hdate, hfigures, hread⟩ := hname .afterTomorrow hd
    -- three words that become one, so this is not a known word by itself
    refine ⟨_, ⟨htext.isPlain (by decide), _, hfigures.dash_notMem,
      words_of_isWord hfigures.isWord, fun rest hrest => ?_⟩, hread⟩
    rw [htext.map_clean (by decide), ← hdate]
    exact figuresOf_dayAfterTomorrow hrest

/-! ### Times of day -/

theorem TimeOfDay.bounds_of_ofClock? {minute second : ℕ}
    (h : ofClock? hour minute second = some t) : hour < 24 ∧ minute < 60 ∧ second < 60 := by
  unfold ofClock? at h
  split at h
  · assumption
  · cases h

theorem Period.splitMeridiem_append (word : List Char) (half : Meridiem) :
    splitMeridiem (word ++ half.word.toList) = (word, some half) := by
  have hlength : (word ++ half.word.toList).length - 2 = word.length := by
    have htwo : half.word.toList.length = 2 := by cases half <;> rfl
    rw [List.length_append, htwo, Nat.add_sub_cancel]
  have hword : Meridiem.ofWord? half.word.toList = some half := by cases half <;> rfl
  unfold splitMeridiem
  rw [hlength, List.drop_left, hword, List.take_left]

/-! ### Words in turn -/

/-- The endpoint with what a part of a text mentions, unless it has that already. -/
def Period.Endpoint.add (e : Endpoint) : Mention → Except Refusal Endpoint
  | .date d => e.setDate d
  | .time t => e.setTime t

/-- Words do not begin with a half of the day. -/
def NoHalfFirst (ws : List (List Char)) : Prop :=
  ∀ w ∈ ws.head?, Period.Meridiem.ofWord? w = none

theorem NoHalfFirst.append (h : NoHalfFirst ws) (hrest : NoHalfFirst rest) :
    NoHalfFirst (ws ++ rest) := by
  cases ws with
  | nil => exact hrest
  | cons w ws => exact h

theorem noHalfFirst_of_ne (h : ∀ half : Period.Meridiem, w ≠ half.word.toList) :
    NoHalfFirst (w :: ws) := by
  intro word hword
  obtain rfl := Option.some.inj hword
  exact (if_neg (h .am)).trans (if_neg (h .pm))

/-- **Words add to an endpoint what a text mentions**, before whatever other words. -/
structure ReadsAs (today : Date) (ws : List (List Char)) (ms : List Mention) : Prop where
  ne_nil : ms ≠ [] → ws ≠ []
  noHalfFirst : NoHalfFirst ws
  addWords_append : ∀ (e : Period.Endpoint) (rest : List (List Char)), NoHalfFirst rest →
    e.addWords today (ws ++ rest)
      = ms.foldlM Period.Endpoint.add e >>= fun e => e.addWords today rest

theorem foldlM_add_singleton (e : Period.Endpoint) (m : Mention) :
    [m].foldlM Period.Endpoint.add e = e.add m := by
  rw [List.foldlM_cons]
  exact bind_pure _

namespace ReadsAs

theorem nil : ReadsAs today [] [] :=
  ⟨fun hne _ => hne rfl, fun _ hw => (Option.not_mem_none _ hw).elim, fun _ _ _ => rfl⟩

/-- **Words one after the other add what both add.** -/
theorem append (h : ReadsAs today ws ms) (h' : ReadsAs today ws' ms') :
    ReadsAs today (ws ++ ws') (ms ++ ms') := by
  refine ⟨fun hne hnil => ?_, h.noHalfFirst.append h'.noHalfFirst, fun e rest hrest => ?_⟩
  · obtain ⟨hws, hws'⟩ := List.append_eq_nil_iff.mp hnil
    refine hne (List.append_eq_nil_iff.mpr ⟨?_, ?_⟩)
    · exact by_contra fun hms => h.ne_nil hms hws
    · exact by_contra fun hms => h'.ne_nil hms hws'
  · rw [List.append_assoc, h.addWords_append e _ (h'.noHalfFirst.append hrest), List.foldlM_append,
      bind_assoc]
    exact bind_congr fun e => h'.addWords_append e rest hrest

/-- A word that is read as a date adds it. -/
theorem date (hd : Period.date? today w = some d) : ReadsAs today [w] [.date d] := by
  refine ⟨fun _ => List.cons_ne_nil _ _, noHalfFirst_of_ne ?_, fun e rest _ => ?_⟩
  · rintro half rfl
    cases half <;> cases hd
  · rw [foldlM_add_singleton, List.singleton_append, Period.Endpoint.addWords]
    simp only [hd]
    show _ = e.setDate d >>= _
    cases e.setDate d <;> rfl

variable {f : Period.Figures}

theorem ne_word_of_figures (hf : Period.figures? w = some f) (half : Period.Meridiem) :
    w ≠ half.word.toList := by
  rintro rfl
  cases half <;> cases hf

/-- A word that is read as a time of day adds it. -/
theorem time (hd : Period.date? today w = none) (hf : Period.figures? w = some f)
    (ht : f.time? = some t) : ReadsAs today [w] [.time t] := by
  refine ⟨fun _ => List.cons_ne_nil _ _, noHalfFirst_of_ne (ne_word_of_figures hf),
    fun e rest hrest => ?_⟩
  rw [foldlM_add_singleton, List.singleton_append, Period.Endpoint.addWords]
  show _ = e.setTime t >>= _
  simp only [hd, hf]
  -- the next word could be a half of the day, but no words begin with one
  split
  · rename_i next rest hmeridiem
    rw [hrest next rfl]
    simp only [ht]
    cases e.setTime t <;> rfl
  · simp only [ht]
    cases e.setTime t <;> rfl

/-- **A word is read as a time of day together with its half in the next word.** -/
theorem half {half : Period.Meridiem} (hd : Period.date? today w = none)
    (hf : Period.figures? w = some f) (hnone : f.meridiem = none)
    (hnext : Period.Meridiem.ofWord? next = some half)
    (ht : { f with meridiem := some half }.time? = some t) :
    ReadsAs today [w, next] [.time t] := by
  refine ⟨fun _ => List.cons_ne_nil _ _, noHalfFirst_of_ne (ne_word_of_figures hf),
    fun e rest _ => ?_⟩
  rw [foldlM_add_singleton]
  show Period.Endpoint.addWords today e (w :: next :: rest) = e.setTime t >>= _
  rw [Period.Endpoint.addWords]
  simp only [hd, hf, hnone, hnext, ht]
  cases e.setTime t <;> rfl

end ReadsAs

/-! ### Written times of day -/

/-- A clock time without a half of the day is read by a clock of 24 hours. -/
theorem ReadsAs.clock {minute : ℕ} (hhour : WritesShort hour w)
    (ht : TimeOfDay.ofClock? hour minute 0 = some t) :
    ReadsAs today [clockText w (some minute)] [.time t] := by
  have hminute : minute < 60 := (TimeOfDay.bounds_of_ofClock? ht).2.1
  have hread : Period.figures? (clockText w (some minute)) = some ⟨hour, some minute, none⟩ :=
    Period.figures?_clockText hhour hminute
  have hslash : '/' ∉ clockText w (some minute) :=
    notMem_clockText hhour (by decide) (by decide)
  refine .time (Period.date?_of_notMem today hslash) hread ?_
  unfold Period.Figures.time?
  dsimp only
  rw [Option.getD_some, if_pos Option.isSome_some, ht]

/-- **A half of the day stands for itself**, alone or behind figures. -/
theorem Phrase.TurnsInto.append_half {half : Period.Meridiem} (hw : ∀ c ∈ w, IsFigure c)
    (htext : IsSpelled half.word text) : TurnsInto days (w ++ text) [w ++ half.word.toList] := by
  have hhalf : (half.word.toList.all fun c => c.toNat < 128) = true ∧
      (half.word.toList.all fun c => c ∈ ['a', 'm', 'p']) = true ∧ ',' ∉ half.word.toList ∧
      half.word.toList.getLast? = some 'm' := by
    cases half <;> decide
  obtain ⟨hascii, hletters, hcomma, hlast⟩ := hhalf
  have hne : half.word.toList ≠ [] := by
    intro hnil
    rw [hnil] at hlast
    cases hlast
  have hclean : (w ++ text).map clean = w ++ half.word.toList := by
    rw [List.map_append, map_clean_of_isFigure hw, htext.map_clean hcomma]
  have hturns : TurnsInto days (w ++ text) [(w ++ text).map clean] := by
    refine .of_figures (List.forall_mem_append.mpr ⟨fun c hc => (hw c hc).isPlain,
      htext.isPlain hascii⟩) ?_ ?_ ?_
    · intro hnil
      rw [hnil] at hclean
      exact List.append_ne_nil_of_right_ne_nil w hne hclean.symm
    · rw [hclean]
      exact List.forall_mem_append.mpr ⟨fun c hc => Or.inl (hw c hc),
        fun c hc => Or.inr (of_decide_eq_true (List.all_eq_true.mp hletters c hc))⟩
    · rw [hclean, List.getLast?_append_of_ne_nil _ hne, hlast]
      intro c hc
      rw [← Option.some.inj hc]
      decide +kernel
  rwa [hclean] at hturns

/-- Separators before a part stand for nothing. -/
theorem Phrase.TurnsInto.separators_append {gap : List Char} (hgap : ∀ c ∈ gap, IsSeparator c)
    (h : TurnsInto days text ws) : TurnsInto days (gap ++ text) ws := by
  induction gap with
  | nil => exact h
  | cons c gap ih =>
    obtain ⟨hc, hgap⟩ := List.forall_mem_cons.mp hgap
    exact .join .nil hc (ih hgap)

/-- **A clock time becomes one word or two together with its half of the day**, and they are read by
a clock of twelve hours. -/
theorem exists_words_of_half {half : Period.Meridiem} {gap : List Char}
    (hhour : WritesShort hour w) (hminute : minute.getD 0 < 60) (hgap : ∀ c ∈ gap, IsSeparator c)
    (htext : IsSpelled half.word text)
    (ht : Period.Figures.time? ⟨hour, minute, some half⟩ = some t) :
    ∃ ws, TurnsInto days (clockText w minute ++ (gap ++ text)) ws ∧ ReadsAs today ws [.time t] := by
  have hnumeral : IsNumeral (clockText w minute) := isNumeral_clockText hhour
  have hslash : '/' ∉ clockText w minute := notMem_clockText hhour (by decide) (by decide)
  cases gap with
  | nil =>
    -- without a gap, the figures and the half of the day are one word
    refine ⟨_, .append_half hnumeral.isFigure htext, .time (Period.date?_of_notMem today ?_)
      (Period.figures?_of_split hhour hminute (Period.splitMeridiem_append _ half)) ht⟩
    have hletters : '/' ∉ half.word.toList := by cases half <;> decide
    exact fun hmem => (List.mem_append.mp hmem).elim hslash hletters
  | cons c gap =>
    -- with a gap, the half of the day is the next word
    obtain ⟨hc, hgap⟩ := List.forall_mem_cons.mp hgap
    have hword : Period.Meridiem.ofWord? half.word.toList = some half := by cases half <;> rfl
    have hhalf : TurnsInto days text [half.word.toList] :=
      .append_half (List.forall_mem_nil _) htext
    exact ⟨_, hnumeral.turnsInto.join hc (.separators_append hgap hhalf),
      .half (Period.date?_of_notMem today hslash) (Period.figures?_clockText hhour hminute) rfl
        hword ht⟩

/-- **The words of a written time of day are read as this time.** -/
theorem WritesTime.exists_words (h : WritesTime t text) (today : Date) (days : NamedDays) :
    ∃ ws, TurnsInto days text ws ∧ ReadsAs today ws [.time t] := by
  cases h with
  | clock hhour ht => exact ⟨_, (isNumeral_clockText hhour).turnsInto, .clock hhour ht⟩
  | half hhour hbounds hgap htext ht =>
    have hminute := (TimeOfDay.bounds_of_ofClock? ht).2.1
    refine exists_words_of_half hhour hminute hgap htext ?_
    unfold Period.Figures.time?
    dsimp only
    rw [if_pos hbounds, ht]
  | @named entry _ hentry ht htext =>
    have hhour : entry.2.1 < 24 := (TimeOfDay.bounds_of_ofClock? ht).1
    have hwrites : WritesShort entry.2.1 (padded 2 entry.2.1).toList :=
      writesShort_padded (by omega)
    have hnumeral : IsNumeral (clockText (padded 2 entry.2.1).toList (some entry.2.2)) :=
      isNumeral_clockText hwrites
    obtain ⟨hknown, hout⟩ := figures_timeName days entry hentry
    exact ⟨_, .of_known_figures hknown htext hout hnumeral.toIsFigures, .clock hwrites ht⟩

/-! ### Written phrases -/

/-- A filler word stands for nothing. -/
theorem Phrase.TurnsInto.filler {name : String} (hname : name ∈ fillers)
    (htext : IsSpelled name text) : TurnsInto days text [] := by
  have hknown : ∀ name ∈ fillers, name ∈ knownWords := by decide
  have hblank : figures days name.toList = [' '] := by
    unfold figures
    rw [String.ofList_toList]
    exact if_pos hname
  exact .of_known (hknown name hname) htext hblank (by decide)

/-- **The words of a text add to an endpoint what the text mentions.** -/
theorem exists_words_of_written (hfig : today.HasFiguresAround)
    (hdays : NamedDays.of? today = some days) (h : Written today ms text) :
    ∃ ws, TurnsInto days text ws ∧ ReadsAs today ws ms := by
  induction h with
  | nil => exact ⟨[], .nil, .nil⟩
  | filler hname htext => exact ⟨[], .filler hname htext, .nil⟩
  | date hd =>
    obtain ⟨w, hturns, hread⟩ := hd.exists_word hfig hdays
    exact ⟨[w], hturns, .date hread⟩
  | time ht => exact ht.exists_words today days
  | join _ hc _ ih ih' =>
    obtain ⟨ws, hturns, hreads⟩ := ih
    obtain ⟨ws', hturns', hreads'⟩ := ih'
    exact ⟨ws ++ ws', hturns.join hc hturns', hreads.append hreads'⟩

end Agenda

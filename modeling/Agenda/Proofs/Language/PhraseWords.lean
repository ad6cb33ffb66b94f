import Agenda.Proofs.Language.Figures
import Agenda.Proofs.Text.Runs

/-!
# Phrases word by word

Words are put into figures run by run, and a run ends where its word ends. So the figures of a
phrase are those of its parts one after the other, provided that a part that ends in a word is not
followed by more of the same word (`figuresOf_append_word`, `figuresOf_cons`). `TurnsInto` says so
of a part as a whole: whatever follows it, there is a fixed list of words that stands for it.
Parts with a blank or a comma between them turn into the words of both (`TurnsInto.join`).
-/

namespace Agenda

open Text

namespace Phrase

variable {days : NamedDays} {w text rest first second : List Char} {c : Char}
  {ws ws' : List (List Char)}

/-! ### Figures of runs -/

/-- A character in lower case, and a blank for a comma. -/
def clean (c : Char) : Char :=
  if c.toLower = ',' then ' ' else c.toLower

/-- What a text in lower case becomes in figures. -/
def figuresOf (days : NamedDays) (text : List Char) : List Char :=
  (substitute days (runs text)).flatten

/-- A phrase of ASCII characters and blanks is put into figures letter by letter. -/
theorem inFigures_eq_figuresOf {phrase : String} (h : ∀ c ∈ phrase.toList, IsPlain c) :
    inFigures days phrase = figuresOf days (phrase.toList.map clean) := by
  unfold inFigures figuresOf
  dsimp only
  rw [lower_of_isPlain h, List.map_map]
  rfl

theorem figuresOf_nil : figuresOf days [] = [] := rfl

/-- A run that begins with no word character stands for itself. -/
theorem figures_cons (hc : isWordChar c = false) (run : List Char) :
    figures days (c :: run) = c :: run := by
  refine figures_of_notMem fun hmem => ?_
  have hfirst : ∀ name ∈ knownWords, name.toList.head?.all isWordChar = true := by decide +kernel
  have hall := hfirst _ hmem
  rw [String.toList_ofList, List.head?_cons, Option.all_some, hc] at hall
  cases hall

theorem substitute_cons_cons (hc : isWordChar c = false) (run : List Char)
    (more : List (List Char)) :
    (substitute days ((c :: run) :: more)).flatten
      = c :: (run ++ (substitute days more).flatten) := by
  have hday : c :: run ≠ "day".toList := by
    intro heq
    obtain rfl : c = 'd' := (List.cons.inj heq).1
    revert hc
    decide +kernel
  rw [substitute_cons hday, figures_cons hc]
  rfl

/-- **A character outside of words stays.** -/
theorem figuresOf_cons (hc : isWordChar c = false) (text : List Char) :
    figuresOf days (c :: text) = c :: figuresOf days text := by
  unfold figuresOf
  cases text with
  | nil => exact substitute_cons_cons hc [] []
  | cons d ds =>
    obtain ⟨run, more, hruns⟩ := exists_runs_cons d ds
    rw [runs, hruns]
    dsimp only
    -- the character joins the first run or stands before it, and this run stays either way
    split
    · rename_i hsame
      have hd : isWordChar d = false := by
        rw [← eq_of_beq hsame]
        exact hc
      rw [substitute_cons_cons hc, substitute_cons_cons hd]
      rfl
    · rw [substitute_cons_cons hc]
      rfl

/-- **A whole word becomes its figures.** -/
theorem figuresOf_append_word (hne : w ≠ []) (hw : ∀ c ∈ w, isWordChar c = true)
    (hday : w ≠ "day".toList) (hrest : ∀ c ∈ rest.head?, isWordChar c = false) :
    figuresOf days (w ++ rest) = figures days w ++ figuresOf days rest := by
  unfold figuresOf
  rw [runs_append hne hw hrest, substitute_cons hday, List.flatten_cons]

/-- The three words for the date after tomorrow become this date. -/
theorem figuresOf_dayAfterTomorrow (hrest : ∀ c ∈ rest.head?, isWordChar c = false) :
    figuresOf days ("day after tomorrow".toList ++ rest)
      = days.afterTomorrow.slashed.toList ++ figuresOf days rest := by
  -- these three words are five runs, and the last one ends with the text
  have hphrase : runs "day after tomorrow".toList = dayAfterTomorrow := by decide +kernel
  have hapart : ∀ c ∈ "day after tomorrow".toList.getLast?, ∀ d ∈ rest.head?,
      isWordChar c ≠ isWordChar d := by
    intro c hc d hd
    obtain rfl : 'w' = c := Option.some.inj hc
    rw [hrest d hd]
    decide +kernel
  unfold figuresOf
  rw [runs_append_of_apart hapart, hphrase]
  rfl

/-- **Figures stay**, also with the half of the day behind them. -/
theorem figuresOf_append_figures (hw : ∀ c ∈ w, IsFigure c ∨ c ∈ ['a', 'm', 'p'])
    (hlast : ∀ c ∈ w.getLast?, isWordChar c = true)
    (hrest : ∀ c ∈ rest.head?, isWordChar c = false) :
    figuresOf days (w ++ rest) = w ++ figuresOf days rest := by
  have hapart : ∀ c ∈ w.getLast?, ∀ d ∈ rest.head?, isWordChar c ≠ isWordChar d := by
    intro c hc d hd
    rw [hlast c hc, hrest d hd]
    decide
  have hruns : ∀ run ∈ runs w, ∀ c ∈ run, c.toNat < 65 ∨ c ∈ ['a', 'm', 'p'] := by
    intro run hrun c hc
    refine (hw c (mem_of_mem_runs hrun hc)).imp_left fun hfigure => ?_
    have := hfigure.2
    omega
  unfold figuresOf
  rw [runs_append_of_apart hapart, substitute_append hruns, List.flatten_append, flatten_runs]

/-! ### Parts of a phrase -/

/-- A character that separates words of a phrase. -/
def IsSeparator (c : Char) : Prop :=
  isBlank c = true ∨ c = ','

/-- A part of a phrase stands for some words, whatever follows it. -/
structure TurnsInto (days : NamedDays) (text : List Char) (ws : List (List Char)) : Prop where
  isPlain : ∀ c ∈ text, IsPlain c
  exists_out : ∃ out, '-' ∉ out ∧ words out = ws ∧
    ∀ rest, (∀ c ∈ rest.head?, isWordChar c = false) →
      figuresOf days (text.map clean ++ rest) = out ++ figuresOf days rest

/-- A part that is a whole phrase becomes its words, without a dash. -/
theorem TurnsInto.figuresOf_spec (h : TurnsInto days text ws) :
    '-' ∉ figuresOf days (text.map clean) ∧ words (figuresOf days (text.map clean)) = ws := by
  obtain ⟨out, hdash, hwords, hout⟩ := h.exists_out
  have hall := hout [] fun _ hc => (Option.not_mem_none _ hc).elim
  rw [figuresOf_nil, List.append_nil, List.append_nil] at hall
  rw [hall]
  exact ⟨hdash, hwords⟩

theorem isBlank_clean (hc : IsSeparator c) : isBlank (clean c) = true := by
  rcases hc with hblank | rfl
  · unfold clean
    rw [toLower_of_isBlank hblank]
    split
    · exact isBlank_space
    · exact hblank
  · decide

theorem IsSeparator.isPlain (hc : IsSeparator c) : IsPlain c := by
  rcases hc with hblank | rfl
  · exact Or.inr hblank
  · decide

/-- Nothing stands for no words. -/
theorem TurnsInto.nil : TurnsInto days [] [] :=
  ⟨List.forall_mem_nil _, [], List.not_mem_nil, rfl, fun _ _ => rfl⟩

/-- **Separated parts stand for the words of both.** -/
theorem TurnsInto.join (h : TurnsInto days first ws) (hc : IsSeparator c)
    (h' : TurnsInto days second ws') : TurnsInto days (first ++ c :: second) (ws ++ ws') := by
  obtain ⟨out, hdash, rfl, hout⟩ := h.exists_out
  obtain ⟨out', hdash', rfl, hout'⟩ := h'.exists_out
  have hblank := isBlank_clean hc
  have hword := isWordChar_of_isBlank hblank
  refine ⟨?_, out ++ clean c :: out', ?_, words_append_cons hblank out out', fun rest hrest => ?_⟩
  · exact List.forall_mem_append.mpr ⟨h.isPlain, List.forall_mem_cons.mpr ⟨hc.isPlain, h'.isPlain⟩⟩
  · have hne : '-' ≠ clean c := by
      intro heq
      rw [← heq] at hblank
      revert hblank
      decide
    simp [hdash, hdash', hne]
  · -- the separator sets the first part apart, so both parts become what they do alone
    have hfirst : ∀ d ∈ (clean c :: (second.map clean ++ rest)).head?, isWordChar d = false := by
      intro d hd
      rw [← Option.some.inj hd]
      exact hword
    rw [List.map_append, List.map_cons, List.append_assoc, List.cons_append, hout _ hfirst,
      figuresOf_cons hword, hout' rest hrest, List.append_assoc, List.cons_append]

/-- **Figures stand for themselves.** -/
theorem TurnsInto.of_figures (hplain : ∀ c ∈ text, IsPlain c) (hne : text ≠ [])
    (hfigures : ∀ c ∈ text.map clean, IsFigure c ∨ c ∈ ['a', 'm', 'p'])
    (hlast : ∀ c ∈ (text.map clean).getLast?, isWordChar c = true) :
    TurnsInto days text [text.map clean] := by
  have hchar : ∀ c, IsFigure c ∨ c ∈ ['a', 'm', 'p'] → isBlank c = false ∧ '-' ≠ c := by
    rintro c (hfigure | hletter)
    · exact ⟨hfigure.not_blank, (hfigure.ne (by decide)).symm⟩
    · rw [List.mem_cons, List.mem_cons, List.mem_singleton] at hletter
      rcases hletter with rfl | rfl | rfl <;> decide
  have hword : IsWord (text.map clean) :=
    ⟨by simpa using hne, fun c hc => (hchar c (hfigures c hc)).1⟩
  refine ⟨hplain, _, fun hdash => ?_, words_of_isWord hword, fun rest hrest =>
    figuresOf_append_figures hfigures hlast hrest⟩
  exact (hchar _ (hfigures _ hdash)).2 rfl

/-! ### Names in any letters -/

/-- A name, in capital letters or not. -/
def IsSpelled (name : String) (text : List Char) : Prop :=
  text.map Char.toLower = name.toList

instance (name : String) (text : List Char) : Decidable (IsSpelled name text) :=
  inferInstanceAs (Decidable (_ = _))

theorem toNat_lt_of_toLower (h : c.toLower.toNat < 128) : c.toNat < 128 := by
  unfold Char.toLower at h
  split at h
  · rename_i hcapital
    have hhi : c.toNat ≤ 90 := hcapital.2
    omega
  · exact h

theorem IsSpelled.isPlain {name : String} (h : IsSpelled name text)
    (hname : (name.toList.all fun c => c.toNat < 128) = true) : ∀ c ∈ text, IsPlain c := by
  intro c hc
  have hmem : c.toLower ∈ name.toList := by
    rw [← h]
    exact List.mem_map_of_mem hc
  exact Or.inl (toNat_lt_of_toLower (of_decide_eq_true (List.all_eq_true.mp hname _ hmem)))

theorem IsSpelled.map_clean {name : String} (h : IsSpelled name text)
    (hname : ',' ∉ name.toList) : text.map clean = name.toList := by
  rw [← h]
  refine List.map_congr_left fun c hc => if_neg fun hcomma => hname ?_
  rw [← h, ← hcomma]
  exact List.mem_map_of_mem hc

/-- What all known words have in common. -/
theorem knownWords_spec : ∀ name ∈ knownWords, name.toList ≠ [] ∧ name.toList ≠ "day".toList ∧
    name.toList.all isWordChar = true ∧ (name.toList.all fun c => c.toNat < 128) = true ∧
      ',' ∉ name.toList := by
  decide +kernel

/-- A known word becomes its figures, whatever letters it is written in. -/
theorem figuresOf_append_known {name : String} (hname : name ∈ knownWords)
    (h : IsSpelled name text) (hrest : ∀ c ∈ rest.head?, isWordChar c = false) :
    figuresOf days (text.map clean ++ rest) = figures days name.toList ++ figuresOf days rest := by
  obtain ⟨hne, hday, hword, -, hcomma⟩ := knownWords_spec name hname
  rw [h.map_clean hcomma]
  exact figuresOf_append_word hne (List.all_eq_true.mp hword) hday hrest

/-- **A known word stands for the words of its figures.** -/
theorem TurnsInto.of_known {name : String} {out : List Char} (hname : name ∈ knownWords)
    (h : IsSpelled name text) (hout : figures days name.toList = out) (hdash : '-' ∉ out) :
    TurnsInto days text (words out) := by
  obtain ⟨-, -, -, hascii, -⟩ := knownWords_spec name hname
  refine ⟨h.isPlain hascii, out, hdash, rfl, fun rest hrest => ?_⟩
  rw [figuresOf_append_known hname h hrest, hout]

theorem TurnsInto.of_known_figures {name : String} {out : List Char} (hname : name ∈ knownWords)
    (h : IsSpelled name text) (hout : figures days name.toList = out) (hfigures : IsFigures out) :
    TurnsInto days text [out] := by
  have hturns := TurnsInto.of_known hname h hout hfigures.dash_notMem
  rwa [words_of_isWord hfigures.isWord] at hturns

end Phrase

end Agenda

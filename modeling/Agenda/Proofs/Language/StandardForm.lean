import Agenda.Language.Line
import Agenda.Proofs.Text.Runs

/-!
# The standard form of any line

`Line.standardForm` finds the words of a text by cutting it into runs. Read from left to right, it
does two things: the first word, if it is a synonym, becomes the command word (`named_cases`), and a
blank with a connector behind it becomes ` @` (`marked`). `standardForm_cases` says so for every
text. Neither makes another synonym or connector out of what is left, so the lines that stay as they
are (`standardForm_eq_self_iff`) are those with nothing to replace (`IsStandard`), and every line
becomes one of them (`isStandard_standardForm`).
-/

namespace Agenda

open Text

theorem Verb.mem_all (verb : Verb) : verb ∈ Verb.all := by
  cases verb <;> decide

namespace Line

variable {c : Char} {w rest text blanks : List Char}

/-! ### Command words -/

theorem isWord_word (verb : Verb) : IsWord verb.word.toList := by
  cases verb <;> decide

theorem isWordChar_of_mem_word (verb : Verb) : ∀ c ∈ verb.word.toList, isWordChar c = true := by
  refine List.all_eq_true.mp ?_
  cases verb <;> decide +kernel

theorem not_isOneOf_synonyms (verb : Verb) :
    ∀ other ∈ Verb.all, isOneOf other.synonyms verb.word.toList = false := by
  cases verb <;> decide +kernel

theorem lower_word (verb : Verb) : lower verb.word.toList = verb.word.toList := by
  cases verb <;> decide +kernel

theorem ofWord?_word (verb : Verb) : Verb.ofWord? verb.word = some verb := by
  cases verb <;> decide +kernel

/-! ### Connectors -/

/-- The text with ` @` in place of each connector and the blank before it. -/
def marked : List Char → List Char
  | [] => []
  | c :: cs =>
    if isBlank c && isOneOf connectors (cs.takeWhile isWordChar) then
      ' ' :: '@' :: marked (cs.dropWhile isWordChar)
    else c :: marked cs
  termination_by text => text.length
  decreasing_by
    · exact Nat.lt_succ_of_le (List.dropWhile_sublist _).length_le
    · exact Nat.lt_succ_self _

theorem marked_nil : marked [] = [] := by
  rw [marked]

theorem not_isOneOf_connectors_nil : isOneOf connectors [] = false := by
  decide

/-- A run goes on with a character of its own kind without another mark. -/
theorem markConnectors_cons_cons (c d : Char) (run : List Char) (more : List (List Char)) :
    (markConnectors ((c :: d :: run) :: more)).flatten
      = c :: (markConnectors ((d :: run) :: more)).flatten := by
  cases more with
  | nil => rfl
  | cons word rest =>
    have hlast : endsInBlank (c :: d :: run) = endsInBlank (d :: run) := by
      unfold endsInBlank
      rw [List.getLast?_cons_cons]
    rw [markConnectors, markConnectors, hlast]
    split
    · rfl
    · rfl

theorem ne_nil_of_connector (h : isOneOf connectors w = true) : w ≠ [] := by
  rintro rfl
  rw [not_isOneOf_connectors_nil] at h
  cases h

/-- The word behind a character of the other kind is a run, so the runs show a blank and a connector
only where the text has them. -/
theorem not_marked_of_differ {cs run : List Char} {more : List (List Char)}
    (hcond : (isBlank c && isOneOf connectors (cs.takeWhile isWordChar)) = false)
    (hruns : runs cs = run :: more) (hdiffer : ∀ d ∈ cs.head?, isWordChar c ≠ isWordChar d) :
    (endsInBlank [c] && isOneOf connectors run) = false := by
  show (isBlank c && _) = false
  cases hblank : isBlank c with
  | false => rfl
  | true =>
    cases cs with
    | nil => cases hruns
    | cons d ds =>
      have hd : isWordChar d = true := by
        have hother := hdiffer d rfl
        rw [isWordChar_of_isBlank hblank] at hother
        simpa using hother.symm
      have hword : (d :: ds).takeWhile isWordChar ≠ [] := by
        rw [List.takeWhile_cons_of_pos hd]
        exact List.cons_ne_nil _ _
      have hfirst := runs_eq_takeWhile hword
      rw [hruns, List.cons_eq_cons] at hfirst
      rwa [hblank, ← hfirst.1] at hcond

/-- **Marking the runs of a text is marking the text.** -/
theorem flatten_markConnectors (text : List Char) :
    (markConnectors (runs text)).flatten = marked text := by
  fun_induction marked text with
  | case1 => rfl
  -- a blank and a connector are two runs of the text
  | case2 c cs hcond ih =>
    obtain ⟨hblank, hconnector⟩ := Bool.and_eq_true_iff.mp hcond
    have hends : endsInBlank [c] = true := hblank
    rw [runs_of_blank_cons hblank (ne_nil_of_connector hconnector), markConnectors, hends,
      hconnector, Bool.and_self, if_pos rfl, List.flatten_cons, ih]
    rfl
  | case3 c cs hcond ih =>
    rw [← ih]
    cases cs with
    | nil => rfl
    | cons d ds =>
      obtain ⟨run, more, hruns⟩ := exists_runs_cons d ds
      rw [runs, hruns]
      dsimp only
      split
      · exact markConnectors_cons_cons c d run more
      · rename_i hdiffer
        have hgap :=
          not_marked_of_differ (Bool.eq_false_iff.mpr hcond) hruns (by simpa using hdiffer)
        rw [markConnectors, hgap, if_neg Bool.false_ne_true]
        rfl

/-- A text goes on behind what has no blank in it as it goes on alone. -/
theorem marked_append_of_not_blank (hw : ∀ c ∈ w, isBlank c = false) (rest : List Char) :
    marked (w ++ rest) = w ++ marked rest := by
  induction w with
  | nil => rfl
  | cons c cs ih =>
    obtain ⟨hc, hcs⟩ := List.forall_mem_cons.mp hw
    rw [List.cons_append, marked, hc, Bool.false_and, if_neg Bool.false_ne_true, ih hcs,
      List.cons_append]

/-- Blanks stay before what does not begin with a connector. -/
theorem marked_append_of_blank (hblanks : ∀ c ∈ blanks, isBlank c = true)
    (hrest : isOneOf connectors (rest.takeWhile isWordChar) = false) :
    marked (blanks ++ rest) = blanks ++ marked rest := by
  induction blanks with
  | nil => rfl
  | cons c cs ih =>
    obtain ⟨-, hcs⟩ := List.forall_mem_cons.mp hblanks
    have hnext : isOneOf connectors ((cs ++ rest).takeWhile isWordChar) = false := by
      cases cs with
      | nil => exact hrest
      | cons d ds =>
        have hd := isWordChar_of_isBlank (hcs d (List.mem_cons_self ..))
        rw [List.cons_append, List.takeWhile_cons_of_neg (by simp [hd])]
        exact not_isOneOf_connectors_nil
    rw [List.cons_append, marked, hnext, Bool.and_false, if_neg Bool.false_ne_true, ih hcs,
      List.cons_append]

/-- Behind a blank a connector at the beginning of a text is marked, and nothing else changes. -/
theorem marked_space_cons (text : List Char) : marked (' ' :: text) =
    if isOneOf connectors (text.takeWhile isWordChar) then
      ' ' :: '@' :: marked (text.dropWhile isWordChar)
    else ' ' :: marked text := by
  rw [marked, isBlank_space, Bool.true_and]

/-- Whether a connector stands behind a blank somewhere in a text. -/
def hasConnector : List Char → Bool
  | [] => false
  | c :: cs => isBlank c && isOneOf connectors (cs.takeWhile isWordChar) || hasConnector cs

/-- A text stays as it is where no connector stands behind a blank. -/
theorem marked_of_not_hasConnector (h : hasConnector text = false) : marked text = text := by
  induction text with
  | nil => exact marked_nil
  | cons c cs ih =>
    obtain ⟨hcond, hcs⟩ := Bool.or_eq_false_iff.mp h
    rw [marked, hcond, if_neg Bool.false_ne_true, ih hcs]

theorem two_le_length_of_connector {w : List Char} (h : isOneOf connectors w = true) :
    2 ≤ w.length := by
  obtain ⟨name, hname, heq⟩ := List.any_eq_true.mp h
  have hlength : name.toList.length = w.length := by
    rw [eq_of_beq heq, List.length_map]
  have hall : ∀ name ∈ connectors, 2 ≤ name.toList.length := by decide
  exact hlength ▸ hall name hname

theorem length_marked_le (text : List Char) : (marked text).length ≤ text.length := by
  fun_induction marked text with
  | case1 => exact le_rfl
  | case2 c cs hcond ih =>
    have hword := two_le_length_of_connector (Bool.and_eq_true_iff.mp hcond).2
    have hcut := congrArg List.length (List.takeWhile_append_dropWhile (p := isWordChar) (l := cs))
    simp only [List.length_append, List.length_cons] at hcut ⊢
    omega
  | case3 c cs _ ih =>
    simp only [List.length_cons]
    omega

/-- **Each mark is shorter than the connector and the blank that it stands for.** -/
theorem length_marked_lt (h : hasConnector text = true) :
    (marked text).length < text.length := by
  induction text with
  | nil => cases h
  | cons c cs ih =>
    rw [marked]
    by_cases hcond : (isBlank c && isOneOf connectors (cs.takeWhile isWordChar)) = true
    · have hword := two_le_length_of_connector (Bool.and_eq_true_iff.mp hcond).2
      have hcut :=
        congrArg List.length (List.takeWhile_append_dropWhile (p := isWordChar) (l := cs))
      have hrest := length_marked_le (cs.dropWhile isWordChar)
      rw [if_pos hcond]
      simp only [List.length_append, List.length_cons] at hcut ⊢
      omega
    · have hcs : hasConnector cs = true := by
        rw [hasConnector, Bool.eq_false_iff.mpr hcond, Bool.false_or] at h
        exact h
      have hrest := ih hcs
      rw [if_neg hcond]
      simp only [List.length_cons]
      omega

/-! ### The first word -/

/-- The first word of a text, when only blanks stand before it. -/
def opening (text : List Char) : List Char :=
  (trimLeft text).takeWhile isWordChar

/-- What follows the first word of a text. -/
def afterOpening (text : List Char) : List Char :=
  (trimLeft text).dropWhile isWordChar

theorem not_isWordChar_of_afterOpening (text : List Char) :
    ∀ c ∈ (afterOpening text).head?, isWordChar c = false :=
  head?_dropWhile_eq_false _ _

/-- A text is the blanks before its first word, that word and what follows it. -/
theorem eq_append_opening (text : List Char) :
    text = text.takeWhile isBlank ++ (opening text ++ afterOpening text) := by
  unfold opening afterOpening trimLeft
  rw [List.takeWhile_append_dropWhile, List.takeWhile_append_dropWhile]

theorem opening_word_append (verb : Verb) (hrest : ∀ c ∈ rest.head?, isWordChar c = false) :
    opening (verb.word.toList ++ rest) = verb.word.toList := by
  rw [opening, trimLeft_append_of_isWord (isWord_word verb)]
  exact takeWhile_append_of_head? (isWordChar_of_mem_word verb) hrest

/-- A text whose first word is no synonym stays as it is. -/
theorem foldl_replaceSynonym_of_forall {verbs : List Verb}
    (h : ∀ verb ∈ verbs, isOneOf verb.synonyms (opening text) = false) :
    verbs.foldl (fun text verb => replaceSynonym verb text) text = text := by
  induction verbs with
  | nil => rfl
  | cons verb rest ih =>
    obtain ⟨hverb, hrest⟩ := List.forall_mem_cons.mp h
    have hsame : replaceSynonym verb text = text := by
      unfold replaceSynonym
      exact if_neg (Bool.eq_false_iff.mp hverb)
    rw [List.foldl_cons, hsame, ih hrest]

/-- **A synonym at the beginning of a line becomes the command word, and no other one does.** -/
theorem named_cases (verbs : List Verb) (text : List Char) :
    ((∀ verb ∈ verbs, isOneOf verb.synonyms (opening text) = false) ∧
      verbs.foldl (fun text verb => replaceSynonym verb text) text = text) ∨
    ∃ verb ∈ verbs, isOneOf verb.synonyms (opening text) = true ∧
      verbs.foldl (fun text verb => replaceSynonym verb text) text
        = verb.word.toList ++ afterOpening text := by
  induction verbs with
  | nil => exact Or.inl ⟨List.forall_mem_nil _, rfl⟩
  | cons verb rest ih =>
    cases hverb : isOneOf verb.synonyms (opening text) with
    | true =>
      refine Or.inr ⟨verb, List.mem_cons_self .., hverb, ?_⟩
      have hreplaced : replaceSynonym verb text = verb.word.toList ++ afterOpening text := by
        unfold replaceSynonym
        exact if_pos hverb
      -- the command word that stands there now is no synonym
      have hword := opening_word_append verb (not_isWordChar_of_afterOpening text)
      rw [List.foldl_cons, hreplaced]
      refine foldl_replaceSynonym_of_forall fun other _ => ?_
      rw [hword]
      exact not_isOneOf_synonyms verb other (Verb.mem_all other)
    | false =>
      have hsame : replaceSynonym verb text = text := by
        unfold replaceSynonym
        exact if_neg (Bool.eq_false_iff.mp hverb)
      rw [List.foldl_cons, hsame]
      rcases ih with ⟨hnone, hfold⟩ | ⟨other, hother, hone, hfold⟩
      · exact Or.inl ⟨List.forall_mem_cons.mpr ⟨hverb, hnone⟩, hfold⟩
      · exact Or.inr ⟨other, List.mem_cons_of_mem _ hother, hone, hfold⟩

/-- **A line in standard form**: a synonym at its beginning has become the command word, and the
connectors are marked. -/
theorem standardForm_cases (text : List Char) :
    ((∀ verb : Verb, isOneOf verb.synonyms (opening text) = false) ∧
      standardForm text = marked text) ∨
    ∃ verb : Verb, isOneOf verb.synonyms (opening text) = true ∧
      standardForm text = verb.word.toList ++ marked (afterOpening text) := by
  rcases named_cases Verb.all text with ⟨hnone, hfold⟩ | ⟨verb, -, hverb, hfold⟩
  · refine Or.inl ⟨fun verb => hnone verb (Verb.mem_all verb), ?_⟩
    unfold standardForm
    rw [hfold, flatten_markConnectors]
  · refine Or.inr ⟨verb, hverb, ?_⟩
    unfold standardForm
    rw [hfold, flatten_markConnectors, marked_append_of_not_blank (isWord_word verb).not_blank]

/-- A command word at the beginning of a line stays, and the connectors behind it are marked. -/
theorem standardForm_word_append (verb : Verb) (hrest : ∀ c ∈ rest.head?, isWordChar c = false) :
    standardForm (verb.word.toList ++ rest) = verb.word.toList ++ marked rest := by
  rcases standardForm_cases (verb.word.toList ++ rest) with ⟨-, h⟩ | ⟨other, hother, -⟩
  · rw [h, marked_append_of_not_blank (isWord_word verb).not_blank]
  · rw [opening_word_append verb hrest, not_isOneOf_synonyms verb other (Verb.mem_all other)]
      at hother
    cases hother

/-! ### Lines in standard form -/

/-- A line in which nothing is to be replaced: it begins with no synonym, and no connector stands
behind a blank. -/
structure IsStandard (text : List Char) : Prop where
  not_synonym : ∀ verb : Verb, isOneOf verb.synonyms (opening text) = false
  not_connector : hasConnector text = false

/-- A mark begins like the blank that it stands for, with no word. -/
theorem takeWhile_marked (text : List Char) :
    (marked text).takeWhile isWordChar = text.takeWhile isWordChar := by
  fun_induction marked text with
  | case1 => rfl
  | case2 c cs hcond _ =>
    have hc := isWordChar_of_isBlank (Bool.and_eq_true_iff.mp hcond).1
    rw [List.takeWhile_cons_of_neg (by simp [isWordChar_space]),
      List.takeWhile_cons_of_neg (by simp [hc])]
  | case3 c cs _ ih => rw [List.takeWhile_cons, List.takeWhile_cons, ih]

/-- **Marking leaves no connector behind a blank**, neither in a mark nor behind it. -/
theorem hasConnector_marked (text : List Char) : hasConnector (marked text) = false := by
  fun_induction marked text with
  | case1 => rfl
  | case2 c cs _ ih =>
    have hmark : ('@' :: marked (cs.dropWhile isWordChar)).takeWhile isWordChar = [] :=
      List.takeWhile_cons_of_neg (by simp [isWordChar_at])
    rw [hasConnector, hasConnector, hmark, not_isOneOf_connectors_nil, isBlank_at, ih]
    rfl
  -- what stands behind the character begins with the word that stood there before
  | case3 c cs hcond ih =>
    rw [hasConnector, takeWhile_marked, Bool.eq_false_iff.mpr hcond, ih]
    rfl

theorem opening_of_blank (hc : isBlank c = true) (text : List Char) :
    opening (c :: text) = opening text := by
  unfold opening
  rw [trimLeft_cons_of_blank hc]

theorem opening_of_not_blank (hc : isBlank c = false) (text : List Char) :
    opening (c :: text) = (c :: text).takeWhile isWordChar := by
  unfold opening
  rw [trimLeft_cons_of_not_blank hc]

/-- Marking leaves the first word of a text as it is, unless that is a connector behind a blank. -/
theorem opening_marked (text : List Char) :
    opening (marked text) = opening text ∨ opening (marked text) = [] := by
  fun_induction marked text with
  | case1 => exact Or.inl rfl
  | case2 c cs _ _ =>
    right
    rw [opening_of_blank isBlank_space, opening_of_not_blank isBlank_at,
      List.takeWhile_cons_of_neg (by simp [isWordChar_at])]
  | case3 c cs _ ih =>
    cases hc : isBlank c with
    | true => rwa [opening_of_blank hc, opening_of_blank hc]
    | false =>
      left
      rw [opening_of_not_blank hc, opening_of_not_blank hc, List.takeWhile_cons,
        List.takeWhile_cons, takeWhile_marked]

theorem ne_nil_of_synonym {verb : Verb} (h : isOneOf verb.synonyms w = true) : w ≠ [] := by
  rintro rfl
  revert h
  cases verb <;> decide

/-- Marking makes no synonym the first word. -/
theorem IsStandard.of_marked (h : ∀ verb : Verb, isOneOf verb.synonyms (opening text) = false) :
    IsStandard (marked text) := by
  refine ⟨fun verb => ?_, hasConnector_marked text⟩
  rcases opening_marked text with hsame | hnil
  · rw [hsame]
    exact h verb
  · rw [hnil, Bool.eq_false_iff]
    exact fun hsynonym => ne_nil_of_synonym hsynonym rfl

/-- **Nothing is to be replaced in the standard form of a line.** -/
theorem isStandard_standardForm (text : List Char) : IsStandard (standardForm text) := by
  rcases standardForm_cases text with ⟨hnone, hform⟩ | ⟨verb, -, hform⟩
  · rw [hform]
    exact .of_marked hnone
  · rw [hform, ← marked_append_of_not_blank (isWord_word verb).not_blank]
    refine .of_marked fun other => ?_
    rw [opening_word_append verb (not_isWordChar_of_afterOpening text)]
    exact not_isOneOf_synonyms verb other (Verb.mem_all other)

/-- **The lines that stay as they are are those in which nothing is to be replaced.** -/
theorem standardForm_eq_self_iff : standardForm text = text ↔ IsStandard text := by
  constructor
  · intro h
    rw [← h]
    exact isStandard_standardForm text
  · rintro ⟨hsynonym, hconnector⟩
    rcases standardForm_cases text with ⟨-, hform⟩ | ⟨verb, hverb, -⟩
    · rw [hform, marked_of_not_hasConnector hconnector]
    · rw [hsynonym verb] at hverb
      cases hverb

end Line

end Agenda

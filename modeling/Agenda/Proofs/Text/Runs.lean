import Agenda.Proofs.Text.Words
import Agenda.Text.Word
import Mathlib.Data.List.TakeWhile

/-!
# Runs of a text

No character is both a blank and part of a word (`isWordChar_of_isBlank`), so a blank always lies
between words. A stretch of characters of one kind that cannot be longer is the first run of a text
(`runs_append`). What is to hold of all characters of a range is tried out on its code points
(`forall_of_codes`).
-/

namespace Agenda.Text

variable {c : Char} {n : ℕ} {text run rest : List Char}

/-! ### Sets of code points -/

theorem exists_range_of_contains {ranges : CodeRanges} (h : ranges.contains n = true) :
    ∃ r ∈ ranges, r.1 ≤ n ∧ n ≤ r.2 := by
  induction ranges with
  | nil => cases h
  | cons r rest ih =>
    obtain ⟨first, last⟩ := r
    unfold CodeRanges.contains at h
    split at h
    · cases h
    rename_i hfirst
    rcases (Bool.or_eq_true _ _).mp h with hlast | hrest
    · exact ⟨_, List.mem_cons_self .., Nat.le_of_not_lt hfirst, of_decide_eq_true hlast⟩
    · obtain ⟨r, hr, hbounds⟩ := ih hrest
      exact ⟨r, List.mem_cons_of_mem _ hr, hbounds⟩

/-- What holds of the code points of a range holds of its characters. -/
theorem forall_of_codes {p : Char → Prop} {first last : ℕ}
    (h : ∀ n < last, first ≤ n → p (Char.ofNat n)) :
    ∀ c : Char, first ≤ c.toNat → c.toNat < last → p c := by
  intro c hlow hhigh
  have hc := h c.toNat hhigh hlow
  rwa [Char.ofNat_toNat] at hc

/-- **Blanks belong to no word.** -/
theorem isWordChar_of_isBlank (h : isBlank c = true) : isWordChar c = false := by
  -- the two tables have no range in common, which is tried out on the ranges
  have hapart : ∀ blank ∈ blankRanges, ∀ word ∈ wordRanges,
      blank.2 < word.1 ∨ word.2 < blank.1 := by
    decide +kernel
  obtain ⟨blank, hblank, hlo, hhi⟩ := exists_range_of_contains h
  refine Bool.eq_false_iff.mpr fun hmem => ?_
  obtain ⟨word, hword, hlo', hhi'⟩ := exists_range_of_contains hmem
  have := hapart blank hblank word hword
  omega

theorem isWordChar_space : isWordChar ' ' = false :=
  isWordChar_of_isBlank isBlank_space

theorem isWordChar_at : isWordChar '@' = false := by
  decide +kernel

theorem isBlank_at : isBlank '@' = false := by
  decide

theorem not_blank_of_isWordChar (h : isWordChar c = true) : isBlank c = false := by
  refine Bool.eq_false_iff.mpr fun hblank => ?_
  rw [isWordChar_of_isBlank hblank] at h
  cases h

/-- Digits belong to words, and they come before the letters. -/
theorem isWordChar_of_isDigit (h : c.isDigit = true) : isWordChar c = true ∧ c.toNat < 65 := by
  have hall : ∀ c : Char, 48 ≤ c.toNat → c.toNat < 58 → isWordChar c = true :=
    forall_of_codes (by decide +kernel)
  obtain ⟨hlow, hhigh⟩ := Char.isDigit_iff_toNat.mp h
  have hlt : c.toNat < 58 := Nat.lt_succ_of_le hhigh
  exact ⟨hall c hlow hlt, by omega⟩

/-! ### The first run -/

theorem exists_runs_cons (c : Char) (cs : List Char) :
    ∃ run more, runs (c :: cs) = (c :: run) :: more := by
  unfold runs
  split
  · split
    · exact ⟨_, _, rfl⟩
    · exact ⟨_, _, rfl⟩
  · exact ⟨_, _, rfl⟩

/-- **Where a text ends in one kind of character and goes on with the other, a run ends.** -/
theorem runs_append_of_apart (h : ∀ c ∈ text.getLast?, ∀ d ∈ rest.head?,
    isWordChar c ≠ isWordChar d) : runs (text ++ rest) = runs text ++ runs rest := by
  induction text with
  | nil => rfl
  | cons c cs ih =>
    cases cs with
    | nil =>
      -- the seam: the last character of the text and the first one behind it
      cases rest with
      | nil => rfl
      | cons d ds =>
        obtain ⟨run, more, hruns⟩ := exists_runs_cons d ds
        have hdiffer : (isWordChar c == isWordChar d) = false :=
          beq_eq_false_iff_ne.mpr (h c rfl d rfl)
        show runs (c :: d :: ds) = _
        rw [runs, hruns]
        simp only [hdiffer, if_neg Bool.false_ne_true]
        rfl
    | cons d ds =>
      -- away from the seam, a character joins the run behind it as it does without the rest
      have hmore := ih (by rwa [List.getLast?_cons_cons] at h)
      obtain ⟨run, more, hruns⟩ := exists_runs_cons d ds
      rw [hruns, List.cons_append, List.cons_append] at hmore
      rw [List.cons_append, runs, List.cons_append, hmore, runs, hruns]
      dsimp only
      split <;> rfl

theorem runs_of_forall {b : Bool} (hne : run ≠ []) (hrun : ∀ c ∈ run, isWordChar c = b) :
    runs run = [run] := by
  induction run with
  | nil => exact absurd rfl hne
  | cons c cs ih =>
    obtain ⟨hc, hcs⟩ := List.forall_mem_cons.mp hrun
    cases cs with
    | nil => rfl
    | cons d ds =>
      have hd := hcs d (List.mem_cons_self ..)
      rw [runs, ih (List.cons_ne_nil d ds) hcs]
      simp only [hc, hd, beq_self_eq_true, if_pos]

/-- **A stretch of one kind that cannot be longer is a run.** -/
theorem runs_append {b : Bool} (hne : run ≠ []) (hrun : ∀ c ∈ run, isWordChar c = b)
    (hrest : ∀ c ∈ rest.head?, isWordChar c = !b) : runs (run ++ rest) = run :: runs rest := by
  have hapart : ∀ c ∈ run.getLast?, ∀ d ∈ rest.head?, isWordChar c ≠ isWordChar d := by
    intro c hc d hd
    rw [hrun c (List.mem_of_getLast? hc), hrest d hd]
    cases b <;> decide
  rw [runs_append_of_apart hapart, runs_of_forall hne hrun, List.singleton_append]

/-- What is left after dropping does not begin with what was dropped. -/
theorem head?_dropWhile_eq_false (p : Char → Bool) (text : List Char) :
    ∀ c ∈ (text.dropWhile p).head?, p c = false := by
  intro c hc
  have h := List.head?_dropWhile_not p text
  rw [Option.mem_def.mp hc] at h
  exact h

/-- The first run of a text that begins with a word is that word. -/
theorem runs_eq_takeWhile (hne : text.takeWhile isWordChar ≠ []) :
    runs text = text.takeWhile isWordChar :: runs (text.dropWhile isWordChar) := by
  have h : runs (text.takeWhile isWordChar ++ text.dropWhile isWordChar) = _ :=
    runs_append hne (fun c hc => List.mem_takeWhile_imp hc) (head?_dropWhile_eq_false _ text)
  rwa [List.takeWhile_append_dropWhile] at h

/-- A blank and the word behind it are the first two runs of a text. -/
theorem runs_of_blank_cons (hc : isBlank c = true) (hne : text.takeWhile isWordChar ≠ []) :
    runs (c :: text) = [c] :: text.takeWhile isWordChar :: runs (text.dropWhile isWordChar) := by
  have hapart : ∀ b ∈ [c].getLast?, ∀ d ∈ text.head?, isWordChar b ≠ isWordChar d := by
    intro b hb d hd
    obtain rfl : c = b := Option.some.inj hb
    cases text with
    | nil => cases hd
    | cons e es =>
      obtain rfl := Option.some.inj hd
      rw [isWordChar_of_isBlank hc]
      intro hsame
      rw [List.takeWhile_cons_of_neg (by simp [← hsame])] at hne
      exact hne rfl
  have hruns := runs_append_of_apart hapart
  rwa [runs_eq_takeWhile hne] at hruns

end Agenda.Text

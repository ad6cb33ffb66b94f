import Agenda.Proofs.Text.Runs
import Agenda.Text.LowerCase

/-!
# What lower-casing leaves alone

Lower-casing touches capital letters and makes lower-case letters of them. A range of code points
that has neither in it is `IsCaseless`: its characters stay as they are, and no other character
becomes one of them. So whether a text is made of characters from such ranges can be seen before or
after lower-casing (`all_lower`). Blanks and the signs of id lists lie in such ranges.
-/

namespace Agenda.Text

variable {c d : Char} {r : ℕ × ℕ} {p : Char → Bool}

/-! ### Caseless ranges -/

/-- The code points that have to do with lower-casing outside of the table: the dotted capital I and
its two characters, and the final sigma. -/
def casedApart : List ℕ := [0x130, 0x69, 0x307, 0x3C2]

/-- No capital letter lies in a range, and no lower-case form of one: neither those of the table nor
those that are lowered in a way of their own. -/
def IsCaseless (r : ℕ × ℕ) : Prop :=
  0 < r.1 ∧ (∀ n ∈ casedApart, n < r.1 ∨ r.2 < n) ∧
    ∀ run ∈ lowerRuns, (r.2 < run.first ∨ run.last < r.1) ∧
      ((r.2 : ℤ) < run.first + run.shift ∨ run.last + run.shift < r.1)

theorem isCaseless_comma : IsCaseless (0x2C, 0x2C) := by
  unfold IsCaseless
  decide +kernel

theorem isCaseless_blank : ∀ r ∈ blankRanges, IsCaseless r := by
  unfold IsCaseless
  decide +kernel

/-- A character lies in a caseless range. -/
def IsUncased (c : Char) : Prop :=
  ∃ r, IsCaseless r ∧ r.1 ≤ c.toNat ∧ c.toNat ≤ r.2

theorem isUncased_comma : IsUncased ',' :=
  ⟨_, isCaseless_comma, by decide, by decide⟩

theorem isUncased_of_isBlank (h : isBlank c = true) : IsUncased c := by
  obtain ⟨r, hr, hbounds⟩ := exists_range_of_contains h
  exact ⟨r, isCaseless_blank r hr, hbounds⟩

theorem IsUncased.notMem (h : IsUncased c) : c.toNat ∉ casedApart := by
  obtain ⟨r, ⟨-, hapart, -⟩, hlo, hhi⟩ := h
  intro hmem
  have := hapart c.toNat hmem
  omega

/-! ### Single characters -/

theorem exists_run_of_lookupLower {n m : ℕ} {table : List CaseRun}
    (h : lookupLower table n = some m) :
    ∃ run ∈ table, run.first ≤ n ∧ n ≤ run.last ∧ m = ((n : ℤ) + run.shift).toNat := by
  induction table with
  | nil => cases h
  | cons run rest ih =>
    unfold lookupLower at h
    split at h
    · cases h
    rename_i hfirst
    split at h
    · rename_i hin
      exact ⟨run, List.mem_cons_self .., Nat.le_of_not_lt hfirst, hin.1, (Option.some.inj h).symm⟩
    · obtain ⟨run', hrun', hbounds⟩ := ih h
      exact ⟨run', List.mem_cons_of_mem _ hrun', hbounds⟩

theorem toNat_ofNat_or (n : ℕ) : (Char.ofNat n).toNat = n ∨ (Char.ofNat n).toNat = 0 := by
  unfold Char.ofNat
  by_cases hvalid : n.isValidChar
  · rw [dif_pos hvalid]
    exact Or.inl rfl
  · rw [dif_neg hvalid]
    exact Or.inr rfl

theorem lowerChar_of_isUncased (h : IsUncased c) : lowerChar c = [c] := by
  have hdotted : c ≠ '\u0130' := by
    rintro rfl
    exact h.notMem (by decide)
  obtain ⟨r, ⟨-, -, hruns⟩, hlo, hhi⟩ := h
  unfold lowerChar
  rw [if_neg hdotted]
  split
  · -- a run of the table would meet the range
    rename_i n hlookup
    obtain ⟨run, hrun, hfirst, hlast, -⟩ := exists_run_of_lookupLower hlookup
    have := (hruns run hrun).1
    omega
  · rfl

theorem lowerChar_ne_nil (c : Char) : lowerChar c ≠ [] := by
  unfold lowerChar
  split
  · exact List.cons_ne_nil _ _
  · split <;> exact List.cons_ne_nil _ _

/-- A character of a caseless range stands in no lower-case form but its own. -/
theorem eq_of_mem_lowerChar (hd : IsUncased d) (h : d ∈ lowerChar c) : d = c := by
  unfold lowerChar at h
  split at h
  · refine absurd ?_ hd.notMem
    rcases List.mem_pair.mp h with rfl | rfl
    · decide
    · decide
  split at h
  · rename_i n hlookup
    obtain ⟨run, hrun, hfirst, hlast, rfl⟩ := exists_run_of_lookupLower hlookup
    obtain ⟨r, ⟨hpos, -, hruns⟩, hlo, hhi⟩ := hd
    have hapart := (hruns run hrun).2
    have hcode := toNat_ofNat_or ((c.toNat : ℤ) + run.shift).toNat
    rw [← List.mem_singleton.mp h] at hcode
    omega
  · exact List.mem_singleton.mp h

/-! ### Texts -/

/-- An ASCII character or a blank. -/
def IsPlain (c : Char) : Prop :=
  c.toNat < 128 ∨ isBlank c = true

instance (c : Char) : Decidable (IsPlain c) :=
  inferInstanceAs (Decidable (_ ∨ _))

theorem toLower_of_isBlank (h : isBlank c = true) : c.toLower = c := by
  have hletters : ∀ n < 91, 65 ≤ n → blankRanges.contains n = false := by decide
  unfold Char.toLower
  refine dif_neg fun hcapital => ?_
  have hlo : 65 ≤ c.toNat := hcapital.1
  have hhi : c.toNat ≤ 90 := hcapital.2
  have hnot : isBlank c = false := hletters c.toNat (by omega) hlo
  rw [h] at hnot
  cases hnot

theorem lowerChar_of_isPlain (h : IsPlain c) : lowerChar c = [c.toLower] := by
  rcases h with hascii | hblank
  · have hall : ∀ c : Char, 0 ≤ c.toNat → c.toNat < 128 → lowerChar c = [c.toLower] :=
      forall_of_codes (by decide +kernel)
    exact hall c (Nat.zero_le _) hascii
  · rw [lowerChar_of_isUncased (isUncased_of_isBlank hblank), toLower_of_isBlank hblank]

/-- **A text of ASCII characters and blanks is lowered letter by letter.** -/
theorem lower_of_isPlain {text : List Char} (h : ∀ c ∈ text, IsPlain c) :
    lower text = text.map Char.toLower := by
  have hfrom : ∀ before, lowerFrom before text = text.map Char.toLower := by
    induction text with
    | nil => exact fun _ => rfl
    | cons c cs ih =>
      intro before
      obtain ⟨hc, hcs⟩ := List.forall_mem_cons.mp h
      have hsigma : c ≠ '\u03A3' := by
        rintro rfl
        revert hc
        decide
      rw [lowerFrom, if_neg hsigma, lowerChar_of_isPlain hc, ih hcs]
      rfl
  exact hfrom []

theorem lower_of_lt {text : List Char} (h : ∀ c ∈ text, c.toNat < 65) : lower text = text := by
  have hsame : text.map Char.toLower = text.map id := by
    refine List.map_congr_left fun c hc => dif_neg fun hcapital => ?_
    have hlo : 65 ≤ c.toNat := hcapital.1
    have hlt := h c hc
    omega
  rw [lower_of_isPlain fun c hc => Or.inl (Nat.lt_trans (h c hc) (by decide)), hsame, List.map_id]

theorem not_isUncased_sigma : ¬IsUncased '\u03A3' := by
  intro h
  have hsame := lowerChar_of_isUncased h
  revert hsame
  decide +kernel

/-- The forms of a sigma are no characters of caseless ranges. -/
theorem not_isUncased_lowerSigma (before after : List Char) :
    ¬IsUncased (lowerSigma before after) := by
  intro h
  unfold lowerSigma at h
  split at h
  · exact h.notMem (by decide)
  · have hsame : '\u03C3' = '\u03A3' := eq_of_mem_lowerChar h (by decide +kernel)
    exact absurd hsame (by decide)

/-- **Lower-casing keeps what a text is made of**, as far as caseless ranges go. -/
theorem all_lower (hp : ∀ c, p c = true → IsUncased c) (text : List Char) :
    (lower text).all p = text.all p := by
  have hcased : ∀ c, ¬IsUncased c → p c = false := fun c hc =>
    Bool.eq_false_iff.mpr fun hmem => hc (hp c hmem)
  have hfrom : ∀ before, (lowerFrom before text).all p = text.all p := by
    induction text with
    | nil => exact fun _ => rfl
    | cons c cs ih =>
      intro before
      rw [lowerFrom, List.all_append, List.all_cons, ih]
      congr 1
      split
      · rename_i hsigma
        rw [List.all_cons, List.all_nil, Bool.and_true, hsigma, hcased _ not_isUncased_sigma,
          hcased _ (not_isUncased_lowerSigma before cs)]
      · by_cases hc : IsUncased c
        · rw [lowerChar_of_isUncased hc, List.all_cons, List.all_nil, Bool.and_true]
        -- the first character of the form is no such character either
        · obtain ⟨d, ds, hform⟩ := List.exists_cons_of_ne_nil (lowerChar_ne_nil c)
          have hd : ¬IsUncased d := fun hd => by
            have hsame := eq_of_mem_lowerChar hd (hform ▸ List.mem_cons_self ..)
            exact hc (hsame ▸ hd)
          rw [hcased c hc, hform, List.all_cons, hcased d hd, Bool.false_and]
  exact hfrom []

end Agenda.Text

import Agenda.Text.Width
import Mathlib.Data.List.Infix

/-!
# Texts cut to a number of columns

The columns of a text add up from those of its characters (`columns_append`), so whatever goes on
behind a character that does not fit does not fit either. That is why a text can be cut at the first
such character: the cut is the longest beginning that fits (`isLongestWithin_takeColumns`), with all
characters that take no column and stand right before it. `abbreviate_cuts_little` says what becomes
of a text that has to fit into some columns.
-/

namespace Agenda.Text

variable {text : List Char} {limit : ℕ}

/-! ### The columns of a beginning -/

theorem columns_cons (c : Char) (cs : List Char) :
    columns (c :: cs) = charColumns c + columns cs :=
  rfl

theorem columns_append (text more : List Char) :
    columns (text ++ more) = columns text + columns more := by
  induction text with
  | nil => exact (Nat.zero_add _).symm
  | cons c cs ih =>
    rw [List.cons_append, columns_cons, columns_cons, ih]
    omega

/-- The mark of an omission takes one column. -/
theorem columns_omission : columns ['…'] = 1 := by
  decide +kernel

/-! ### The longest beginning that fits -/

/-- The longest beginning of a text that fits into a number of columns. -/
structure IsLongestWithin (limit : ℕ) (text cut : List Char) : Prop where
  beginning : cut <+: text
  columns_le : columns cut ≤ limit
  longest : ∀ p, p <+: text → columns p ≤ limit → p <+: cut

/-- **Stopping at the first character that does not fit leaves nothing out that would fit.** -/
theorem isLongestWithin_takeColumns (limit : ℕ) (text : List Char) :
    IsLongestWithin limit text (takeColumns (limit + 1) text) := by
  induction text generalizing limit with
  | nil => exact ⟨List.prefix_rfl, Nat.zero_le _, fun p hp _ => hp⟩
  | cons c cs ih =>
    unfold takeColumns
    split
    · rename_i hfits
      have hleft : limit + 1 - charColumns c = limit - charColumns c + 1 := by omega
      obtain ⟨hbeginning, hcolumns, hlongest⟩ := ih (limit - charColumns c)
      rw [hleft]
      refine ⟨List.cons_prefix_cons.mpr ⟨rfl, hbeginning⟩, ?_, ?_⟩
      · rw [columns_cons]
        omega
      · intro p hp hlimit
        cases p with
        | nil => exact List.nil_prefix
        | cons d ds =>
          obtain ⟨rfl, hds⟩ := List.cons_prefix_cons.mp hp
          rw [columns_cons] at hlimit
          exact List.cons_prefix_cons.mpr ⟨rfl, hlongest ds hds (by omega)⟩
    -- whatever begins with this character takes too many columns
    · rename_i hwide
      refine ⟨List.nil_prefix, Nat.zero_le _, ?_⟩
      intro p hp hlimit
      cases p with
      | nil => exact List.prefix_rfl
      | cons d ds =>
        obtain ⟨rfl, -⟩ := List.cons_prefix_cons.mp hp
        rw [columns_cons] at hlimit
        omega

/-! ### Abbreviated texts -/

/-- A text that does not fit is cut so that it fits together with the mark. -/
theorem exists_abbreviate_eq (hlimit : 1 ≤ limit) (h : limit < columns text) :
    ∃ cut, IsLongestWithin (limit - 1) text cut ∧ abbreviate limit text = cut ++ ['…'] := by
  have hlongest := isLongestWithin_takeColumns (limit - 1) text
  rw [Nat.sub_add_cancel hlimit] at hlongest
  refine ⟨_, hlongest, ?_⟩
  unfold abbreviate
  exact if_neg (Nat.not_le.mpr h)

theorem columns_abbreviate_le (hlimit : 1 ≤ limit) (text : List Char) :
    columns (abbreviate limit text) ≤ limit := by
  rcases Nat.lt_or_ge limit (columns text) with hwide | hfits
  · obtain ⟨cut, hcut, heq⟩ := exists_abbreviate_eq hlimit hwide
    have hle := hcut.columns_le
    rw [heq, columns_append, columns_omission]
    omega
  · unfold abbreviate
    rwa [if_pos hfits]

/-- **An abbreviated text fits, and as little as possible is cut off.** For one column or more: the
text stays as it is exactly when it fits; a text that does not fit is cut to its longest beginning
that leaves one column free, which the mark of the omission takes; and what comes out fits. -/
theorem abbreviate_cuts_little (hlimit : 1 ≤ limit) (text : List Char) :
    (abbreviate limit text = text ↔ columns text ≤ limit) ∧
    (limit < columns text →
      ∃ cut, IsLongestWithin (limit - 1) text cut ∧ abbreviate limit text = cut ++ ['…']) ∧
    columns (abbreviate limit text) ≤ limit := by
  have hfits := columns_abbreviate_le hlimit text
  refine ⟨⟨fun hsame => ?_, fun hle => ?_⟩, exists_abbreviate_eq hlimit, hfits⟩
  · rwa [hsame] at hfits
  · unfold abbreviate
    exact if_pos hle

/-- Wide characters, and an accent without columns right where the text is cut. -/
theorem accent_kept_at_cut :
    let text := "日本e\u0301の".toList
    1 ≤ 6 ∧ 6 < columns text ∧ abbreviate 6 text = "日本e\u0301…".toList ∧
      IsLongestWithin 5 text "日本e\u0301".toList ∧ columns (abbreviate 6 text) ≤ 6 := by
  intro text
  have hlimit : 1 ≤ 6 := by decide
  have hwide : 6 < columns text := by decide +kernel
  have hsame : abbreviate 6 text = "日本e\u0301…".toList := by decide +kernel
  obtain ⟨-, hcut, hfits⟩ := abbreviate_cuts_little hlimit text
  obtain ⟨cut, hlongest, heq⟩ := hcut hwide
  have hcut : "日本e\u0301".toList ++ ['…'] = cut ++ ['…'] := by
    rw [← heq, hsame]
    decide +kernel
  rw [← List.append_cancel_right hcut] at hlongest
  exact ⟨hlimit, hwide, hsame, hlongest, hfits⟩

end Agenda.Text
